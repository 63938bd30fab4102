import Playground.Client.Delivery
import Playground.Gate.Bounds
import Playground.Gate.Codec

/-! The frame codec between a client and the gate, in both directions. -/

namespace Playground.Client

open Framing Gate Transition

namespace GateClientHandler

variable (env : ClientEnv)

def Buffers (client next : GateClientHandler) : Prop := ∃ receiver, next = { client with receiver }

theorem Buffers.trans (first : Buffers client middle)
    (second : Buffers middle next) : Buffers client next := by
  obtain ⟨_, rfl⟩ := first
  obtain ⟨receiver, rfl⟩ := second
  exact ⟨receiver, rfl⟩

def Delivers (env : ClientEnv) : GateClientHandler → List Bytes → Nat → GateClientHandler → Prop :=
  Hands Buffers fun client payload result => client.dispatchMessage env payload = some result

private theorem completeMessage_calls (client : GateClientHandler) (body : Receiver)
    (completed : client.completeMessage env body = some done) :
    ∃ after ret, { client with receiver := body }.dispatchMessage env (body.bytes body.iMsgLen) =
        some (after, ret) ∧ Buffers after done.1 ∧ done.2 = ((if ret = 0 then 0 else 1 : Nat) : Int) := by
  obtain ⟨called, handled, rfl⟩ := Option.map_eq_some_iff.mp completed
  refine ⟨called.1, called.2, handled, ⟨_, rfl⟩, ?_⟩
  by_cases fine : called.2 = 0 <;> simp [fine]

/-- Every completed payload is handed to `DispatchMessage`, and the result counts the failed calls. -/
theorem Recvs.delivers {client : GateClientHandler} (recvs : Recvs env client chunk result) :
    ∃ errors : Nat, Delivers env client (decode client.receiver.iMsgLen chunk).2 errors result.1 ∧
      result.2 = errors := by
  induction recvs with
  | waits _ _ decoded =>
    rw [decoded]
    exact ⟨0, .done ⟨_, rfl⟩, rfl⟩
  | more _ decoded completed _ ih =>
    obtain ⟨_, reset⟩ := completeMessage_some env _ _ completed
    obtain ⟨after, ret, called, kept, counted⟩ := completeMessage_calls env _ _ completed
    obtain ⟨errors, delivers, counts⟩ := ih
    rw [reset] at delivers
    rw [decoded]
    refine ⟨_, .call ⟨_, rfl⟩ called (delivers.before Buffers.trans kept), ?_⟩
    rw [Nat.cast_add, ← counted, ← counts]

def sendFrames (env : ClientEnv) (client : GateClientHandler) : List Bytes → Option GateClientHandler
  | [] => some client
  | frame :: frames => (client.sendFrame env frame).bind fun next => sendFrames env next.1 frames

def queued (client next : GateClientHandler) : Bytes := (next.sent.drop client.sent.length).flatten

def Queues (client next : GateClientHandler) (written : Nat × Bytes) : Prop :=
  next.sends = written.1 ∧ ∃ pieces, next.sent = client.sent ++ pieces ∧ pieces.flatten = written.2

private theorem sendFrame_queues (client : GateClientHandler) {buffer : Bytes}
    (small : buffer.length < 65536) :
    ∃ result, client.sendFrame env buffer = some result ∧
      Queues client result.1 (writeFrame env.sendRet client.sends buffer) := by
  have asserted : ¬ (env.asserts ∧ 65536 ≤ buffer.length) := by omega
  rw [sendFrame, if_neg asserted, Nat.mod_eq_of_lt small]
  by_cases takes : env.sendRet client.sends = 0
  · by_cases follows : env.sendRet (client.sends + 1) = 0
    · refine ⟨_, by simp [socketSend, takes, follows]; rfl, by simp [writeFrame, takes, follows],
        [lengthPrefix buffer.length, buffer], by simp, by simp [writeFrame, takes, follows, encode]⟩
    · refine ⟨_, by simp [socketSend, takes, follows]; rfl, by simp [writeFrame, takes, follows],
        [lengthPrefix buffer.length], by simp, by simp [writeFrame, takes, follows]⟩
  · refine ⟨_, by simp [socketSend, takes]; rfl, by simp [writeFrame, takes], [], by simp,
      by simp [writeFrame, takes]⟩

theorem sendFrames_queues (client : GateClientHandler) (frames : List Bytes)
    (small : ∀ frame ∈ frames, frame.length < 65536) :
    ∃ next, client.sendFrames env frames = some next ∧
      Queues client next (writeFrames env.sendRet client.sends frames) := by
  induction frames generalizing client with
  | nil => exact ⟨client, rfl, rfl, [], by simp, rfl⟩
  | cons frame frames ih =>
    obtain ⟨first, sent, sends, pieces, grown, flat⟩ :=
      sendFrame_queues env client (small frame List.mem_cons_self)
    obtain ⟨next, ran, total, later, grownLater, flatLater⟩ :=
      ih first.1 fun other member => small other (List.mem_cons_of_mem _ member)
    rw [sends] at total flatLater
    refine ⟨next, by rw [sendFrames, sent]; exact ran, total, pieces ++ later, ?_, ?_⟩
    · rw [grownLater, grown, List.append_assoc]
    · rw [List.flatten_append, flat, flatLater]
      rfl

def stream (env : ClientEnv) (client : GateClientHandler) (frames : List Bytes) (k : Nat) : Bytes :=
  (client.sendFrames env (frames.take k)).elim [] client.queued

theorem stream_eq (client : GateClientHandler) (frames : List Bytes)
    (small : ∀ frame ∈ frames, frame.length < 65536) (k : Nat) :
    client.stream env frames k = (writeFrames env.sendRet client.sends (frames.take k)).2 := by
  obtain ⟨next, ran, _, pieces, grown, flat⟩ := sendFrames_queues env client (frames.take k)
    fun frame member => small frame (List.mem_of_mem_take member)
  rw [stream, ran, Option.elim_some, queued, grown, List.drop_left, flat]

/-- The frames of each group are sent one after the other; what a group adds to the stream is one
chunk. -/
def sendGroups (env : ClientEnv) (client : GateClientHandler) : List (List Bytes) → Option (List Bytes)
  | [] => some []
  | group :: groups =>
    (client.sendFrames env group).bind fun next =>
      (sendGroups env next groups).map fun chunks => client.queued next :: chunks

theorem sendGroups_eq (all : ∀ n, env.sendRet n = 0) (client : GateClientHandler)
    (groups : List (List Bytes)) (valid : Framable groups.flatten) :
    client.sendGroups env groups = some (groups.map encodeAll) := by
  induction groups generalizing client with
  | nil => rfl
  | cons group groups ih =>
    have small : ∀ frame ∈ group, frame.length < 65536 := by
      intro frame member
      have bound := (valid frame (by simp [member])).2
      omega
    have rest : Framable groups.flatten := fun frame member => valid frame (by simp [member])
    obtain ⟨next, ran, _, pieces, grown, flat⟩ := sendFrames_queues env client group small
    have chunk : client.queued next = encodeAll group := by
      rw [queued, grown, List.drop_left, flat, writeFrames_of_all all]
    rw [sendGroups, ran, Option.bind_some, ih next rest, Option.map_some, chunk]
    rfl

def Receives (env : ClientEnv) (client : GateClientHandler) (chunk : List Bytes × Bytes)
    (next : GateClientHandler) : Prop :=
  ∃ errors : Nat, Delivers env client chunk.1 errors next ∧
    client.onDataRecv env chunk.2 = some (next, (errors : Int))

private theorem feed_receives (client : GateClientHandler) (groups : List (List Bytes))
    (valid : Framable groups.flatten) (length : client.receiver.iMsgLen = 0)
    (idle : client.receiver.iUsed = 0) (survives : client.feed env (groups.map encodeAll) = some final) :
    Steps (Receives env) client (groups.zip (groups.map encodeAll)) final ∧
      final.receiver.iMsgLen = 0 ∧ final.receiver.iUsed = 0 := by
  induction groups generalizing client with
  | nil =>
    cases survives
    exact ⟨.nil, length, idle⟩
  | cons group groups ih =>
    have now : Framable group := fun frame member => valid frame (by simp [member])
    have rest : Framable groups.flatten := fun frame member => valid frame (by simp [member])
    obtain ⟨next, received, resumed⟩ := Option.bind_eq_some_iff.mp survives
    have recvs := recvLoop_recvs env _ client (encodeAll group) (by omega) idle received
    obtain ⟨_, awaits, unused⟩ := recvs.dispatched
    have handed := recvs.delivers
    rw [length, decode_encodeAll now] at awaits handed
    obtain ⟨errors, delivers, returned⟩ := handed
    obtain ⟨later, ends⟩ := ih next.1 rest awaits unused resumed
    exact ⟨.cons ⟨errors, delivers, received.trans (congrArg some (Prod.ext rfl returned))⟩ later, ends⟩

end GateClientHandler

/-- What one side sends of a list of frames, cut into chunks of whole frames, the idle decoder of the
other side hands to its handler payload by payload, and it is idle again behind the last. -/
theorem frames_round_trip (groups : List (List Bytes)) (valid : Framable groups.flatten) :
    (∀ (clientEnv : ClientEnv) (client : GateClientHandler), (∀ n, clientEnv.sendRet n = 0) →
      ∃ chunks, client.sendGroups clientEnv groups = some chunks ∧ chunks.length = groups.length ∧
        ∀ (env : Env) (gate : GateServerHandler) (fd : Int) (i : Nat),
          gate.getConnectionByFD fd = some i →
          (gate.vecConnections i).receiver.iMsgLen = 0 → (gate.vecConnections i).receiver.iUsed = 0 →
          (gate.feed env fd chunks).getConnectionByFD fd = some i →
          Steps (GateServerHandler.Receives env fd i) gate (groups.zip chunks) (gate.feed env fd chunks) ∧
            ((gate.feed env fd chunks).vecConnections i).receiver.iMsgLen = 0 ∧
            ((gate.feed env fd chunks).vecConnections i).receiver.iUsed = 0) ∧
    ∀ (env : Env) (gate : GateServerHandler) (i : Nat), (∀ n, env.sendRet n = 0) →
      (gate.sendGroups env i groups).length = groups.length ∧
        ∀ (clientEnv : ClientEnv) (client final : GateClientHandler),
          client.receiver.iMsgLen = 0 → client.receiver.iUsed = 0 →
          client.feed clientEnv (gate.sendGroups env i groups) = some final →
          Steps (GateClientHandler.Receives clientEnv) client (groups.zip (gate.sendGroups env i groups)) final ∧
            final.receiver.iMsgLen = 0 ∧ final.receiver.iUsed = 0 := by
  constructor
  · intro clientEnv client all
    refine ⟨_, GateClientHandler.sendGroups_eq clientEnv all client groups valid, by simp, ?_⟩
    intro env gate fd i found length idle survives
    exact GateServerHandler.feed_receives env gate groups valid found length idle survives
  · intro env gate i all
    rw [GateServerHandler.sendGroups_eq env all gate i groups valid]
    refine ⟨by simp, fun clientEnv client final length idle survives => ?_⟩
    exact GateClientHandler.feed_receives clientEnv client groups valid length idle survives

theorem frames_round_trip_two_chunks :
    ∃ chunks, ({} : GateClientHandler).sendGroups deafClient [[[7], [8, 1]], [[9]]] = some chunks ∧
      Steps (GateServerHandler.Receives soleArea 5 1) oneConnection ([[[7], [8, 1]], [[9]]].zip chunks)
        (oneConnection.feed soleArea 5 chunks) := by
  have sends : ({} : GateClientHandler).sendGroups deafClient [[[7], [8, 1]], [[9]]] =
      some [[0, 1, 7, 0, 2, 8, 1], [0, 1, 9]] := by decide
  obtain ⟨chunks, sent, _, receives⟩ := (frames_round_trip [[[7], [8, 1]], [[9]]] (by simp [Framable])).1
    deafClient {} (fun _ => rfl)
  cases sends.symm.trans sent
  exact ⟨_, sends, (receives soleArea oneConnection 5 1 rfl rfl rfl (by decide)).1⟩

/-- Frames that are sent on a connection stay a sequence of frames exactly when every send behind a
torn frame fails: neither side gives the connection up when the payload fails behind its length. -/
theorem frames_stay_framed_iff (frames : List Bytes) :
    (∀ (env : Env) (gate : GateServerHandler) (i : Nat),
      StaysFramed (fun k => GateServerHandler.queued i gate (gate.sendFrames env i (frames.take k)))
          frames.length ↔
        Abandons env.sendRet gate.sends (frames.map GateServerHandler.framed)) ∧
    ∀ (env : ClientEnv) (client : GateClientHandler),
      (∀ frame ∈ frames, frame.length < 65536) →
      (StaysFramed (client.stream env frames) frames.length ↔ Abandons env.sendRet client.sends frames) := by
  constructor
  · intro env gate i
    have small : ∀ payload ∈ frames.map GateServerHandler.framed, payload.length < 65536 := by
      intro payload member
      obtain ⟨frame, _, rfl⟩ := List.mem_map.mp member
      rw [GateServerHandler.length_framed]
      exact Nat.mod_lt _ (by decide)
    have framed := staysFramed_iff_abandons env.sendRet gate.sends small wellFramed_nil
    simpa [GateServerHandler.queued_sendFrames, List.map_take] using framed
  · intro env client small
    rw [funext (GateClientHandler.stream_eq env client frames small)]
    simpa using staysFramed_iff_abandons env.sendRet client.sends small wellFramed_nil

theorem frames_stay_framed_then_silent :
    StaysFramed (({} : GateClientHandler).stream
      { deafClient with sendRet := fun n => if n < 2 then 0 else 1 } [[7], [8], [9]]) 3 := by
  refine ((frames_stay_framed_iff [[7], [8], [9]]).2 _ {} (by simp)).mpr ?_
  simp [Abandons, Torn, writeFrame]

def tearing : Env := { soleArea with sendRet := fun n => if n = 5 then 1 else 0 }

def agentSends (byte : UInt8) :
    Event := .agentMessage { event := .data, idx := 1, uid := 7, area := 1 } [byte]

def tearingGate : GateServerHandler :=
  (runAll (step tearing) (GateServerHandler.init tearing 4 0 fun _ => 0) login).get (by decide)

/-- The agent sends the bytes 7 and 8. The length of the first stays in the stream without its
payload, and the frame of the second follows it. -/
theorem torn_frame_followed :
    (∃ final, Steps (EventStep tearing) (GateServerHandler.init tearing 4 0 fun _ => 0)
        (login ++ [agentSends 7, agentSends 8]) final ∧
      (sentTo 1 final.out).flatten = [0, 0, 0, 0, 0, 1, 0, 1, 8]) ∧
    ¬ StaysFramed (fun k => GateServerHandler.queued 1 tearingGate
      (tearingGate.sendFrames tearing 1 ([[7], [8]].take k))) 2 := by
  constructor
  · let final := (runAll (step tearing) (GateServerHandler.init tearing 4 0 fun _ => 0)
      (login ++ [agentSends 7, agentSends 8])).get (by decide)
    exact ⟨final, steps_of_runAll (Option.some_get _).symm, by decide⟩
  · intro framed
    have first : GateServerHandler.queued 1 tearingGate
        (tearingGate.sendFrames tearing 1 ([[7], [8]].take 1)) = encodeAll [] ++ lengthPrefix 1 := by decide
    rcases framed 1 (by decide) with parsed | ⟨_, _, _, _, _, still⟩
    · dsimp only at parsed
      rw [first] at parsed
      exact not_wellFramed_field (by decide) (by decide) (by simp) parsed
    · exact absurd (still 2 (by decide) (by decide)) (by decide)

def GateClientHandler.decoded (client : GateClientHandler) : List Bytes × Nat × Nat :=
  (client.dispatched, client.receiver.iMsgLen, client.receiver.iUsed)

private theorem onDataRecv_vain (env : ClientEnv) (client : GateClientHandler) (chunk : Bytes)
    (idle : client.receiver.iUsed = 0) (vain : decode client.receiver.iMsgLen chunk = (0, [])) :
    (client.onDataRecv env chunk).map (·.1.decoded) = some (client.dispatched, 0, 0) := by
  rcases GateClientHandler.recvLoop_cases env (chunk.length + 1) client chunk idle with
    ⟨receiver, unused, _, decoded, same⟩ | ⟨body, rest, _, _, decoded, _⟩
  · have waits : 0 = receiver.iMsgLen := congrArg Prod.fst (vain.symm.trans decoded)
    rw [GateClientHandler.onDataRecv, same, Option.map_some, GateClientHandler.decoded]
    simp [unused, ← waits]
  · cases congrArg Prod.snd (vain.symm.trans decoded)

private theorem onDataRecv_alike_iff (env : ClientEnv) (client : GateClientHandler) (rest : Bytes)
    (length : client.receiver.iMsgLen = 0) (idle : client.receiver.iUsed = 0) :
    (client.onDataRecv env (0 :: 0 :: rest)).map (·.1.decoded) = (client.onDataRecv env rest).map (·.1.decoded) ↔
      Vain rest := by
  rw [onDataRecv_vain env client (0 :: 0 :: rest) idle (by rw [length]; exact decode_field_zero rfl),
    ← decode_vain_iff]
  constructor
  · intro same
    obtain ⟨result, returned, shown⟩ := Option.map_eq_some_iff.mp same.symm
    obtain ⟨dispatched, awaits, _⟩ :=
      (GateClientHandler.recvLoop_recvs env _ client rest (by omega) idle returned).dispatched
    rw [length] at dispatched awaits
    simp only [GateClientHandler.decoded, Prod.mk.injEq] at shown
    refine Prod.ext (awaits.symm.trans shown.2.1) ?_
    simpa [dispatched] using shown.1
  · intro vain
    rw [onDataRecv_vain env client rest idle (by rw [length]; exact vain)]

/-- Both decoders take a length of 0 for the sign that no length is there yet and drop the rest of
the chunk. That makes no difference exactly when the rest alone would be dropped as well. -/
theorem zero_frame_alone_iff (rest : Bytes) :
    (∀ (env : Env) (gate : GateServerHandler) (fd : Int) (i : Nat), gate.getConnectionByFD fd = some i →
      (gate.vecConnections i).receiver.iMsgLen = 0 → (gate.vecConnections i).receiver.iUsed = 0 →
      (gate.SkipsEmpty env fd i rest ↔ Vain rest)) ∧
    ∀ (env : ClientEnv) (client : GateClientHandler), client.receiver.iMsgLen = 0 → client.receiver.iUsed = 0 →
      ((client.onDataRecv env (0 :: 0 :: rest)).map (·.1.decoded) =
        (client.onDataRecv env rest).map (·.1.decoded) ↔ Vain rest) :=
  ⟨fun env gate _ _ found length idle => GateServerHandler.skipsEmpty_iff env gate rest found length idle,
    fun env client => onDataRecv_alike_iff env client rest⟩

theorem zero_frame_alone_at_end : oneConnection.SkipsEmpty soleArea 5 1 [] :=
  ((zero_frame_alone_iff []).1 soleArea oneConnection 5 1 rfl rfl rfl).mpr (.inl (by decide))

/-- The empty frame in front of the payload 7: neither the gate nor the client gets the payload. -/
theorem zero_frame_drops_rest :
    ¬ oneConnection.SkipsEmpty soleArea 5 1 [0, 1, 7] ∧
      delivered 1 (oneConnection.onClientDataRecv soleArea 5 [0, 0, 0, 1, 7]).1.out = [] ∧
      delivered 1 (oneConnection.onClientDataRecv soleArea 5 [0, 1, 7]).1.out = [[7]] ∧
      (({ iCurState := .authorized } : GateClientHandler).onDataRecv deafClient [0, 0, 0, 1, 7]).map
        (·.1.decoded) = some ([], 0, 0) ∧
      (({ iCurState := .authorized } : GateClientHandler).onDataRecv deafClient [0, 1, 7]).map
        (·.1.decoded) = some ([[7]], 0, 0) := by
  refine ⟨?_, by decide, by decide, by decide, by decide⟩
  rintro (closed | ⟨same, _⟩)
  · exact absurd closed (by decide)
  · exact absurd same (by decide)

namespace GateClientHandler

/-- The recursion of `OnDataRecv` with every copy checked. The outer `none` is a copy that leaves a
buffer, a length of more than 16 bits, or a recursion deeper than `fuel`. -/
def recvChecked (env : ClientEnv) (capacity : Nat) :
    Nat → GateClientHandler → Bytes → Option (Option (GateClientHandler × Int))
  | 0, _, _ => none
  | fuel + 1, client, chunk =>
    (client.receiver.readPrefixChecked capacity chunk).bind fun head =>
      let client := { client with receiver := head.1 }
      if 65535 < head.1.iMsgLen then none
      else if head.1.iMsgLen = 0 then some (some (client, 0))
      else if chunk.length + head.1.iUsed - head.2 ≥ head.1.iMsgLen then
        (head.1.readBodyChecked capacity chunk head.2).bind fun body =>
          match client.completeMessage env body.1 with
          | none => some none
          | some done =>
            if chunk.length ≤ body.2 then some (some done)
            else
              (recvChecked env capacity fuel done.1 (chunk.drop body.2)).map fun later =>
                later.map fun rest => (rest.1, done.2 + rest.2)
      else some (some (client, 0))

theorem recvChecked_eq (env : ClientEnv) (room : 65535 ≤ capacity) (fuel : Nat) (client : GateClientHandler)
    (chunk : Bytes) (enough : chunk.length < fuel) (ready : client.receiver.Ready) :
    recvChecked env capacity fuel client chunk = some (recvLoop env fuel client chunk) := by
  induction fuel generalizing client chunk with
  | zero => exact absurd enough (Nat.not_lt_zero _)
  | succ fuel ih =>
    obtain ⟨head, read, copied, short, reads⟩ := Receiver.read_checked ready room chunk
    have clear : ¬ (client.receiver.iMsgLen = 0 ∧
        (2 < client.receiver.iUsed ∨ env.asserts ∧ client.receiver.iUsed = 2)) := by
      rw [ready.idle]
      omega
    rw [recvChecked, recvLoop, copied, Option.bind_some, if_neg clear, read, if_neg short]
    by_cases nothing : head.1.iMsgLen = 0
    · rw [if_pos nothing, if_pos nothing]
    · rw [if_neg nothing, if_neg nothing]
      by_cases fits : chunk.length + head.1.iUsed - head.2 ≥ head.1.iMsgLen
      · obtain ⟨body, same, copied, usable, consumed⟩ := reads nothing fits
        rw [if_pos fits, if_pos fits, copied, Option.bind_some, same]
        dsimp only
        cases completed : completeMessage env { client with receiver := head.1 } body.1 with
        | none => rfl
        | some done =>
          rw [Option.bind_some]
          dsimp only
          split
          · rfl
          · obtain ⟨_, reset⟩ := completeMessage_some env _ _ completed
            rw [ih done.1 _ (by rw [List.length_drop]; omega) (by rw [reset]; exact ⟨usable.created, rfl, Nat.zero_le _⟩)]
            rfl
      · rw [if_neg fits, if_neg fits]

theorem Recvs.ready {client : GateClientHandler} (recvs : Recvs env client chunk result)
    (ready : client.receiver.Ready) : result.1.receiver.Ready := by
  induction recvs with
  | @waits chunk _ _ unused created decoded =>
    have awaited := decode_le _ chunk ready.bounded
    rw [decoded] at awaited
    exact ⟨created.trans ready.created, unused, awaited⟩
  | more created _ completed _ ih =>
    obtain ⟨_, reset⟩ := completeMessage_some env _ _ completed
    refine ih ?_
    rw [reset]
    exact ⟨created.trans ready.created, rfl, Nat.zero_le _⟩

private theorem feed_ready (env : ClientEnv) (client : GateClientHandler) (chunks : List Bytes)
    (ready : client.receiver.Ready) (survives : client.feed env chunks = some final) : final.receiver.Ready := by
  induction chunks generalizing client with
  | nil =>
    cases survives
    exact ready
  | cons chunk chunks ih =>
    obtain ⟨next, received, resumed⟩ := Option.bind_eq_some_iff.mp survives
    have recvs := recvLoop_recvs env _ client chunk (by omega) ready.idle received
    exact ih next.1 (recvs.ready ready) resumed

end GateClientHandler

def connectionDefaultRecvBuffSize : Nat := 65535 + 4
def clientRecvBuffSize : Nat := 65536 + 4

/-- Whatever bytes arrive, in whatever chunks: no copy leaves a buffer, the recursion ends, and the
announced length fits 16 bits. On the gate that holds in every state it reaches, whatever else
happens to it; on the client after any chunks that follow its construction. -/
theorem decoders_bounded :
    (∀ (env : Env) (iMaxConnections : Nat) (curMsTime : UInt64) (junk : Nat → UInt32) (events : List Event)
        (gate : GateServerHandler),
      Steps (EventStep env) (GateServerHandler.init env iMaxConnections curMsTime junk) events gate →
      (∀ i, (gate.vecConnections i).receiver.iMsgLen ≤ 65535) ∧
        ∀ fd chunk, GateServerHandler.recvChecked env connectionDefaultRecvBuffSize (chunk.length + 2)
          gate fd chunk = some (gate.onClientDataRecv env fd chunk)) ∧
    ∀ (env : ClientEnv) (start client : GateClientHandler) (chunks : List Bytes),
      { start with receiver := { created := true } }.feed env chunks = some client →
      client.receiver.iMsgLen ≤ 65535 ∧
        ∀ chunk, GateClientHandler.recvChecked env clientRecvBuffSize (chunk.length + 2) client chunk =
          some (client.onDataRecv env chunk) := by
  constructor
  · intro env iMaxConnections curMsTime junk events gate run
    have receiving := GateServerHandler.run_receiving run
    refine ⟨receiving.bounded, fun fd chunk => ?_⟩
    refine GateServerHandler.recvChecked_eq env (by decide) _ gate fd chunk (by omega) fun i found => ?_
    exact receiving.ready (Table.byFD_some found).2.2.2
  · intro env start client chunks fed
    have ready : client.receiver.Ready :=
      GateClientHandler.feed_ready env _ chunks ⟨rfl, rfl, Nat.zero_le _⟩ fed
    exact ⟨ready.bounded, fun chunk =>
      GateClientHandler.recvChecked_eq env (by decide) _ client chunk (by omega) ready⟩

theorem decoders_bounded_after_login :
    GateServerHandler.recvChecked soleArea connectionDefaultRecvBuffSize 5 forwardedGate 5 [255, 255, 1] =
      some (forwardedGate.onClientDataRecv soleArea 5 [255, 255, 1]) :=
  (decoders_bounded.1 soleArea 4 0 (fun _ => 0) (login ++ [.clientDataRecv 5 [0, 1, 9]]) forwardedGate
    (steps_of_runAll (Option.some_get _).symm)).2 5 [255, 255, 1]

end Playground.Client
