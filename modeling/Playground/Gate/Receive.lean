import Playground.Gate.Refinement

/-! `OnClientDataRecv` delivers what the idealised decoder delivers, up to the message that ends the
connection. -/

namespace Playground.Gate

open Framing Component Transition

theorem memcpy_getD (buffer : Nat → UInt8) (bytes : Bytes) (within : at' < bytes.length) :
    memcpy buffer 0 bytes at' = bytes.getD at' 0 := by
  simp [memcpy, within]

namespace Receiver

variable (receiver : Receiver) (chunk : Bytes)

theorem readPrefix_announced (idle : receiver.iUsed = 0) :
    (receiver.readPrefix chunk).1.iMsgLen = (announced receiver.iMsgLen chunk).1 ∧
      (receiver.readPrefix chunk).1.iUsed = 0 ∧
      ((announced receiver.iMsgLen chunk).1 ≠ 0 →
        chunk.drop (receiver.readPrefix chunk).2 = (announced receiver.iMsgLen chunk).2 ∧
          (receiver.readPrefix chunk).2 ≤ chunk.length) := by
  unfold readPrefix
  cases waiting : receiver.iMsgLen with
  | succ need => simp [announced, idle, waiting]
  | zero =>
    rcases chunk with _ | ⟨hi, _ | ⟨lo, rest⟩⟩
    · simp [announced, idle]
    · simp [announced, idle]
    · simp [announced, idle, memcpy_getD]

theorem readPrefix_created : (receiver.readPrefix chunk).1.created = receiver.created := by
  unfold readPrefix
  split
  · dsimp only
    split <;> rfl
  · rfl

private theorem bytes_readBody (offset : Nat) (idle : receiver.iUsed = 0)
    (enough : receiver.iMsgLen ≤ (chunk.drop offset).length) :
    (receiver.readBody chunk offset).1.bytes (receiver.readBody chunk offset).1.iMsgLen =
      (chunk.drop offset).take receiver.iMsgLen := by
  apply List.ext_getElem
  · simp only [bytes, readBody, List.length_map, List.length_range, List.length_take]
    exact (Nat.min_eq_left enough).symm
  · intro at' left right
    have within : at' < ((chunk.drop offset).take receiver.iMsgLen).length := right
    simp only [bytes, readBody, idle, Nat.sub_zero, List.getElem_map, List.getElem_range,
      memcpy_getD _ _ within]
    rw [List.getD_eq_getElem?_getD, List.getElem?_eq_getElem within, Option.getD_some]

/-- What an idle buffer makes of a chunk: it waits for more of it, or it completes one payload. -/
theorem idle_cases (idle : receiver.iUsed = 0) :
    let head := receiver.readPrefix chunk
    let body := head.1.readBody chunk head.2
    let rest := chunk.drop body.2
    let fits := chunk.length + head.1.iUsed - head.2 ≥ head.1.iMsgLen
    ((head.1.iMsgLen = 0 ∨ ¬ fits) ∧ head.1.iUsed = 0 ∧ head.1.created = receiver.created ∧
      decode receiver.iMsgLen chunk = (head.1.iMsgLen, [])) ∨
    head.1.iMsgLen ≠ 0 ∧ fits ∧ body.1.iUsed = 0 ∧ body.1.created = receiver.created ∧
      rest = (announced receiver.iMsgLen chunk).2.drop (announced receiver.iMsgLen chunk).1 ∧
      rest.length < chunk.length ∧
      decode receiver.iMsgLen chunk = ((decode 0 rest).1, body.1.bytes body.1.iMsgLen :: (decode 0 rest).2) := by
  obtain ⟨length, unused, offset⟩ := receiver.readPrefix_announced chunk idle
  have created := receiver.readPrefix_created chunk
  generalize receiver.readPrefix chunk = head at length unused offset created ⊢
  rw [decode, ← length]
  by_cases nothing : head.1.iMsgLen = 0
  · exact .inl ⟨.inl nothing, unused, created, by simp [nothing]⟩
  · obtain ⟨behind, within⟩ := offset (length ▸ nothing)
    rw [if_neg nothing, ← behind]
    have size : (chunk.drop head.2).length = chunk.length - head.2 := List.length_drop
    have consumed : (head.1.readBody chunk head.2).2 = head.2 + head.1.iMsgLen := by
      simp [readBody, unused]
    by_cases complete : head.1.iMsgLen ≤ (chunk.drop head.2).length
    · refine .inr ⟨nothing, by omega, unused, created, by rw [consumed, List.drop_drop], ?_, ?_⟩
      · rw [List.length_drop]
        omega
      · rw [if_neg (Nat.not_lt.mpr complete), head.1.bytes_readBody chunk head.2 unused complete, consumed,
          List.drop_drop]
    · refine .inl ⟨.inr (by omega), unused, created, ?_⟩
      rw [if_pos (Nat.not_le.mp complete)]

end Receiver

/-- The payloads of a slot, the earliest first. -/
def delivered (i : Nat) (log : List Effect) : List Bytes :=
  (log.filterMap fun
    | .message slot payload => if slot = i then some payload else none
    | _ => none).reverse

private theorem delivered_cons_message (i : Nat) (payload : Bytes) (log : List Effect) :
    delivered i (.message i payload :: log) = delivered i log ++ [payload] := by
  simp [delivered]

namespace Handled

variable {env : Env} {table : Table} {i : Nat} {fd : Int} {payload : Bytes} {acts : List Act}

theorem delivered (handled : Handled env table i payload acts) :
    Gate.delivered i (table.run env acts).log = Gate.delivered i table.log ++ [payload] := by
  rw [← delivered_cons_message]
  cases handled with
  | ignored _ => rfl
  | authorized _ _ _ written =>
    simp [Table.run, Table.apply, Table.writes, Table.record, Table.setSlot, Gate.delivered]
  | awaiting _ _ _ => rfl
  | rejected _ _ _ => simp [Table.run, Table.apply, Table.record, Gate.delivered]
  | forwarded _ written =>
    simp [Table.run, Table.apply, Table.writes, Table.record, Gate.delivered]

theorem outcome (found : table.byFD fd = some i) (handled : Handled env table i payload acts) :
    ((∃ reason, .remove i reason ∈ acts) ∧ (table.run env acts).byFD fd = none) ∨
      (∀ j reason, .remove j reason ∉ acts) ∧ (table.run env acts).byFD fd = some i := by
  obtain ⟨_, _, _, alive⟩ := Table.byFD_some found
  have noted : (table.record [.message i payload]).byFD fd = some i := found
  have live : (table.record [.message i payload]).Live i := alive
  cases handled with
  | ignored _ => exact .inr ⟨by simp, noted⟩
  | authorized _ _ _ written =>
    refine .inr ⟨by simp, ?_⟩
    refine (Table.byFD_report env _ i .connected 0 none fd).trans ?_
    exact (Table.byFD_setSlot live _ (by simp) fd).trans noted
  | awaiting _ _ _ =>
    refine .inr ⟨by simp, ?_⟩
    exact (Table.byFD_setSlot live _ (by simp) fd).trans noted
  | rejected _ _ _ =>
    exact .inl ⟨⟨_, List.mem_of_mem_tail (List.mem_singleton_self _)⟩, Table.remove_byFD env noted _⟩
  | forwarded _ written =>
    refine .inr ⟨by simp, ?_⟩
    exact (Table.byFD_report env _ i .data 0 (some payload) fd).trans noted

private theorem steps (found : table.byFD fd = some i) (handled : Handled env table i payload acts) :
    Steps (ActStep env) table acts (table.run env acts) := by
  have reached : table.Reached i := ⟨fd, found⟩
  have noted : (table.record [.message i payload]).Reached i := ⟨fd, found⟩
  obtain ⟨_, positive, bounded, live⟩ := Table.byFD_some found
  have first : ActStep env table (.message i payload) (table.record [.message i payload]) := ⟨reached, rfl⟩
  cases handled with
  | ignored _ => exact .single first
  | authorized fresh _ known _ => exact .cons first (.single ⟨⟨fresh, noted, known⟩, rfl⟩)
  | awaiting fresh _ known => exact .cons first (.single ⟨⟨fresh, noted, known⟩, rfl⟩)
  | rejected _ _ _ => exact .cons first (.single ⟨Table.byIdx_of_live positive bounded live, rfl⟩)
  | forwarded trusted written =>
    refine .cons first (.cons ⟨⟨trusted, noted⟩, rfl⟩ (.single ⟨?_, rfl⟩))
    show Table.Live (Table.report _ _ _ _ _ _) i
    simpa [Table.Live] using live

end Handled

/-- The acts of the payloads of a chunk, until one of them removes the connection. -/
inductive Received (env : Env) (i : Nat) (fd : Int) : Table → List Bytes → List Act → Table → Prop where
  | done : Received env i fd table [] [] table
  | next (handled : Handled env table i payload acts)
      (alive : (table.run env acts).byFD fd = some i)
      (rest : Received env i fd (table.run env acts) payloads later final) :
      Received env i fd table (payload :: payloads) (acts ++ later) final
  | cut (handled : Handled env table i payload acts)
      (gone : (table.run env acts).byFD fd = none)
      (closing : closes = [] ∨ closes = [.closeClient fd]) :
      Received env i fd table (payload :: payloads) (acts ++ closes) ((table.run env acts).run env closes)

namespace Received

theorem steps (found : table.byFD fd = some i) (received : Received env i fd table payloads acts final) :
    Steps (ActStep env) table acts final := by
  induction received with
  | done => exact .nil
  | next handled alive rest ih => exact (handled.steps found).append (ih alive)
  | cut handled gone closing =>
    refine (handled.steps found).append ?_
    rcases closing with rfl | rfl
    · exact .nil
    · exact .single ⟨trivial, rfl⟩

theorem resolves (found : table.byFD fd = some i)
    (received : Received env i fd table payloads acts final) :
    final.byFD fd = some i ∨ final.byFD fd = none := by
  induction received with
  | done => exact .inl found
  | next _ alive _ ih => exact ih alive
  | cut _ gone closing => rcases closing with rfl | rfl <;> exact .inr gone

theorem delivered (received : Received env i fd table payloads acts final)
    (alive : final.byFD fd = some i) :
    Gate.delivered i final.log = Gate.delivered i table.log ++ payloads := by
  induction received with
  | done => simp
  | next handled _ rest ih => simp [ih alive, handled.delivered]
  | cut handled gone closing =>
    rcases closing with rfl | rfl <;> exact absurd (gone.symm.trans alive) (by simp)

end Received

namespace GateServerHandler

theorem table_setReceiver (gate : GateServerHandler) (i : Nat) (receiver : Receiver) :
    (gate.setReceiver i receiver).table = gate.table :=
  table_modify_same gate i _ rfl

theorem receivers_setReceiver (gate : GateServerHandler) (i : Nat) (receiver : Receiver) :
    (gate.setReceiver i receiver).receivers = Function.update gate.receivers i receiver :=
  receivers_modify gate i _

/-- A chunk was taken by the decoder of slot `i`, with the given remaining length
and completed payloads. -/
structure Consumed (env : Env) (i : Nat) (fd : Int) (gate : GateServerHandler)
    (decoded : Nat × List Bytes) (next : GateServerHandler) : Prop where
  received : ∃ acts, Received env i fd gate.table decoded.2 acts next.table
  awaits : next.table.byFD fd = some i → (next.receivers i).iMsgLen = decoded.1
  idle : (next.receivers i).iUsed = 0
  others : ∀ j, j ≠ i → next.receivers j = gate.receivers j

theorem Consumed.nothing (receiver : Receiver) (same : next.table = gate.table)
    (changed : next.receivers = Function.update gate.receivers i receiver)
    (idle : receiver.iUsed = 0) : Consumed env i fd gate (receiver.iMsgLen, []) next := by
  refine ⟨⟨[], ?_⟩, ?_, ?_, ?_⟩
  · rw [same]
    exact .done
  · intro _
    rw [changed, Function.update_self]
  · rw [changed, Function.update_self]
    exact idle
  · intro j other
    rw [changed, Function.update_of_ne other]

theorem Consumed.message (found : gate.table.byFD fd = some i)
    (handled : Handled env gate.table i payload acts) (same : after.table = gate.table.run env acts)
    (idle : (after.receivers i).iUsed = 0) (others : ∀ j, j ≠ i → after.receivers j = gate.receivers j)
    (alive : after.table.byFD fd = some i → Consumed env i fd after decoded next)
    (gone : after.table.byFD fd = none → next = after ∨ next = after.emit (.closeClient fd)) :
    Consumed env i fd gate (decoded.1, payload :: decoded.2) next := by
  rcases handled.outcome found with ⟨_, lost⟩ | ⟨_, kept⟩
  · rw [← same] at lost
    have final : ∃ closes, (closes = [] ∨ closes = [.closeClient fd]) ∧
        next.table = after.table.run env closes ∧ next.receivers = after.receivers := by
      rcases gone lost with rfl | rfl
      · exact ⟨[], .inl rfl, rfl, rfl⟩
      · exact ⟨[.closeClient fd], .inr rfl, rfl, rfl⟩
    obtain ⟨closes, closing, table, receivers⟩ := final
    refine ⟨⟨acts ++ closes, ?_⟩, ?_, ?_, ?_⟩
    · rw [table, same]
      exact .cut handled (same ▸ lost) closing
    · intro found'
      rw [table] at found'
      rcases closing with rfl | rfl
      · cases lost.symm.trans found'
      · cases lost.symm.trans found'
    · rw [receivers]
      exact idle
    · intro j other
      rw [receivers]
      exact others j other
  · have rest := alive (same ▸ kept)
    obtain ⟨later, delivers⟩ := rest.received
    rw [same] at delivers
    refine ⟨⟨acts ++ later, .next handled kept delivers⟩, rest.awaits, rest.idle, ?_⟩
    intro j other
    exact (rest.others j other).trans (others j other)

theorem recvLoop_gone (env : Env) (fuel : Nat) (gate : GateServerHandler) (chunk : Bytes)
    (enough : chunk.length < fuel) (gone : gate.table.byFD fd = none) :
    (recvLoop env fuel gate fd chunk).1 = gate.emit (.closeClient fd) := by
  cases fuel with
  | zero => exact absurd enough (Nat.not_lt_zero _)
  | succ fuel => rw [recvLoop, getConnectionByFD_eq, gone]

theorem completeMessage_handled (env : Env) (gate : GateServerHandler) (i : Nat) (body : Receiver)
    (live : gate.table.Live i) :
    ∃ acts, Handled env gate.table i (body.bytes body.iMsgLen) acts ∧
      (gate.completeMessage env i body).1.table = gate.table.run env acts ∧
      (gate.completeMessage env i body).1.receivers i = { body with iMsgLen := 0, iUsed := 0 } ∧
      ∀ j, j ≠ i → (gate.completeMessage env i body).1.receivers j = gate.receivers j := by
  unfold completeMessage
  dsimp only
  have table : (gate.setReceiver i body).table = gate.table := table_setReceiver gate i body
  have receivers : (gate.setReceiver i body).receivers = Function.update gate.receivers i body :=
    receivers_setReceiver gate i body
  obtain ⟨acts, handled, ran, kept⟩ :=
    onClientMessage_handled env (gate.setReceiver i body) i (body.bytes body.iMsgLen) (table ▸ live)
  generalize (gate.setReceiver i body).onClientMessage env i (body.bytes body.iMsgLen) = result at ran kept ⊢
  rw [receivers] at kept
  have own : (result.1.vecConnections i).receiver = body := by
    have here := congrFun kept i
    rwa [Function.update_self] at here
  refine ⟨acts, table ▸ handled, ?_, ?_, ?_⟩
  · rw [table_setReceiver, ran, table]
  · rw [receivers_setReceiver, Function.update_self, own]
  · intro j other
    rw [receivers_setReceiver, Function.update_of_ne other, kept, Function.update_of_ne other]

def recvRest (env : Env) (fuel : Nat) (fd : Int) (done : GateServerHandler × Int) (rest : Bytes) :
    GateServerHandler × Int :=
  if rest = [] then done
  else
    let later := recvLoop env fuel done.1 fd rest
    (later.1, done.2 + later.2)

private theorem setReceiver_setReceiver (gate : GateServerHandler) (i : Nat) (first second : Receiver) :
    (gate.setReceiver i first).setReceiver i second = gate.setReceiver i second := by
  simp [setReceiver, modify]

/-- The chunk completes no payload, or it completes one, and the rest of it is taken with an idle
decoder. -/
theorem recvLoop_cases (env : Env) (fuel : Nat) (gate : GateServerHandler) (chunk : Bytes)
    (found : gate.table.byFD fd = some i) (idle : (gate.receivers i).iUsed = 0) :
    (∃ receiver, receiver.iUsed = 0 ∧ receiver.created = (gate.receivers i).created ∧
      decode (gate.receivers i).iMsgLen chunk = (receiver.iMsgLen, []) ∧
      recvLoop env (fuel + 1) gate fd chunk = ((gate.countUpload chunk.length).setReceiver i receiver, 0)) ∨
    ∃ body rest, body.iUsed = 0 ∧ body.created = (gate.receivers i).created ∧
      rest = (announced (gate.receivers i).iMsgLen chunk).2.drop (announced (gate.receivers i).iMsgLen chunk).1 ∧
      rest.length < chunk.length ∧
      decode (gate.receivers i).iMsgLen chunk =
        ((decode 0 rest).1, body.bytes body.iMsgLen :: (decode 0 rest).2) ∧
      recvLoop env (fuel + 1) gate fd chunk =
        recvRest env fuel fd ((gate.countUpload chunk.length).completeMessage env i body) rest := by
  rw [recvLoop, getConnectionByFD_eq, found]
  dsimp only
  have receiver : ((gate.countUpload chunk.length).vecConnections i).receiver = gate.receivers i := rfl
  rw [receiver]
  generalize gate.countUpload chunk.length = counted
  generalize gate.receivers i = receiver at idle ⊢
  rw [if_neg (by omega)]
  rcases receiver.idle_cases chunk idle with ⟨waits, unused, created, decoded⟩ |
    ⟨announced, fits, unused, created, behind, shorter, decoded⟩
  · refine .inl ⟨_, unused, created, decoded, ?_⟩
    rcases waits with nothing | short
    · rw [if_pos nothing]
    · rw [if_neg short, ite_self]
  · refine .inr ⟨_, _, unused, created, behind, shorter, decoded, ?_⟩
    rw [if_neg announced, if_pos fits]
    simp only [completeMessage, setReceiver_setReceiver, recvRest, List.drop_eq_nil_iff]

/-- A chunk completes a payload, with `rest` behind it, and the payload is handled. -/
structure Completes (env : Env) (i : Nat) (gate : GateServerHandler) (chunk : Bytes) (body : Receiver)
    (rest : Bytes) (done : GateServerHandler × Int) : Prop where
  created : body.created = (gate.receivers i).created
  decoded : decode (gate.receivers i).iMsgLen chunk =
    ((decode 0 rest).1, body.bytes body.iMsgLen :: (decode 0 rest).2)
  called : (gate.countUpload chunk.length).completeMessage env i body = done
  handled : ∃ acts, Handled env gate.table i (body.bytes body.iMsgLen) acts ∧
    done.1.table = gate.table.run env acts
  reset : done.1.receivers i = { body with iMsgLen := 0, iUsed := 0 }
  others : ∀ j, j ≠ i → done.1.receivers j = gate.receivers j

theorem Completes.idle (completes : Completes env i gate chunk body rest done) :
    (done.1.receivers i).iUsed = 0 := by
  rw [completes.reset]

theorem Completes.waits (completes : Completes env i gate chunk body rest done) :
    (done.1.receivers i).iMsgLen = 0 := by
  rw [completes.reset]

/-- How a chunk is consumed from a decoder that is idle. -/
inductive Recvs (env : Env) (i : Nat) (fd : Int) :
    GateServerHandler → Bytes → GateServerHandler × Int → Prop where
  | nothing (found : gate.table.byFD fd = some i) (unused : receiver.iUsed = 0)
      (created : receiver.created = (gate.receivers i).created)
      (decoded : decode (gate.receivers i).iMsgLen chunk = (receiver.iMsgLen, [])) :
      Recvs env i fd gate chunk ((gate.countUpload chunk.length).setReceiver i receiver, 0)
  | last (found : gate.table.byFD fd = some i) (completes : Completes env i gate chunk body [] done) :
      Recvs env i fd gate chunk done
  | gone (found : gate.table.byFD fd = some i) (completes : Completes env i gate chunk body rest done)
      (gone : done.1.table.byFD fd = none) : Recvs env i fd gate chunk (done.1.emit (.closeClient fd), ret)
  | more (found : gate.table.byFD fd = some i) (completes : Completes env i gate chunk body rest done)
      (alive : done.1.table.byFD fd = some i) (later : Recvs env i fd done.1 rest result) :
      Recvs env i fd gate chunk (result.1, done.2 + result.2)

theorem recvLoop_recvs (env : Env) (fuel : Nat) (gate : GateServerHandler) (chunk : Bytes)
    (enough : chunk.length < fuel) (found : gate.table.byFD fd = some i)
    (idle : (gate.receivers i).iUsed = 0) :
    Recvs env i fd gate chunk (recvLoop env fuel gate fd chunk) := by
  induction fuel generalizing gate chunk with
  | zero => exact absurd enough (Nat.not_lt_zero _)
  | succ fuel ih =>
    rcases recvLoop_cases env fuel gate chunk found idle with
      ⟨receiver, unused, created, decoded, same⟩ | ⟨body, rest, _, created, _, shorter, decoded, same⟩
    · rw [same]
      exact .nothing found unused created decoded
    · rw [same]
      have live : (gate.countUpload chunk.length).table.Live i := (Table.byFD_some found).2.2.2
      obtain ⟨acts, handled, ran, reset, others⟩ := completeMessage_handled env _ i body live
      have completes : Completes env i gate chunk body rest _ :=
        ⟨created, decoded, rfl, ⟨acts, handled, ran⟩, reset, others⟩
      unfold recvRest
      split
      · next last =>
        subst last
        exact .last found completes
      · have fewer : rest.length < fuel := by omega
        rcases handled.outcome found with ⟨_, gone⟩ | ⟨_, alive⟩
        · dsimp only
          rw [recvLoop_gone env fuel _ rest fewer (ran ▸ gone)]
          exact .gone found completes (ran ▸ gone)
        · exact .more found completes (ran ▸ alive) (ih _ rest fewer (ran ▸ alive) completes.idle)

theorem Recvs.consumed (recvs : Recvs env i fd gate chunk result) :
    Consumed env i fd gate (decode (gate.receivers i).iMsgLen chunk) result.1 := by
  induction recvs with
  | nothing _ unused _ decoded =>
    rw [decoded]
    exact .nothing _ (table_setReceiver _ i _) (receivers_setReceiver _ i _) unused
  | last found completes =>
    obtain ⟨acts, handled, ran⟩ := completes.handled
    rw [completes.decoded, decode_idle_short (by simp)]
    refine .message found handled ran completes.idle completes.others (fun _ => ?_) fun _ => .inl rfl
    exact completes.waits ▸ .nothing _ rfl (Function.update_eq_self i _).symm completes.idle
  | gone found completes lost =>
    obtain ⟨acts, handled, ran⟩ := completes.handled
    rw [completes.decoded]
    refine .message found handled ran completes.idle completes.others (fun alive => ?_) fun _ => .inr rfl
    cases lost.symm.trans alive
  | more found completes alive _ ih =>
    obtain ⟨acts, handled, ran⟩ := completes.handled
    rw [completes.decoded]
    refine .message found handled ran completes.idle completes.others (fun _ => completes.waits ▸ ih) fun lost => ?_
    cases lost.symm.trans alive

/-- `OnClientDataRecv` on a live connection with an idle buffer takes the chunk as the
decoder does. -/
theorem onClientDataRecv_consumed (env : Env) (gate : GateServerHandler) (chunk : Bytes)
    (found : gate.table.byFD fd = some i) (idle : (gate.receivers i).iUsed = 0) :
    Consumed env i fd gate (decode (gate.receivers i).iMsgLen chunk) (gate.onClientDataRecv env fd chunk).1 :=
  (recvLoop_recvs env _ gate chunk (by omega) found idle).consumed

theorem onClientDataRecv_gone (env : Env) (gate : GateServerHandler) (chunk : Bytes)
    (gone : gate.table.byFD fd = none) :
    (gate.onClientDataRecv env fd chunk).1 = gate.emit (.closeClient fd) :=
  recvLoop_gone env _ gate chunk (by omega) gone

/-- Chunks that arrive one after the other. -/
def feed (env : Env) (gate : GateServerHandler) (fd : Int) : List Bytes → GateServerHandler
  | [] => gate
  | chunk :: chunks => feed env (gate.onClientDataRecv env fd chunk).1 fd chunks

theorem feed_gone (env : Env) (gate : GateServerHandler) (chunks : List Bytes)
    (gone : gate.table.byFD fd = none) : (gate.feed env fd chunks).table.byFD fd = none := by
  induction chunks generalizing gate with
  | nil => exact gone
  | cons chunk chunks ih =>
    rw [feed, onClientDataRecv_gone env gate chunk gone]
    exact ih _ gone

theorem feed_delivered (env : Env) (gate : GateServerHandler) (chunks : List Bytes)
    (found : gate.table.byFD fd = some i) (idle : (gate.receivers i).iUsed = 0)
    (survives : (gate.feed env fd chunks).table.byFD fd = some i) :
    delivered i (gate.feed env fd chunks).out =
      delivered i gate.out ++ (decodeAll (gate.receivers i).iMsgLen chunks).2 := by
  induction chunks generalizing gate with
  | nil => simp [feed, decodeAll]
  | cons chunk chunks ih =>
    have consumed := onClientDataRecv_consumed env gate chunk found idle
    rw [feed] at survives ⊢
    generalize (gate.onClientDataRecv env fd chunk).1 = next at consumed survives ⊢
    obtain ⟨acts, received⟩ := consumed.received
    rcases received.resolves found with alive | gone
    · have later := ih next alive consumed.idle survives
      rw [consumed.awaits alive] at later
      have now : delivered i next.out = delivered i gate.out ++ (decode (gate.receivers i).iMsgLen chunk).2 :=
        received.delivered alive
      rw [later, now, decodeAll]
      exact List.append_assoc _ _ _
    · cases (feed_gone env next chunks gone).symm.trans survives

end GateServerHandler

end Playground.Gate
