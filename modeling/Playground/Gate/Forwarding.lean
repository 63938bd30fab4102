import Playground.Channel.Envelope
import Playground.Gate.Codec
import Playground.Gate.Safety

/-! The way of a frame from an authorized client to the agent. -/

namespace Playground.Gate

open Framing Transition

namespace Table

/-- The payload and the head of its data event are no larger than a message of the channel. -/
def Fits (env : Env) (table : Table) (i : Nat) (payload : Bytes) : Prop :=
  env.byteSize (table.message i .data 0) + payload.length + 2 < 65536

instance (env : Env) (table : Table) (i : Nat) (payload : Bytes) : Decidable (table.Fits env i payload) :=
  inferInstanceAs (Decidable (_ < _))

variable {env : Env} {table : Table} {i : Nat}

theorem posted_report_data (ready : env.channelReady (table.slots i).dst = true) (payload : Bytes) :
    (table.report env i .data 0 (some payload)).posted (table.slots i).dst =
      table.posted (table.slots i).dst ++
        if table.Fits env i payload then [(table.message i .data 0, payload)] else [] := by
  unfold report post
  dsimp only
  by_cases fits : table.Fits env i payload
  · have small : ¬ env.byteSize (table.message i .data 0) + ((some payload).getD []).length + 2 ≥ 65536 :=
      Nat.not_le.mpr fits
    rw [if_neg small, if_pos ready, if_pos fits]
    exact Function.update_self _ _ _
  · have large : env.byteSize (table.message i .data 0) + ((some payload).getD []).length + 2 ≥ 65536 :=
      Nat.not_lt.mp fits
    rw [if_pos large, if_neg fits, List.append_nil]
    rfl

private theorem message_report (event later : EventType) (param other : Int) (data : Option Bytes) :
    (table.report env i event param data).message i later other = table.message i later other := by
  simp [message, idxOf]

end Table

variable {env : Env} {table final : Table} {i : Nat} {fd : Int} {payload : Bytes} {payloads : List Bytes}
  {acts : List Act}

theorem Handled.forwards (trusted : (table.slots i).state = .authorized)
    (handled : Handled env table i payload acts) :
    ∃ written, acts = [.message i payload, .forward i payload, .write i written] := by
  cases handled with
  | ignored idle => rcases idle with ⟨fresh, _⟩ | waiting <;> simp_all
  | authorized fresh => rw [fresh] at trusted; cases trusted
  | awaiting fresh => rw [fresh] at trusted; cases trusted
  | rejected fresh => rw [fresh] at trusted; cases trusted
  | forwarded _ written => exact ⟨written, rfl⟩

/-- What forwarding leaves behind: the slot as it was, and the payload in the channel if it fits. -/
structure Forwards (env : Env) (i : Nat) (table : Table) (payloads : List Bytes) (next : Table) : Prop where
  slot : next.slots i = table.slots i
  message : next.message i .data 0 = table.message i .data 0
  posted : next.posted (table.slots i).dst = table.posted (table.slots i).dst ++
    (payloads.filter fun payload => table.Fits env i payload).map (Prod.mk (table.message i .data 0))

theorem Handled.posts (trusted : (table.slots i).state = .authorized)
    (ready : env.channelReady (table.slots i).dst = true) (handled : Handled env table i payload acts) :
    Forwards env i table [payload] (table.run env acts) := by
  obtain ⟨written, rfl⟩ := handled.forwards trusted
  -- the acts before and behind the report concern the log only
  let noted := table.record [.message i payload]
  refine ⟨congrFun (Table.report_slots env noted (some payload) i .data 0) i,
    Table.message_report .data .data 0 0 (some payload), ?_⟩
  have sent : (noted.report env i .data 0 (some payload)).posted (table.slots i).dst =
      table.posted (table.slots i).dst ++
        if table.Fits env i payload then [(table.message i .data 0, payload)] else [] :=
    @Table.posted_report_data env noted i ready payload
  refine Eq.trans sent ?_
  by_cases fits : table.Fits env i payload
  · simp [fits]
  · simp [fits]

theorem Received.forwards (found : table.byFD fd = some i) (trusted : (table.slots i).state = .authorized)
    (ready : env.channelReady (table.slots i).dst = true)
    (received : Received env i fd table payloads acts final) : Forwards env i table payloads final := by
  induction received with
  | done => exact ⟨rfl, rfl, by simp⟩
  | @next table payload acts payloads later final handled alive rest ih =>
    have first := handled.posts trusted ready
    have others := ih alive (by rw [first.slot]; exact trusted) (by rw [first.slot]; exact ready)
    refine ⟨others.slot.trans first.slot, others.message.trans first.message, ?_⟩
    have posted := others.posted
    have same : ∀ payload, (table.run env acts).Fits env i payload = table.Fits env i payload := by
      intro payload
      rw [Table.Fits, Table.Fits, first.message]
    simp only [first.slot, first.posted, first.message, same] at posted
    rw [posted, List.append_assoc, ← List.map_append, ← List.filter_append, List.singleton_append]
  | @cut table payload acts closes payloads handled gone closing =>
    rcases handled.outcome found with ⟨⟨reason, removed⟩, _⟩ | ⟨_, alive⟩
    · obtain ⟨written, rfl⟩ := handled.forwards trusted
      simp at removed
    · cases gone.symm.trans alive

theorem Forwards.all_iff (forwards : Forwards env i table payloads final) :
    final.posted (table.slots i).dst = table.posted (table.slots i).dst ++
        payloads.map (Prod.mk (table.message i .data 0)) ↔
      ∀ payload ∈ payloads, table.Fits env i payload := by
  rw [forwards.posted, List.append_cancel_left_eq]
  constructor
  · intro same
    have lengths := congrArg List.length same
    rw [List.length_map, List.length_map, List.length_filter_eq_length_iff] at lengths
    simpa using lengths
  · intro fit
    rw [List.filter_eq_self.mpr (by simpa using fit)]

namespace GateServerHandler

/-- The head that `ForwardData` reports a payload with. -/
def dataMessage (gate : GateServerHandler) (i : Nat) : GateSSMsg where
  event := .data
  idx := (gate.mpConnections (gate.vecConnections i).cliSocket.fd).getD 0
  uid := (gate.vecConnections i).ulUid
  area := (gate.vecConnections i).iArea

/-- The channel of the slot got a data event for each payload, or the connection is closed. -/
def NoneDropped (gate : GateServerHandler) (i : Nat) (payloads : List Bytes) (next : GateServerHandler) :
    Prop :=
  next.posted (gate.vecConnections i).iDstChannel = gate.posted (gate.vecConnections i).iDstChannel ++
      payloads.map (Prod.mk (gate.dataMessage i)) ∨
    (next.vecConnections i).bState = .invalid

private theorem noneDropped_iff {gate next : GateServerHandler}
    (trusted : (gate.vecConnections i).bState = .authorized)
    (forwards : Forwards env i gate.table payloads next.table) :
    gate.NoneDropped i payloads next ↔
      ∀ payload ∈ payloads, env.byteSize (gate.dataMessage i) + payload.length + 2 < 65536 := by
  have open' : (next.vecConnections i).bState ≠ .invalid := by
    have state : (next.vecConnections i).bState = (gate.vecConnections i).bState :=
      congrArg Slot.state forwards.slot
    rw [state, trusted]
    simp
  have all := forwards.all_iff
  constructor
  · rintro (posted | closed)
    · exact all.mp posted
    · exact absurd closed open'
  · intro fit
    exact .inl (all.mpr fit)

/-- The frames of an authorized client all reach the channel of its area, or the connection is closed,
exactly when each of them fits a message of the channel together with its head: for a call of
`OnClientMessage` in whatever state, and for a chunk in every state the gate gets to. -/
theorem frames_forwarded_iff (env : Env) :
    (∀ (gate : GateServerHandler) (i : Nat) (payload : Bytes),
      (gate.vecConnections i).bState = .authorized →
      env.channelReady (gate.vecConnections i).iDstChannel = true →
      (gate.NoneDropped i [payload] (gate.onClientMessage env i payload).1 ↔
        env.byteSize (gate.dataMessage i) + payload.length + 2 < 65536)) ∧
    ∀ (iMaxConnections : Nat) (curMsTime : UInt64) (junk : Nat → UInt32) (events : List Event)
      (gate : GateServerHandler) (fd : Int) (i : Nat) (chunk : Bytes),
      Steps (EventStep env) (GateServerHandler.init env iMaxConnections curMsTime junk) events gate →
      gate.getConnectionByFD fd = some i → (gate.vecConnections i).bState = .authorized →
      env.channelReady (gate.vecConnections i).iDstChannel = true →
      (gate.dataMessage i).idx = i ∧
        (gate.NoneDropped i (decode (gate.receivers i).iMsgLen chunk).2
            (gate.onClientDataRecv env fd chunk).1 ↔
          ∀ payload ∈ (decode (gate.receivers i).iMsgLen chunk).2,
            env.byteSize (gate.dataMessage i) + payload.length + 2 < 65536) := by
  constructor
  · intro gate i payload trusted ready
    have live : gate.table.Live i := by
      change (gate.vecConnections i).bState ≠ .invalid
      simp [trusted]
    obtain ⟨acts, handled, ran, _⟩ := onClientMessage_handled env gate i payload live
    have forwards := handled.posts trusted ready
    rw [← ran] at forwards
    simpa using noneDropped_iff trusted forwards
  · intro iMaxConnections curMsTime junk events gate fd i chunk run found trusted ready
    obtain ⟨idle, sound⟩ := run_sound run
    rw [getConnectionByFD_eq] at found
    obtain ⟨acts, received⟩ := (onClientDataRecv_consumed env gate chunk found (idle i)).received
    exact ⟨sound.mapped.idxOf ⟨fd, found⟩, noneDropped_iff trusted (received.forwards found trusted ready)⟩

/-- The gate for one area, with the sizes the messages have on the wire. -/
def wiredArea : Env := { soleArea with byteSize := GateSSMsg.byteSize }

def wiredGate : GateServerHandler :=
  (runAll (step wiredArea) (GateServerHandler.init wiredArea 4 0 fun _ => 0) login).get (by decide)

theorem wiredGate_run :
    Steps (EventStep wiredArea) (GateServerHandler.init wiredArea 4 0 fun _ => 0) login wiredGate :=
  steps_of_runAll (Option.some_get _).symm

theorem frames_forwarded_short :
    wiredGate.NoneDropped 1 [[9]] (wiredGate.onClientDataRecv wiredArea 5 [0, 1, 9]).1 := by
  have decoded : decode (wiredGate.receivers 1).iMsgLen [0, 1, 9] = (0, [[9]]) :=
    @decode_encodeAll [[9]] (by simp [Framable])
  have forwarded := ((frames_forwarded_iff wiredArea).2 4 0 _ login wiredGate 5 1 [0, 1, 9] wiredGate_run
    (by decide) (by decide) rfl).2
  rw [decoded] at forwarded
  exact forwarded.mpr (by decide)

private theorem drops_long {frame : Bytes} (long : 65526 ≤ frame.length) (framable : frame.length ≤ 65535) :
    decode (wiredGate.receivers 1).iMsgLen (encode frame) = (0, [frame]) ∧
      (wiredGate.onClientDataRecv wiredArea 5 (encode frame)).1.posted 9 = wiredGate.posted 9 ∧
      ((wiredGate.onClientDataRecv wiredArea 5 (encode frame)).1.vecConnections 1).bState =
        .authorized := by
  have found : wiredGate.table.byFD 5 = some 1 := by decide
  have whole : Framable [frame] := by
    intro one member
    obtain rfl := List.mem_singleton.mp member
    omega
  have decoded : decode (wiredGate.receivers 1).iMsgLen (encode frame) = (0, [frame]) := by
    have stream := decode_encodeAll whole
    rwa [encodeAll, List.map_singleton, List.flatten_singleton] at stream
  obtain ⟨acts, received⟩ := (onClientDataRecv_consumed wiredArea wiredGate (encode frame) found
    ((run_sound wiredGate_run).1 1)).received
  rw [decoded] at received
  have forwards := received.forwards found (by decide) rfl
  have head : wiredArea.byteSize (wiredGate.table.message 1 .data 0) = 8 := by decide
  have tooLong : ¬ wiredGate.table.Fits wiredArea 1 frame := by
    rw [Table.Fits, head]
    omega
  refine ⟨decoded, ?_, congrArg Slot.state forwards.slot⟩
  have posted := forwards.posted
  have channel : (wiredGate.table.slots 1).dst = 9 := by decide
  rw [List.filter_cons_of_neg (by simpa using tooLong), channel] at posted
  exact posted.trans (List.append_nil _)

/-- The client sends a frame of 65526 bytes. The decoder delivers it, the agent gets nothing, and the
connection stays open. -/
theorem long_frame_dropped :
    Steps (EventStep wiredArea) (GateServerHandler.init wiredArea 4 0 fun _ => 0)
        (login ++ [.clientDataRecv 5 (encode (List.replicate 65526 0))])
        (wiredGate.onClientDataRecv wiredArea 5 (encode (List.replicate 65526 0))).1 ∧
      decode (wiredGate.receivers 1).iMsgLen (encode (List.replicate 65526 0)) =
        (0, [List.replicate 65526 0]) ∧
      ¬ wiredGate.NoneDropped 1 [List.replicate 65526 0]
        (wiredGate.onClientDataRecv wiredArea 5 (encode (List.replicate 65526 0))).1 := by
  have long : (List.replicate 65526 (0 : UInt8)).length = 65526 := List.length_replicate
  generalize List.replicate 65526 (0 : UInt8) = frame at long ⊢
  obtain ⟨decoded, posted, state⟩ := @drops_long frame (by omega) (by omega)
  refine ⟨wiredGate_run.append (.single rfl), decoded, ?_⟩
  rintro (arrived | closed)
  · have channel : (wiredGate.vecConnections 1).iDstChannel = 9 := by decide
    rw [channel, posted] at arrived
    simp at arrived
  · rw [state] at closed
    cases closed

end GateServerHandler

end Playground.Gate
