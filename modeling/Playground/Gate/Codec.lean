import Playground.Framing.Handing
import Playground.Framing.Sending
import Playground.Gate.Channel

/-! The gate's side of the frame protocol. -/

namespace Playground.Gate

open Framing Component Transition

theorem Received.unchanged (received : Received env i fd table [] acts final) : final = table := by
  cases received
  rfl

theorem Received.delivered_ne (received : Received env i fd table payloads acts final)
    (completed : payloads ≠ []) :
    Gate.delivered i final.log ≠ Gate.delivered i table.log := by
  have grows : ∃ given, Gate.delivered i final.log = Gate.delivered i table.log ++ given ∧
      (payloads ≠ [] → given ≠ []) := by
    clear completed
    induction received with
    | done => exact ⟨[], by simp, by simp⟩
    | next handled _ _ ih =>
      obtain ⟨given, same, _⟩ := ih
      exact ⟨_ :: given, by rw [same, handled.delivered, List.append_assoc]; rfl, by simp⟩
    | cut handled _ closing =>
      rcases closing with rfl | rfl
      · exact ⟨_, handled.delivered, by simp⟩
      · exact ⟨_, handled.delivered, by simp⟩
  obtain ⟨given, same, some⟩ := grows
  rw [same]
  simpa using some completed

namespace GateServerHandler

variable (env : Env)

/-- Only the decoder of the slot and the count of bytes change. -/
def Buffers (i : Nat) (gate next : GateServerHandler) : Prop :=
  ∃ receiver uploadsize, next = { gate.setReceiver i receiver with uploadsize }

theorem Buffers.trans (first : Buffers i gate middle) (second : Buffers i middle next) :
    Buffers i gate next := by
  obtain ⟨_, _, rfl⟩ := first
  obtain ⟨receiver, uploadsize, rfl⟩ := second
  exact ⟨receiver, uploadsize, by simp [setReceiver, modify]⟩

/-- Payloads are handed to `OnClientMessage`, with so many errors. -/
def Delivers (env : Env) (i : Nat) : GateServerHandler → List Bytes → Nat → GateServerHandler → Prop :=
  Hands (Buffers i) fun gate payload result => gate.onClientMessage env i payload = result

theorem Completes.calls (completes : Completes env i gate chunk body rest done) :
    ∃ before after ret, Buffers i gate before ∧
      before.onClientMessage env i (body.bytes body.iMsgLen) = (after, ret) ∧ Buffers i after done.1 ∧
      done.2 = ((if ret = 0 then 0 else 1 : Nat) : Int) := by
  have here : Buffers i gate ((gate.countUpload chunk.length).setReceiver i body) := ⟨body, _, rfl⟩
  rw [← completes.called, completeMessage]
  generalize (gate.countUpload chunk.length).setReceiver i body = before at here ⊢
  generalize called : before.onClientMessage env i (body.bytes body.iMsgLen) = result
  refine ⟨before, result.1, result.2, here, called, ⟨_, _, rfl⟩, ?_⟩
  by_cases fine : result.2 = 0 <;> simp [fine]

/-- Every completed payload is handed to `OnClientMessage`, and the result counts the failed calls. -/
theorem Recvs.delivers {env : Env} (recvs : Recvs env i fd gate chunk result)
    (survives : result.1.table.byFD fd = some i) :
    ∃ errors : Nat, Delivers env i gate (decode (gate.receivers i).iMsgLen chunk).2 errors result.1 ∧
      result.2 = errors := by
  induction recvs with
  | nothing _ _ _ decoded =>
    rw [decoded]
    exact ⟨0, .done ⟨_, _, rfl⟩, rfl⟩
  | last _ completes =>
    obtain ⟨before, after, ret, here, called, completed, counted⟩ := completes.calls
    rw [completes.decoded, decode_idle_short (by simp)]
    exact ⟨_, .call here called (.done completed), by simpa using counted⟩
  | gone _ _ lost => cases lost.symm.trans survives
  | more _ completes _ _ ih =>
    obtain ⟨before, after, ret, here, called, completed, counted⟩ := completes.calls
    obtain ⟨errors, later, returned⟩ := ih survives
    rw [completes.waits] at later
    rw [completes.decoded]
    refine ⟨_, .call here called (later.before Buffers.trans completed), ?_⟩
    rw [Nat.cast_add, ← counted, ← returned]

def sendFrames (env : Env) (gate : GateServerHandler) (i : Nat) : List Bytes → GateServerHandler
  | [] => gate
  | frame :: frames => sendFrames env (gate.sendFrameToClient env i frame).1 i frames

/-- The bytes that were queued for a slot in between. -/
def queued (i : Nat) (gate next : GateServerHandler) : Bytes :=
  ((sentTo i next.out).drop (sentTo i gate.out).length).flatten

/-- What of a frame is sent: its size is taken modulo 65536. -/
def framed (frame : Bytes) : Bytes := frame.take (frame.length % 65536)

theorem length_framed (frame : Bytes) : (framed frame).length = frame.length % 65536 := by
  simp only [framed, List.length_take]
  omega

/-- The bytes queued for a slot, and the number of sends, are as told. -/
def Queues (i : Nat) (gate next : GateServerHandler) (written : Nat × Bytes) : Prop :=
  next.sends = written.1 ∧
    ∃ pieces, sentTo i next.out = sentTo i gate.out ++ pieces ∧ pieces.flatten = written.2

private theorem sendFrameToClient_queues (gate : GateServerHandler) (i : Nat) (frame : Bytes) :
    Queues i gate (gate.sendFrameToClient env i frame).1 (writeFrame env.sendRet gate.sends (framed frame)) := by
  have own : ∀ log bytes, sentTo i (.write i bytes :: log) = sentTo i log ++ [bytes] := by
    intro log bytes
    simp [sentTo]
  unfold sendFrameToClient writeFrame
  rw [length_framed]
  by_cases takes : env.sendRet gate.sends = 0
  · by_cases follows : env.sendRet (gate.sends + 1) = 0
    · refine ⟨by simp [socketSend, modify, emit, takes, follows],
        [lengthPrefix (frame.length % 65536), framed frame], ?_, ?_⟩
      · simp [socketSend, modify, emit, takes, follows, own, framed]
      · simp [takes, follows, encode, length_framed]
    · refine ⟨by simp [socketSend, modify, emit, takes, follows], [lengthPrefix (frame.length % 65536)], ?_, ?_⟩
      · simp [socketSend, modify, emit, takes, follows, own]
      · simp [takes, follows]
  · refine ⟨by simp [socketSend, modify, takes], [], ?_, ?_⟩
    · simp [socketSend, modify, takes]
    · simp [takes]

private theorem sendFrames_queues (gate : GateServerHandler) (i : Nat) (frames : List Bytes) :
    Queues i gate (gate.sendFrames env i frames)
      (writeFrames env.sendRet gate.sends (frames.map framed)) := by
  induction frames generalizing gate with
  | nil => exact ⟨rfl, [], by simp [sendFrames], rfl⟩
  | cons frame frames ih =>
    obtain ⟨sends, pieces, sent, flat⟩ := sendFrameToClient_queues env gate i frame
    obtain ⟨total, later, sentLater, flatLater⟩ := ih (gate.sendFrameToClient env i frame).1
    rw [sends] at total flatLater
    refine ⟨total, pieces ++ later, ?_, ?_⟩
    · rw [sendFrames, sentLater, sent, List.append_assoc]
    · rw [List.flatten_append, flat, flatLater]
      rfl

theorem queued_sendFrames (gate : GateServerHandler) (i : Nat) (frames : List Bytes) :
    queued i gate (gate.sendFrames env i frames) =
      (writeFrames env.sendRet gate.sends (frames.map framed)).2 := by
  obtain ⟨_, pieces, sent, flat⟩ := sendFrames_queues env gate i frames
  rw [queued, sent, List.drop_left, flat]

/-- The frames of each group are sent one after the other; what a group adds to the stream is one
chunk. -/
def sendGroups (env : Env) (gate : GateServerHandler) (i : Nat) : List (List Bytes) → List Bytes
  | [] => []
  | group :: groups =>
    let next := gate.sendFrames env i group
    queued i gate next :: sendGroups env next i groups

theorem sendGroups_eq (all : ∀ n, env.sendRet n = 0) (gate : GateServerHandler) (i : Nat)
    (groups : List (List Bytes)) (valid : Framable groups.flatten) :
    gate.sendGroups env i groups = groups.map encodeAll := by
  induction groups generalizing gate with
  | nil => rfl
  | cons group groups ih =>
    have whole : group.map framed = group := by
      refine (List.map_congr_left fun frame member => ?_).trans (List.map_id group)
      have small := (valid frame (by simp [member])).2
      rw [framed, Nat.mod_eq_of_lt (by omega), List.take_length, id]
    have rest : Framable groups.flatten := fun frame member => valid frame (by simp [member])
    simp only [sendGroups, List.map_cons, queued_sendFrames, writeFrames_of_all all, whole, ih _ rest]

def Receives (env : Env) (fd : Int) (i : Nat) (gate : GateServerHandler) (chunk : List Bytes × Bytes)
    (next : GateServerHandler) : Prop :=
  ∃ errors : Nat, Delivers env i gate chunk.1 errors next ∧
    gate.onClientDataRecv env fd chunk.2 = (next, (errors : Int))

theorem feed_receives (gate : GateServerHandler) (groups : List (List Bytes))
    (valid : Framable groups.flatten) (found : gate.table.byFD fd = some i)
    (length : (gate.receivers i).iMsgLen = 0) (idle : (gate.receivers i).iUsed = 0)
    (survives : (gate.feed env fd (groups.map encodeAll)).table.byFD fd = some i) :
    Steps (Receives env fd i) gate (groups.zip (groups.map encodeAll)) (gate.feed env fd (groups.map encodeAll)) ∧
      ((gate.feed env fd (groups.map encodeAll)).receivers i).iMsgLen = 0 ∧
      ((gate.feed env fd (groups.map encodeAll)).receivers i).iUsed = 0 := by
  induction groups generalizing gate with
  | nil => exact ⟨.nil, length, idle⟩
  | cons group groups ih =>
    have now : Framable group := fun frame member => valid frame (by simp [member])
    have rest : Framable groups.flatten := fun frame member => valid frame (by simp [member])
    have consumed := onClientDataRecv_consumed env gate (encodeAll group) found idle
    obtain ⟨acts, received⟩ := consumed.received
    rw [length, decode_encodeAll now] at consumed received
    rw [List.map_cons, feed] at survives
    rcases received.resolves found with alive | gone
    · have handed := (recvLoop_recvs env _ gate (encodeAll group) (by omega) found idle).delivers alive
      rw [length, decode_encodeAll now] at handed
      obtain ⟨errors, delivers, returned⟩ := handed
      obtain ⟨later, ends⟩ := ih _ rest alive (consumed.awaits alive) consumed.idle survives
      exact ⟨.cons ⟨errors, delivers, Prod.ext rfl returned⟩ later, ends⟩
    · cases (feed_gone env _ _ gone).symm.trans survives

/-- A zero-length frame in front of the bytes makes no difference, unless the connection is closed. -/
def SkipsEmpty (env : Env) (fd : Int) (i : Nat) (gate : GateServerHandler) (rest : Bytes) :
    Prop :=
  let behind := (gate.onClientDataRecv env fd (0 :: 0 :: rest)).1
  let alone := (gate.onClientDataRecv env fd rest).1
  behind.getConnectionByFD fd = none ∨
    delivered i behind.out = delivered i alone.out ∧
      (behind.vecConnections i).receiver.iMsgLen = (alone.vecConnections i).receiver.iMsgLen ∧
      (behind.vecConnections i).receiver.iUsed = (alone.vecConnections i).receiver.iUsed

theorem skipsEmpty_iff (gate : GateServerHandler) (rest : Bytes)
    (found : gate.table.byFD fd = some i) (length : (gate.receivers i).iMsgLen = 0)
    (idle : (gate.receivers i).iUsed = 0) : gate.SkipsEmpty env fd i rest ↔ Vain rest := by
  have behind := onClientDataRecv_consumed env gate (0 :: 0 :: rest) found idle
  have alone := onClientDataRecv_consumed env gate rest found idle
  rw [length] at behind alone
  rw [decode_field_zero rfl] at behind
  obtain ⟨acts, nothing⟩ := behind.received
  obtain ⟨later, received⟩ := alone.received
  have silent := nothing.unchanged
  have still : (gate.onClientDataRecv env fd (0 :: 0 :: rest)).1.getConnectionByFD fd = some i := by
    rw [getConnectionByFD_eq, silent, found]
  have waits := behind.awaits (silent ▸ found)
  rw [← decode_vain_iff]
  constructor
  · rintro (closed | ⟨same, awaited, _⟩)
    · cases still.symm.trans closed
    · have payloads : (decode 0 rest).2 = [] := by
        by_contra completed
        refine received.delivered_ne completed (same.symm.trans ?_)
        exact congrArg (fun table : Table => Gate.delivered i table.log) silent
      rw [payloads] at received
      have need := alone.awaits (received.unchanged ▸ found)
      exact Prod.ext (need.symm.trans (awaited.symm.trans waits)) payloads
  · intro vain
    rw [vain] at alone received
    have same := received.unchanged
    refine .inr ⟨?_, waits.trans (alone.awaits (same ▸ found)).symm, behind.idle.trans alone.idle.symm⟩
    exact congrArg (fun table : Table => delivered i table.log) (silent.trans same.symm)

end GateServerHandler

end Playground.Gate
