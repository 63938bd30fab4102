import Playground.Client.GateClientHandler
import Playground.Gate.Receive

/-! How the payloads that the gate and the client deliver depend on where the stream is cut into
chunks. -/

namespace Playground.Client

open Framing Gate

namespace GateClientHandler

variable (env : ClientEnv) (client : GateClientHandler)

private theorem dispatchMessage_some (payload : Bytes)
    (handled : client.dispatchMessage env payload = some result) :
    result.1.dispatched = client.dispatched ++ [payload] ∧ result.1.receiver = client.receiver := by
  unfold dispatchMessage unexpected at handled
  dsimp only at handled
  split at handled
  · split at handled
    · cases handled
      exact ⟨rfl, rfl⟩
    · split at handled
      · cases handled
        exact ⟨rfl, rfl⟩
      · split at handled
        · cases handled
          split <;> exact ⟨rfl, rfl⟩
        · split at handled
          · cases handled
          · cases handled
            exact ⟨rfl, rfl⟩
  · split at handled
    · cases handled
      exact ⟨rfl, rfl⟩
    · split at handled
      · cases handled
      · cases handled
        exact ⟨rfl, rfl⟩

theorem completeMessage_some (body : Receiver)
    (completed : client.completeMessage env body = some done) :
    done.1.dispatched = client.dispatched ++ [body.bytes body.iMsgLen] ∧
      done.1.receiver = { body with iMsgLen := 0, iUsed := 0 } := by
  obtain ⟨result, handled, rfl⟩ := Option.map_eq_some_iff.mp completed
  obtain ⟨dispatched, receiver⟩ := dispatchMessage_some env _ _ handled
  exact ⟨dispatched, by simp [receiver]⟩

def recvRest (env : ClientEnv) (fuel : Nat) (done : GateClientHandler × Int) (rest : Bytes) :
    Option (GateClientHandler × Int) :=
  if rest = [] then some done
  else (recvLoop env fuel done.1 rest).map fun later => (later.1, done.2 + later.2)

theorem recvLoop_cases (fuel : Nat) (client : GateClientHandler) (chunk : Bytes)
    (idle : client.receiver.iUsed = 0) :
    (∃ receiver : Receiver, receiver.iUsed = 0 ∧ receiver.created = client.receiver.created ∧
      decode client.receiver.iMsgLen chunk = (receiver.iMsgLen, []) ∧
      recvLoop env (fuel + 1) client chunk = some ({ client with receiver }, 0)) ∨
    ∃ (body : Receiver) (rest : Bytes), body.created = client.receiver.created ∧ rest.length < chunk.length ∧
      decode client.receiver.iMsgLen chunk =
        ((decode 0 rest).1, body.bytes body.iMsgLen :: (decode 0 rest).2) ∧
      recvLoop env (fuel + 1) client chunk =
        (client.completeMessage env body).bind fun done => recvRest env fuel done rest := by
  rw [recvLoop, if_neg (by omega)]
  dsimp only
  rcases client.receiver.idle_cases chunk idle with ⟨waits, unused, created, decoded⟩ |
    ⟨announced, fits, _, created, _, shorter, decoded⟩
  · refine .inl ⟨_, unused, created, decoded, ?_⟩
    rcases waits with nothing | short
    · rw [if_pos nothing]
    · rw [if_neg short, ite_self]
  · refine .inr ⟨_, _, created, shorter, decoded, ?_⟩
    rw [if_neg announced, if_pos fits]
    simp only [completeMessage, recvRest, List.drop_eq_nil_iff]

/-- The receive loop on one chunk, as long as the process lives. -/
inductive Recvs : GateClientHandler → Bytes → GateClientHandler × Int → Prop where
  | waits {client : GateClientHandler} {receiver : Receiver} (unused : receiver.iUsed = 0)
      (created : receiver.created = client.receiver.created)
      (decoded : decode client.receiver.iMsgLen chunk = (receiver.iMsgLen, [])) :
      Recvs client chunk ({ client with receiver }, 0)
  | more {client : GateClientHandler} (created : body.created = client.receiver.created)
      (decoded : decode client.receiver.iMsgLen chunk =
        ((decode 0 rest).1, body.bytes body.iMsgLen :: (decode 0 rest).2))
      (completed : client.completeMessage env body = some done) (later : Recvs done.1 rest result) :
      Recvs client chunk (result.1, done.2 + result.2)

theorem recvLoop_recvs (fuel : Nat) (client : GateClientHandler) (chunk : Bytes)
    (enough : chunk.length < fuel) (idle : client.receiver.iUsed = 0)
    (returned : recvLoop env fuel client chunk = some result) : Recvs env client chunk result := by
  induction fuel generalizing client chunk result with
  | zero => exact absurd enough (Nat.not_lt_zero _)
  | succ fuel ih =>
    rcases recvLoop_cases env fuel client chunk idle with
      ⟨receiver, unused, created, decoded, same⟩ | ⟨body, rest, created, shorter, decoded, same⟩
    · cases same.symm.trans returned
      exact .waits unused created decoded
    · obtain ⟨done, completed, resumed⟩ := Option.bind_eq_some_iff.mp (same.symm.trans returned)
      obtain ⟨_, reset⟩ := completeMessage_some env _ _ completed
      unfold recvRest at resumed
      split at resumed
      · next last =>
        cases resumed
        have waits : Recvs env result.1 rest (result.1, 0) :=
          .waits (by simp [reset]) rfl (by simp [reset, last, decode_idle_short])
        simpa using Recvs.more created decoded completed waits
      · obtain ⟨later, recursed, rfl⟩ := Option.map_eq_some_iff.mp resumed
        exact .more created decoded completed (ih done.1 rest (by omega) (by simp [reset]) recursed)

theorem Recvs.dispatched {client : GateClientHandler} (recvs : Recvs env client chunk result) :
    result.1.dispatched = client.dispatched ++ (decode client.receiver.iMsgLen chunk).2 ∧
      result.1.receiver.iMsgLen = (decode client.receiver.iMsgLen chunk).1 ∧
      result.1.receiver.iUsed = 0 := by
  induction recvs with
  | waits unused _ decoded => simp [decoded, unused]
  | more _ decoded completed _ ih =>
    obtain ⟨dispatched, reset⟩ := completeMessage_some env _ _ completed
    rw [decoded]
    simpa [reset, dispatched] using ih

private theorem feed_dispatched (chunks : List Bytes)
    (idle : client.receiver.iUsed = 0) (survives : client.feed env chunks = some final) :
    final.dispatched = client.dispatched ++ (decodeAll client.receiver.iMsgLen chunks).2 := by
  induction chunks generalizing client with
  | nil =>
    cases survives
    simp [decodeAll]
  | cons chunk chunks ih =>
    obtain ⟨next, received, rest⟩ := Option.bind_eq_some_iff.mp survives
    obtain ⟨dispatched, length, unused⟩ := (recvLoop_recvs env _ client chunk (by omega) idle received).dispatched
    rw [ih next.1 unused rest, dispatched, length]
    simp [decodeAll]

end GateClientHandler

/-- Both decoders deliver exactly the frames of a stream if and only if no chunk
ends inside a length field or inside a payload; a chunk may end behind a length field. -/
theorem delivers_frames_iff_cleanCuts (frames chunks : List Bytes) (valid : Framable frames)
    (stream : chunks.flatten = encodeAll frames) :
    (∀ (env : Env) (gate : GateServerHandler) (fd : Int) (i : Nat),
      gate.getConnectionByFD fd = some i →
      (gate.vecConnections i).receiver.iMsgLen = 0 → (gate.vecConnections i).receiver.iUsed = 0 →
      (gate.feed env fd chunks).getConnectionByFD fd = some i →
      (delivered i (gate.feed env fd chunks).out = delivered i gate.out ++ frames ↔
        CleanCuts frames chunks)) ∧
    ∀ (env : ClientEnv) (client final : GateClientHandler),
      client.receiver.iMsgLen = 0 → client.receiver.iUsed = 0 →
      client.feed env chunks = some final →
      (final.dispatched = client.dispatched ++ frames ↔ CleanCuts frames chunks) := by
  have exact := decodeAll_idle_exact valid stream
  constructor
  · intro env gate fd i found length idle survives
    rw [GateServerHandler.feed_delivered env gate chunks found idle survives, List.append_cancel_left_eq]
    rw [← exact, GateServerHandler.receivers, length]
  · intro env client final length idle survives
    rw [GateClientHandler.feed_dispatched env client chunks idle survives, List.append_cancel_left_eq]
    rw [← exact, length]

def oneConnection : GateServerHandler :=
  { GateServerHandler.init soleArea 4 0 (fun _ => 0) with
    vecConnections := fun i => if i = 1 then { iIdx := 1, cliSocket := { fd := 5 }, bState := .connected } else {}
    mpConnections := fun fd => if fd = 5 then some 1 else none }

theorem delivers_frames_cut_behind_field :
    delivered 1 (oneConnection.feed soleArea 5 [[0, 1], [7]]).out = [[7]] := by
  have delivers := (delivers_frames_iff_cleanCuts [[7]] [[0, 1], [7]] (by simp [Framable]) rfl).1
    soleArea oneConnection 5 1 rfl rfl rfl rfl
  exact delivers.mpr (by decide)

/-- The connection survives the chunks of the frames, but neither side delivers anything. -/
def FramesLost (frames chunks : List Bytes) : Prop :=
  chunks.flatten = encodeAll frames ∧
  (oneConnection.feed soleArea 5 chunks).getConnectionByFD 5 = some 1 ∧
  delivered 1 (oneConnection.feed soleArea 5 chunks).out = [] ∧
  (({ iCurState := .connected } : GateClientHandler).feed deafClient chunks).map (·.dispatched) = some []

instance (frames chunks : List Bytes) : Decidable (FramesLost frames chunks) :=
  inferInstanceAs (Decidable (_ ∧ _))

/-- A cut inside the length field, and a cut inside the payload. -/
theorem frame_lost_at_cut :
    FramesLost [[7]] [[0], [1, 7]] ∧ FramesLost [[7, 8]] [[0, 2, 7], [8]] := by
  decide

end Playground.Client
