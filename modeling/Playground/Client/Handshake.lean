import Playground.Client.GateClientHandler
import Playground.Gate.Channel
import Playground.Gate.Safety

/-! The authorization handshake. -/

namespace Playground.Client

open Framing Gate Transition

inductive Phase where
  | pending
  | accepted (slot : Nat)
  | closed
deriving DecidableEq

def Phase.slot : Phase → Option Nat
  | .accepted i => some i
  | .pending | .closed => none

/-- A frame on its way to the client, with the state in which the call that sent it left
the connection. -/
structure Frame where
  payload : Bytes
  state : GateConnectionState
deriving DecidableEq

structure Link where
  gate : GateServerHandler
  client : GateClientHandler := {}
  phase : Phase := .pending
  toClient : List Frame := []
  toGate : List Bytes := []

namespace Link

def gateCall (link : Link) (i : Nat) (next : GateServerHandler) : Link :=
  let state := (next.vecConnections i).bState
  { link with
    gate := next
    phase := if state = .invalid then .closed else .accepted i
    toClient := link.toClient ++ (framesSent i link.gate next).map fun payload => { payload, state } }

def clientCall (link : Link) (next : GateClientHandler) : Link :=
  { link with
    client := next
    toGate := link.toGate ++ framePayloads (next.sent.drop link.client.sent.length) }

/-- Bytes of this client come from the queue only, and the agent sends data only once it is authorized. -/
def Admits (link : Link) : Event → Prop
  | .clientDataRecv fd _ => ∀ i ∈ link.phase.slot, link.gate.getConnectionByFD fd ≠ some i
  | .agentMessage ggc _ => ggc.event = .data → link.phase.slot = some ggc.idx →
      (link.gate.vecConnections ggc.idx).bState = .authorized
  | _ => True

instance (link : Link) : DecidablePred link.Admits
  | .clientDataRecv _ _ => inferInstanceAs (Decidable (∀ i ∈ link.phase.slot, _ ≠ _))
  | .agentMessage _ _ => inferInstanceAs (Decidable (_ → _ → _))
  | .newConnection _ | .connectionClosed _ | .checkConnxFree _ | .closing _ _ | .clock _ _ _ =>
    inferInstanceAs (Decidable True)

end Link

inductive LinkEvent where
  | accept (socket : TcpSocket)
  | gate (ev : Event)
  | toGate
  | toClient
  | connected (socket : TcpSocket)
  | authorize (type : UInt32) (uid : UInt64) (token : String)
  | sendFrame (buffer : Bytes)
  | disconnected

/-- One event; `none` where there is nothing to deliver or a process ends. -/
def linkStep (env : Env) (clientEnv : ClientEnv) (link : Link) : LinkEvent → Option Link
  | .accept socket =>
    if link.phase = .pending then
      (link.gate.countAlive 1).getNextIdx.bind fun i =>
        (link.gate.onNewConnection env socket).map fun result =>
          if result.2 = 0 then link.gateCall i result.1
          else { link with gate := result.1, phase := .closed }
    else none
  | .gate ev =>
    if link.Admits ev then
      (step env link.gate ev).map fun next =>
        match link.phase with
        | .accepted i => link.gateCall i next
        | .pending | .closed => { link with gate := next }
    else none
  | .toGate =>
    match link.phase, link.toGate with
    | .accepted i, payload :: rest =>
      some ({ link with toGate := rest }.gateCall i (link.gate.onClientMessage env i payload).1)
    | _, _ => none
  | .toClient =>
    match link.toClient with
    | frame :: rest =>
      if link.client.iCurState = .closed then none
      else (link.client.dispatchMessage clientEnv frame.payload).map fun handled =>
        { link with toClient := rest }.clientCall handled.1
    | [] => none
  | .connected socket =>
    if link.client.iCurState = .closed then some (link.clientCall (link.client.onConnected clientEnv socket).1)
    else none
  | .authorize type uid token =>
    (link.client.authorize clientEnv type uid token).map fun sent => link.clientCall sent.1
  | .sendFrame buffer => (link.client.sendFrame clientEnv buffer).map fun sent => link.clientCall sent.1
  | .disconnected =>
    if link.phase = .closed then some (link.clientCall (link.client.onDisconnected clientEnv).1) else none

def LinkStep (env : Env) (clientEnv : ClientEnv) (link : Link) (event : LinkEvent) (next : Link) : Prop :=
  linkStep env clientEnv link event = some next

def needAuth : GateCSMsg := { cmd := gateNeedAuth }
def authAccepted : GateCSMsg := { cmd := gateAuthRsp, authRsp := some { result := 0 } }

/-- The channels lose nothing, and the client parses what the gate serializes. -/
structure Reliable (env : Env) (clientEnv : ClientEnv) : Prop where
  all : env.SendsAll
  parses : ∀ msg buffer, env.serializeGateCSMsg msg = some buffer → clientEnv.parseGateCSMsg buffer = some msg
  fits : ∀ msg, msg = needAuth ∨ msg = authAccepted →
    ∃ buffer, env.serializeGateCSMsg msg = some buffer ∧ buffer.length < 65536

theorem Link.Admits.fed {link : Link} (admits : link.Admits ev) (phase : link.phase = .accepted i)
    (feeds : ev.Feeds link.gate i) :
    ∃ ggc csmsg, ev = .agentMessage ggc csmsg ∧ ggc.idx = i ∧ ggc.event = .data ∧
      (link.gate.vecConnections i).bState = .authorized := by
  have slot : link.phase.slot = some i := congrArg Phase.slot phase
  cases ev with
  | clientDataRecv fd chunk => exact absurd feeds (admits i slot)
  | agentMessage ggc csmsg =>
    obtain ⟨rfl, data⟩ := feeds
    exact ⟨ggc, csmsg, rfl, rfl, data, admits data slot⟩
  | newConnection _ | connectionClosed _ | checkConnxFree _ | closing _ _ | clock _ _ _ => cases feeds

section Client

variable {clientEnv : ClientEnv} {client : GateClientHandler} {result : GateClientHandler × Int}

theorem dispatchMessage_needAuth (waiting : client.iCurState = .connected ∨ client.iCurState = .authorizing)
    (parsed : clientEnv.parseGateCSMsg payload = some needAuth)
    (handled : client.dispatchMessage clientEnv payload = some result) :
    result.1.iCurState = .authorizing := by
  unfold GateClientHandler.dispatchMessage at handled
  dsimp only at handled
  rw [if_pos waiting, parsed] at handled
  dsimp only at handled
  rw [if_pos (by decide)] at handled
  cases handled
  rfl

theorem dispatchMessage_authAccepted
    (waiting : client.iCurState = .connected ∨ client.iCurState = .authorizing)
    (parsed : clientEnv.parseGateCSMsg payload = some authAccepted)
    (handled : client.dispatchMessage clientEnv payload = some result) :
    result.1.iCurState = .authorized := by
  unfold GateClientHandler.dispatchMessage at handled
  dsimp only at handled
  rw [if_pos waiting, parsed] at handled
  dsimp only at handled
  rw [if_neg (by decide), if_pos (by decide), if_pos (by decide)] at handled
  cases handled
  rfl

theorem dispatchMessage_authorized (authorized : client.iCurState = .authorized)
    (handled : client.dispatchMessage clientEnv payload = some result) :
    result.1.iCurState = .authorized := by
  unfold GateClientHandler.dispatchMessage at handled
  dsimp only at handled
  rw [authorized, if_neg (by decide), if_pos rfl] at handled
  cases handled
  rfl

theorem dispatchMessage_state (handled : client.dispatchMessage clientEnv payload = some result) :
    result.1.iCurState = client.iCurState ∨ result.1.iCurState = .authorizing ∨
      result.1.iCurState = .authorized := by
  unfold GateClientHandler.dispatchMessage GateClientHandler.unexpected at handled
  dsimp only at handled
  repeat' split at handled
  all_goals cases handled
  all_goals simp [GateClientHandler.call]

theorem sendFrame_state (sent : client.sendFrame clientEnv buffer = some result) :
    result.1.iCurState = client.iCurState := by
  have keeps (client : GateClientHandler) (bytes : Bytes) :
      (client.socketSend clientEnv bytes).1.iCurState = client.iCurState := by
    unfold GateClientHandler.socketSend
    dsimp only
    split <;> rfl
  unfold GateClientHandler.sendFrame at sent
  split at sent
  · cases sent
  · dsimp only at sent
    split at sent
    · cases sent
      exact keeps _ _
    · cases sent
      exact (keeps _ _).trans (keeps _ _)

end Client

/-- The frame that asks for authentication, sent before the connection was authorized. -/
def Frame.Asks (clientEnv : ClientEnv) (frame : Frame) : Prop :=
  clientEnv.parseGateCSMsg frame.payload = some needAuth ∧ frame.state ≠ .authorized

/-- The answer is on its way, and only requests to authenticate are ahead of it. -/
def Answered (clientEnv : ClientEnv) (frames : List Frame) : Prop :=
  ∃ before answer after, frames = before ++ answer :: after ∧ (∀ frame ∈ before, frame.Asks clientEnv) ∧
    clientEnv.parseGateCSMsg answer.payload = some authAccepted

/-- How far the two ends of an accepted connection have come. -/
inductive Progress (clientEnv : ClientEnv) (frames : List Frame) :
    GateConnectionState → GateClientState → Prop where
  | asked (waits : gate ≠ .authorized) (behind : client ≠ .authorized)
      (asks : ∀ frame ∈ frames, frame.Asks clientEnv) : Progress clientEnv frames gate client
  | answered (answered : Answered clientEnv frames) (behind : client ≠ .authorized) :
      Progress clientEnv frames .authorized client
  | agreed : Progress clientEnv frames .authorized .authorized

structure Shaking (clientEnv : ClientEnv) (link : Link) : Prop where
  idle : link.gate.Idle
  dialled : link.client.iCurState ≠ .connecting
  pending : link.phase = .pending → link.toClient = [] ∧ link.client.iCurState ≠ .authorized
  accepted : ∀ i, link.phase = .accepted i → link.gate.table.Live i ∧
    Progress clientEnv link.toClient (link.gate.vecConnections i).bState link.client.iCurState

namespace Progress

variable {clientEnv : ClientEnv} {frames : List Frame}

theorem more (progress : Progress clientEnv frames .authorized client) (later : List Frame) :
    Progress clientEnv (frames ++ later) .authorized client := by
  cases progress with
  | asked waits _ _ => exact absurd rfl waits
  | answered answered behind =>
    obtain ⟨before, answer, after, rfl, asks, parsed⟩ := answered
    refine .answered ⟨before, answer, after ++ later, ?_, asks, parsed⟩ behind
    simp
  | agreed => exact .agreed

theorem response (progress : Progress clientEnv frames gate client)
    (parsed : clientEnv.parseGateCSMsg buffer = some authAccepted)
    (responded : Response [head, buffer] gate after bytes) :
    Progress clientEnv (frames ++ (framePayloads bytes).map fun payload => { payload, state := after })
      after client := by
  cases responded with
  | silent kept =>
    show Progress clientEnv (frames ++ []) after client
    rw [List.append_nil]
    rcases kept with ⟨was, is⟩ | rfl
    · cases progress with
      | asked _ behind asks => exact .asked is behind asks
      | answered _ _ => exact absurd rfl was
      | agreed => exact absurd rfl was
    · exact progress
  | admitted =>
    cases progress with
    | asked _ behind asks => exact .answered ⟨frames, ⟨buffer, .authorized⟩, [], rfl, asks, parsed⟩ behind
  | forwarded => exact progress.more _

theorem read {handler : GateClientHandler}
    (progress : Progress clientEnv (frame :: frames) gate handler.iCurState)
    (listens : handler.iCurState ≠ .closed) (dialled : handler.iCurState ≠ .connecting)
    (handled : handler.dispatchMessage clientEnv frame.payload = some result) :
    Progress clientEnv frames gate result.1.iCurState := by
  have waiting : handler.iCurState ≠ .authorized →
      handler.iCurState = .connected ∨ handler.iCurState = .authorizing := by
    intro behind
    cases state : handler.iCurState <;> simp_all
  generalize state : handler.iCurState = client at progress
  cases progress with
  | asked waits behind asks =>
    obtain ⟨parsed, _⟩ := asks frame List.mem_cons_self
    rw [dispatchMessage_needAuth (waiting (state ▸ behind)) parsed handled]
    refine .asked waits (by decide) ?_
    intro frame member
    exact asks frame (List.mem_cons_of_mem _ member)
  | answered answered behind =>
    obtain ⟨before, answer, after, split, asks, parsed⟩ := answered
    cases before with
    | nil =>
      obtain ⟨rfl, rfl⟩ := List.cons.inj split
      rw [dispatchMessage_authAccepted (waiting (state ▸ behind)) parsed handled]
      exact .agreed
    | cons first before =>
      obtain ⟨rfl, rfl⟩ := List.cons.inj split
      obtain ⟨asked, _⟩ := asks frame List.mem_cons_self
      rw [dispatchMessage_needAuth (waiting (state ▸ behind)) asked handled]
      refine .answered ⟨before, answer, after, rfl, ?_, parsed⟩ (by decide)
      intro frame member
      exact asks frame (List.mem_cons_of_mem _ member)
  | agreed =>
    rw [dispatchMessage_authorized state handled]
    exact .agreed

end Progress

namespace Shaking

variable {env : Env} {clientEnv : ClientEnv} {link : Link}

theorem gateCall (dialled : link.client.iCurState ≠ .connecting) (idle : next.Idle)
    (shows : Shows i link.gate.table next.table after bytes)
    (progress : after ≠ .invalid → Progress clientEnv
      (link.toClient ++ (framePayloads bytes).map fun payload => { payload, state := after })
      after link.client.iCurState) : Shaking clientEnv (link.gateCall i next) := by
  have state : (next.vecConnections i).bState = after := shows.state
  have sent : (link.gateCall i next).toClient =
      link.toClient ++ (framePayloads bytes).map fun payload => { payload, state := after } := by
    rw [Link.gateCall, shows.framesSent, state]
  have phase : (link.gateCall i next).phase = if after = .invalid then .closed else .accepted i := by
    rw [Link.gateCall, state]
  refine ⟨idle, dialled, ?_, ?_⟩
  · intro pending
    rw [phase] at pending
    split at pending <;> cases pending
  · intro j accepted
    rw [phase] at accepted
    split at accepted
    · cases accepted
    · next alive =>
      cases accepted
      refine ⟨?_, ?_⟩
      · show (next.vecConnections i).bState ≠ .invalid
        rw [state]
        exact alive
      · rw [sent]
        show Progress clientEnv _ (next.vecConnections i).bState link.client.iCurState
        rw [state]
        exact progress alive

theorem spared (shaking : Shaking clientEnv link) (phase : link.phase = .accepted i) (idle : next.Idle)
    (spares : Spares i link.gate.table next.table) : Shaking clientEnv (link.gateCall i next) := by
  obtain ⟨_, progress⟩ := shaking.accepted i phase
  obtain ⟨after, kept, shows⟩ := spares
  refine gateCall shaking.dialled idle shows fun alive => ?_
  rw [kept.resolve_right alive]
  show Progress clientEnv (link.toClient ++ []) (link.gate.vecConnections i).bState _
  rw [List.append_nil]
  exact progress

theorem clientCall (shaking : Shaking clientEnv link)
    (state : next.iCurState = link.client.iCurState ∨
      link.client.iCurState = .closed ∧ next.iCurState = .connected) :
    Shaking clientEnv (link.clientCall next) := by
  have behind : link.client.iCurState ≠ .authorized → next.iCurState ≠ .authorized := by
    intro behind
    rcases state with same | ⟨_, connected⟩
    · rwa [same]
    · rw [connected]
      decide
  refine ⟨shaking.idle, ?_, ?_, ?_⟩
  · show next.iCurState ≠ .connecting
    rcases state with same | ⟨_, connected⟩
    · rw [same]
      exact shaking.dialled
    · rw [connected]
      decide
  · intro pending
    obtain ⟨empty, unauthorized⟩ := shaking.pending pending
    exact ⟨empty, behind unauthorized⟩
  · intro i accepted
    obtain ⟨live, progress⟩ := shaking.accepted i accepted
    refine ⟨live, ?_⟩
    show Progress clientEnv link.toClient (link.gate.vecConnections i).bState next.iCurState
    rcases state with same | ⟨closed, connected⟩
    · rwa [same]
    · generalize (link.gate.vecConnections i).bState = gate at progress ⊢
      rw [closed] at progress
      rw [connected]
      cases progress with
      | asked waits _ asks => exact .asked waits (by decide) asks
      | answered answered _ => exact .answered answered (by decide)

theorem ended (idle : link.gate.Idle) (dialled : link.client.iCurState ≠ .connecting)
    (closed : link.phase = .closed) : Shaking clientEnv link := by
  refine ⟨idle, dialled, ?_, ?_⟩
  · intro pending
    exact nomatch closed.symm.trans pending
  · intro i accepted
    exact nomatch closed.symm.trans accepted

variable (shaking : Shaking clientEnv link)

include shaking

theorem accept (reliable : Reliable env clientEnv)
    (stepped : linkStep env clientEnv link (.accept socket) = some next) : Shaking clientEnv next := by
  rw [linkStep] at stepped
  split at stepped
  · next pending =>
    obtain ⟨empty, unauthorized⟩ := shaking.pending pending
    obtain ⟨i, found, accepted⟩ := Option.bind_eq_some_iff.mp stepped
    obtain ⟨result, returned, rfl⟩ := Option.map_eq_some_iff.mp accepted
    have called : step env link.gate (.newConnection socket) = some result.1 := by
      rw [step, returned]
      rfl
    obtain ⟨_, acted⟩ := step_acts shaking.idle called
    split
    · next succeeded =>
      obtain ⟨buffer, serialized, small⟩ := reliable.fits needAuth (.inl rfl)
      have shows := onNewConnection_shows reliable.all link.gate socket serialized small found
        (returned.trans (congrArg (fun ret => some (result.1, ret)) succeeded))
      refine gateCall shaking.dialled acted.idle shows fun _ => ?_
      rw [empty]
      refine .asked (by decide) unauthorized ?_
      intro frame member
      obtain rfl := List.mem_singleton.mp member
      exact ⟨reliable.parses _ _ serialized, by simp⟩
    · exact ended acted.idle shaking.dialled rfl
  · cases stepped

theorem toGate (reliable : Reliable env clientEnv)
    (stepped : linkStep env clientEnv link .toGate = some next) : Shaking clientEnv next := by
  rw [linkStep] at stepped
  split at stepped
  · next i payload rest phase queue =>
    cases stepped
    obtain ⟨live, progress⟩ := shaking.accepted i phase
    obtain ⟨buffer, serialized, small⟩ := reliable.fits authAccepted (.inr rfl)
    obtain ⟨after, bytes, shows, responded⟩ :=
      onClientMessage_shows reliable.all link.gate payload serialized small live
    obtain ⟨_, _, _, receivers⟩ := link.gate.onClientMessage_handled env i payload live
    have idle : (link.gate.onClientMessage env i payload).1.Idle := by
      intro j
      rw [receivers]
      exact shaking.idle j
    have responds := progress.response (reliable.parses _ _ serialized) responded
    exact gateCall shaking.dialled idle shows fun _ => responds
  · cases stepped

theorem gate
    (stepped : linkStep env clientEnv link (.gate ev) = some next) : Shaking clientEnv next := by
  rw [linkStep] at stepped
  by_cases admits : link.Admits ev
  case neg =>
    rw [if_neg admits] at stepped
    cases stepped
  rw [if_pos admits] at stepped
  obtain ⟨called, returned, rfl⟩ := Option.map_eq_some_iff.mp stepped
  obtain ⟨_, acted⟩ := step_acts shaking.idle returned
  cases phase : link.phase with
  | pending =>
    refine ⟨acted.idle, shaking.dialled, fun _ => shaking.pending phase, ?_⟩
    intro i accepted
    cases accepted
  | closed => exact ended acted.idle shaking.dialled rfl
  | accepted i =>
    obtain ⟨live, progress⟩ := shaking.accepted i phase
    dsimp only
    by_cases feeds : ev.Feeds link.gate i
    · -- data of the agent, behind the answer
      obtain ⟨ggc, csmsg, rfl, rfl, data, authorized⟩ := admits.fed phase feeds
      cases returned
      rcases StepActs.dispatchMessage_acts env link.gate ggc csmsg with
        ⟨_, same⟩ | ⟨_, ⟨close, _⟩ | ⟨_, sends⟩ | ⟨connected, _⟩⟩
      · exact shaking.spared phase acted.idle (.of_same (congrArg GateServerHandler.table same))
      · exact nomatch data.symm.trans close
      · obtain ⟨written, wrote⟩ := sends.writes
        have shows : Shows ggc.idx link.gate.table (link.gate.dispatchMessage env ggc csmsg).1.table
            (link.gate.vecConnections ggc.idx).bState written.reverse := by
          rw [wrote]
          exact .writes written
        refine gateCall shaking.dialled acted.idle shows fun _ => ?_
        rw [authorized] at progress ⊢
        exact progress.more _
      · exact nomatch data.symm.trans connected
    · exact shaking.spared phase acted.idle (step_spares returned shaking.idle live feeds)

private theorem toClient
    (stepped : linkStep env clientEnv link .toClient = some next) : Shaking clientEnv next := by
  rw [linkStep] at stepped
  split at stepped
  · next frame rest queue =>
    split at stepped
    · cases stepped
    · next listens =>
      obtain ⟨result, handled, rfl⟩ := Option.map_eq_some_iff.mp stepped
      have dialled : result.1.iCurState ≠ .connecting := by
        rcases dispatchMessage_state handled with same | authorizing | authorized
        · rw [same]
          exact shaking.dialled
        · rw [authorizing]
          decide
        · rw [authorized]
          decide
      refine ⟨shaking.idle, dialled, ?_, ?_⟩
      · intro pending
        exact nomatch queue.symm.trans (shaking.pending pending).1
      · intro i accepted
        obtain ⟨live, progress⟩ := shaking.accepted i accepted
        rw [queue] at progress
        exact ⟨live, progress.read listens shaking.dialled handled⟩
  · cases stepped

private theorem step (reliable : Reliable env clientEnv)
    (stepped : LinkStep env clientEnv link event next) : Shaking clientEnv next := by
  cases event with
  | accept socket => exact shaking.accept reliable stepped
  | gate ev => exact shaking.gate stepped
  | toGate => exact shaking.toGate reliable stepped
  | toClient => exact shaking.toClient stepped
  | connected socket =>
    rw [LinkStep, linkStep] at stepped
    split at stepped
    · next closed =>
      cases stepped
      exact shaking.clientCall (.inr ⟨closed, rfl⟩)
    · cases stepped
  | authorize type uid token =>
    obtain ⟨result, sent, rfl⟩ := Option.map_eq_some_iff.mp stepped
    exact shaking.clientCall (.inl (sendFrame_state sent))
  | sendFrame buffer =>
    obtain ⟨result, sent, rfl⟩ := Option.map_eq_some_iff.mp stepped
    exact shaking.clientCall (.inl (sendFrame_state sent))
  | disconnected =>
    rw [LinkStep, linkStep] at stepped
    split at stepped
    · next closed =>
      cases stepped
      have dialled : (link.clientCall (link.client.onDisconnected clientEnv).1).client.iCurState ≠ .connecting :=
        nofun
      exact ended shaking.idle dialled closed
    · cases stepped

end Shaking

/-- The two ends agree: an authorized client has an authorized or a closed connection, and
while the client does not know yet that the gate has authorized it, the answer is ahead of
every other frame sent since. -/
theorem handshake_agrees (reliable : Reliable env clientEnv)
    (served : Steps (EventStep env) (GateServerHandler.init env iMaxConnections curMsTime junk) events gate)
    (run : Steps (LinkStep env clientEnv) { gate } labels link) :
    (link.client.iCurState = .authorized → link.phase = .closed ∨
      ∃ i, link.phase = .accepted i ∧ (link.gate.vecConnections i).bState = .authorized) ∧
    ∀ i, link.phase = .accepted i → (link.gate.vecConnections i).bState = .authorized →
      link.client.iCurState ≠ .authorized →
      ∃ before answer after, link.toClient = before ++ answer :: after ∧
        (∀ frame ∈ before, frame.state ≠ .authorized) ∧
        clientEnv.parseGateCSMsg answer.payload = some authAccepted := by
  have idle : gate.Idle := (run_sound served).1
  have start : Shaking clientEnv { gate } :=
    ⟨idle, nofun, fun _ => ⟨rfl, nofun⟩, fun i accepted => nomatch accepted⟩
  have keeps {link event next} (stepped : LinkStep env clientEnv link event next)
      (shaking : Shaking clientEnv link) : Shaking clientEnv next := shaking.step reliable stepped
  have shaking := run.invariant keeps start
  constructor
  · intro authorized
    cases phase : link.phase with
    | pending => exact absurd authorized (shaking.pending phase).2
    | closed => exact .inl rfl
    | accepted i =>
      obtain ⟨_, progress⟩ := shaking.accepted i phase
      generalize state : (link.gate.vecConnections i).bState = reached at progress
      generalize link.client.iCurState = client at progress authorized
      cases progress with
      | asked _ behind _ => exact absurd authorized behind
      | answered _ behind => exact absurd authorized behind
      | agreed => exact .inr ⟨i, rfl, state⟩
  · intro i phase authorized behind
    obtain ⟨_, progress⟩ := shaking.accepted i phase
    rw [authorized] at progress
    generalize link.client.iCurState = client at progress behind
    cases progress with
    | asked waits _ _ => exact absurd rfl waits
    | answered answered _ =>
      obtain ⟨before, answer, after, split, asks, parsed⟩ := answered
      exact ⟨before, answer, after, split, fun frame member => (asks frame member).2, parsed⟩
    | agreed => exact absurd rfl behind

def plainGate : Env :=
  { soleArea with
    serializeGateCSMsg := fun msg =>
      if msg = needAuth then some [1] else if msg = authAccepted then some [3] else none }

def plainClient : ClientEnv :=
  { deafClient with
    parseGateCSMsg := fun bytes =>
      if bytes = [1] then some needAuth else if bytes = [3] then some authAccepted else none
    serializeGateCSMsg := fun _ => [7, 1] }

private theorem plain_reliable : Reliable plainGate plainClient := by
  refine ⟨⟨fun _ => rfl, fun _ => rfl⟩, ?_, ?_⟩
  · intro msg buffer serialized
    simp only [plainGate] at serialized
    split at serialized
    · next asks =>
      cases serialized
      rw [asks]
      rfl
    · split at serialized
      · next answers =>
        cases serialized
        rw [answers]
        rfl
      · cases serialized
  · rintro msg (rfl | rfl)
    · exact ⟨[1], rfl, by decide⟩
    · exact ⟨[3], rfl, by decide⟩

def eagerEvents : List LinkEvent :=
  [.connected { fd := 4 }, .authorize 0 7 "", .sendFrame [9], .accept { fd := 5 }, .toGate, .toGate,
    .gate (.agentMessage { event := .data, idx := 1, uid := 7, area := 1 } [8])]

def eagerLink : Link :=
  (runAll (linkStep plainGate plainClient) { gate := smallGate } eagerEvents).get (by decide +kernel)

theorem handshake_agrees_eager :
    (eagerLink.gate.vecConnections 1).bState = .authorized ∧ eagerLink.client.iCurState = .connected ∧
      ∃ before answer after, eagerLink.toClient = before ++ answer :: after ∧
        (∀ frame ∈ before, frame.state ≠ .authorized) ∧
        plainClient.parseGateCSMsg answer.payload = some authAccepted := by
  have run : Steps (LinkStep plainGate plainClient) { gate := smallGate } eagerEvents eagerLink :=
    steps_of_runAll (Option.some_get _).symm
  have phase : eagerLink.phase = .accepted 1 := by decide +kernel
  have authorized : (eagerLink.gate.vecConnections 1).bState = .authorized := by decide +kernel
  have behind : eagerLink.client.iCurState = .connected := by decide +kernel
  refine ⟨authorized, behind, ?_⟩
  exact (handshake_agrees plain_reliable .nil run).2 1 phase authorized (behind ▸ by decide)

end Playground.Client
