import Playground.Transition.Steps
import Playground.Redis.RedisAgent

/-! The agent with its connections and the server behind them. -/

namespace Playground.Redis

open Framing Transition

/-- A command that was passed on, by its number. -/
structure Sent where
  number : Nat
  cb : Buffer
  conn : Nat
  cbid : CallBackId
  command : RedisCommand
deriving DecidableEq

inductive Link where
  | connecting
  | up
  /-- It did not come up, or it was lost. -/
  | gone
deriving DecidableEq

structure Binding where
  database : Nat := 0
  /-- The last SELECT executed on the connection, and whether it succeeded. -/
  lastSelect : Option (Nat × Bool) := none
deriving DecidableEq

/-- A connection as client and server see it. -/
structure Connection where
  link : Link := .connecting
  stream : List Sent := []
  answers : List (Sent × RedisReply) := []
  binding : Binding := {}

/-- The commands whose callbacks have not run. -/
def Connection.pending (connection : Connection) : List Sent :=
  connection.answers.map (·.1) ++ connection.stream

/-- `__redisShiftCallback`: the oldest of them. -/
def Connection.shiftCallback (connection : Connection) : Option (Sent × Connection) :=
  match connection.answers, connection.stream with
  | (sent, _) :: answers, _ => some (sent, { connection with answers })
  | [], sent :: stream => some (sent, { connection with stream })
  | [], [] => none

/-- The databases of the server. -/
abbrev Store := Nat → Bytes → Option Bytes

def Store.put (store : Store) (database : Nat) (key : Bytes) (value : Option Bytes) : Store :=
  Function.update store database (Function.update (store database) key value)

/-- A callback buffer was handed over, with the reply to a command or without one, and with the
timeout flag or without it. -/
structure Handed where
  cb : Buffer
  reply : Option (Nat × RedisReply)
  timeout : Bool := false
deriving DecidableEq

/-- The agent, its connections and the server. -/
structure RedisWorld where
  agent : RedisAgent
  control : Control := .idle
  connections : Nat → Connection := fun _ => {}
  store : Store
  issued : List Sent := []
  executed : List (Sent × RedisReply) := []
  handed : List Handed := []
  advances : Nat := 0

/-- The agent in `Init`, with a connection to each address. -/
def RedisWorld.start (addrList : List RedisAddr) (store : Store) : RedisWorld where
  agent := { redisCtxList := addrList.zipIdx.map fun entry => { addr := entry.1, ctx := entry.2 } }
  store

def oneDatabase : List RedisAddr := List.replicate 2 { dbidx := 0 }

inductive RedisEvent where
  | connect (conn : Nat) (ok : Bool) (call : Call)
  | command (cb : Bytes) (command : RedisCommand) (call : Call)
  /-- The server executes the next command of a connection; it may refuse a SELECT. -/
  | execute (conn : Nat) (accepted : Bool)
  | write (database : Nat) (key : Bytes) (value : Option Bytes)
  | reply (conn index : Nat)
  | replied
  /-- A connection is lost by an error. -/
  | lose (conn : Nat)
  /-- The client library runs the next callback of a connection that is gone, or is through. -/
  | free
  | polling (chkPerTick : Int)
  | check (now : Int)
  | expired

namespace RedisWorld

def setConnection (world : RedisWorld) (conn : Nat) (connection : Connection) : RedisWorld :=
  { world with connections := Function.update world.connections conn connection }

def issue (world : RedisWorld) (agent : RedisAgent) (sent : Sent) : RedisWorld :=
  let connection := world.connections sent.conn
  { world.setConnection sent.conn { connection with stream := connection.stream ++ [sent] } with
    agent
    issued := world.issued ++ [sent] }

/-- `Command`: the connection is picked at random, and there has to be one. A connection that is
gone takes no command. -/
def command (world : RedisWorld) (cb : Bytes) (command : RedisCommand) (call : Call) : Option RedisWorld :=
  match world.agent.redisCtxList[call.pick % world.agent.redisCtxList.length]? with
  | none => none
  | some context =>
    if call.taken ∧ (world.connections context.ctx).link = .gone then none else
    let number := world.issued.length
    let cb : Buffer := { address := number, bytes := cb }
    (world.agent.command cb call).map fun
      | (none, agent) => { world with agent }
      | (some cbid, agent) => world.issue agent { number, cb, conn := context.ctx, cbid, command }

def selectDB (world : RedisWorld) (dbidx : UInt32) (call : Call) : Option RedisWorld :=
  if dbidx.toNat < 2 ^ 31 then world.command (selectdbCb ++ [0]) (.select dbidx.toNat) call else none

def connectCallback (world : RedisWorld) (conn : Nat) (ok : Bool) (call : Call) : Option RedisWorld :=
  if ok then
    match world.agent.findContext conn with
    | none => none
    | some context =>
      selectDB { world with agent := { world.agent with connected := world.agent.connected + 1 } }
        context.addr.dbidx call
  else some world

/-- The server executes a command: its reply, the binding of the connection and the databases
behind it. -/
def executeOn (binding : Binding) (store : Store) (accepted : Bool) :
    RedisCommand → RedisReply × Binding × Store
  | .get key =>
    match store binding.database key with
    | none => ({ type := .nil }, binding, store)
    | some value => ({ type := .string, str := value }, binding, store)
  | .set key value =>
    ({ type := .status, str := Datacenter.ascii "OK" }, binding, store.put binding.database key (some value))
  | .del key =>
    ({ type := .integer, integer := if (store binding.database key).isSome then 1 else 0 }, binding,
      store.put binding.database key none)
  | .select dbidx =>
    if accepted then
      ({ type := .status, str := Datacenter.ascii "OK" },
        { database := dbidx, lastSelect := some (dbidx, true) }, store)
    else ({ type := .error }, { binding with lastSelect := some (dbidx, false) }, store)

/-- `__redisAsyncDisconnect`, up to the callbacks of the commands without a reply. -/
def disconnect (world : RedisWorld) (conn : Nat) : RedisWorld :=
  { world.setConnection conn { world.connections conn with link := .gone } with control := .freeing conn }

/-- `OnCommand`, which finds the callback of a reply, or of a connection that is gone. -/
def onCommand (world : RedisWorld) (conn : Nat) (sent : Sent) (reply : Option RedisReply) : RedisWorld :=
  match world.agent.callBackPool sent.cbid with
  | none => world
  | some entry =>
    let handed := world.handed ++ [{ cb := entry.cb, reply := reply.map fun reply => (sent.number, reply) }]
    match entry.cb.isSelect, reply with
    | true, some reply =>
      { world with agent := (world.agent.onSelectDB conn reply).eraseCallBack sent.cbid, handed }
    | true, none => { world with control := .crashed sent.cbid, handed }
    | false, some _ => { world with control := .replying sent.cbid none, handed }
    | false, none => { world with control := .replying sent.cbid (some conn), handed }

end RedisWorld

/-- One event at the agent or at the server. -/
def redisStep (world : RedisWorld) : RedisEvent → Option RedisWorld
  | .connect conn ok call =>
    let connection := world.connections conn
    if world.control = .idle ∧ connection.link = .connecting then
      if ok then (world.setConnection conn { connection with link := .up }).connectCallback conn ok call
      else (world.connectCallback conn ok call).map (·.disconnect conn)
    else none
  | .command cb command call => if world.control.mayCommand then world.command cb command call else none
  | .execute conn accepted =>
    let connection := world.connections conn
    match connection.link, connection.stream with
    | .up, sent :: stream =>
      let served := RedisWorld.executeOn connection.binding world.store accepted sent.command
      some { world.setConnection conn
          { connection with stream, answers := connection.answers ++ [(sent, served.1)], binding := served.2.1 } with
        store := served.2.2
        executed := world.executed ++ [(sent, served.1)] }
    | _, _ => none
  | .write database key value => some { world with store := world.store.put database key value }
  | .reply conn index =>
    let connection := world.connections conn
    match world.control, connection.answers[index]? with
    | .idle, some (sent, reply) =>
      some ((world.setConnection conn { connection with
        answers := connection.answers.eraseIdx index }).onCommand conn sent (some reply))
    | _, _ => none
  | .replied =>
    match world.control with
    | .replying cbid gone =>
      some { world with agent := world.agent.eraseCallBack cbid, control := .behind gone }
    | _ => none
  | .lose conn =>
    if world.control = .idle ∧ (world.connections conn).link = .up then some (world.disconnect conn) else none
  | .free =>
    match world.control with
    | .freeing conn =>
      match (world.connections conn).shiftCallback with
      | none => some { world with control := .idle }
      | some (sent, connection) => some ((world.setConnection conn connection).onCommand conn sent none)
    | _ => none
  | .polling chkPerTick =>
    if world.control = .idle then
      some { world with control := .checking world.agent.branch chkPerTick.toNat }
    else none
  | .check now =>
    match world.control with
    | .checking branch left =>
      match world.agent.checkRound branch left now with
      | .pass =>
        some { world with
          agent := world.agent.advance, control := .checking branch (left - 1)
          advances := world.advances + 1 }
      | .expire cb =>
        some { world with
          control := .expiring branch left, handed := world.handed ++ [{ cb, reply := none, timeout := true }] }
      | .leave => some { world with agent := world.agent.leaveCheck branch, control := .idle }
    | _ => none
  | .expired =>
    match world.control with
    | .expiring branch left =>
      some { world with
        agent := (world.agent.eraseCallBack world.agent.chkTimeOut).advance
        control := .checking branch (left - 1)
        advances := world.advances + 1 }
    | _ => none

/-- The part of the world that the callbacks depend on. -/
structure Calls where
  seq : CallBackId
  pool : CallBackId → Option RedisAgentCallBack
  chk : CallBackId
  control : Control
  handed : List Handed
  advances : Nat

/-- The part of the world that carries commands and replies. -/
structure Wires where
  issued : List Sent
  executed : List (Sent × RedisReply)
  streams : Nat → List Sent
  answers : Nat → List (Sent × RedisReply)

namespace RedisWorld

def calls (world : RedisWorld) : Calls where
  seq := world.agent.callBackSeq
  pool := world.agent.callBackPool
  chk := world.agent.chkTimeOut
  control := world.control
  handed := world.handed
  advances := world.advances

def wires (world : RedisWorld) : Wires where
  issued := world.issued
  executed := world.executed
  streams conn := (world.connections conn).stream
  answers conn := (world.connections conn).answers

end RedisWorld

def Calls.erase (calls : Calls) (cbid : CallBackId) : CallBackId → Option RedisAgentCallBack :=
  Function.update calls.pool cbid none

def Wires.issue (wires : Wires) (sent : Sent) : Wires :=
  { wires with
    issued := wires.issued ++ [sent]
    streams := Function.update wires.streams sent.conn (wires.streams sent.conn ++ [sent]) }

def Wires.execute (wires : Wires) (conn : Nat) (sent : Sent) (rest : List Sent) (reply : RedisReply) :
    Wires :=
  { wires with
    executed := wires.executed ++ [(sent, reply)]
    streams := Function.update wires.streams conn rest
    answers := Function.update wires.answers conn (wires.answers conn ++ [(sent, reply)]) }

def Wires.answer (wires : Wires) (conn index : Nat) : Wires :=
  { wires with answers := Function.update wires.answers conn ((wires.answers conn).eraseIdx index) }

def Wires.leave (wires : Wires) (conn : Nat) (stream : List Sent) (answers : List (Sent × RedisReply)) : Wires :=
  { wires with
    streams := Function.update wires.streams conn stream
    answers := Function.update wires.answers conn answers }

/-- The callback of a command that is on its way is shifted. -/
structure Wires.Takes (wires : Wires) (conn : Nat) (sent : Sent) (after : Wires) : Prop where
  issued : after.issued = wires.issued
  executed : after.executed = wires.executed
  streams (other : Nat) : (after.streams other).Sublist (wires.streams other)
  answers (other : Nat) : (after.answers other).Sublist (wires.answers other)
  pending : sent ∈ wires.streams conn ∨ ∃ reply, (sent, reply) ∈ wires.answers conn

def RedisEvent.issues : RedisEvent → Bool
  | .connect _ ok call => ok && call.taken
  | .command _ _ call => call.taken
  | _ => false

/-- The connection that comes to nothing, or is lost. -/
def RedisEvent.disconnects : RedisEvent → Option Nat
  | .connect conn false _ => some conn
  | .lose conn => some conn
  | _ => none

/-- The event brings a callback what its command has got: a reply, or none. -/
def RedisEvent.delivers : RedisEvent → Bool
  | .reply _ _ => true
  | .free => true
  | _ => false

def RedisEvent.rounds : RedisEvent → Nat
  | .polling chkPerTick => chkPerTick.toNat
  | _ => 0

theorem RedisEvent.rounds_of_issues {event : RedisEvent} (issues : event.issues) : event.rounds = 0 := by
  cases event <;> first | rfl | cases issues

theorem RedisEvent.rounds_of_delivers {event : RedisEvent} (delivers : event.delivers) : event.rounds = 0 := by
  cases event <;> first | rfl | cases delivers

theorem RedisEvent.rounds_of_disconnects {event : RedisEvent} (cause : event.disconnects = some conn) :
    event.rounds = 0 := by
  cases event <;> first | rfl | cases cause

inductive CallMoves (calls : Calls) : RedisEvent → Calls → Prop where
  | replied (control : calls.control = .replying cbid gone) :
      CallMoves calls .replied { calls with pool := calls.erase cbid, control := .behind gone }
  | disconnects (idle : calls.control = .idle) (cause : event.disconnects = some conn) :
      CallMoves calls event { calls with control := .freeing conn }
  | freed (control : calls.control = .freeing conn) : CallMoves calls .free { calls with control := .idle }
  | polls (idle : calls.control = .idle) (inFront : branch = .following → calls.chk ≤ calls.seq) :
      CallMoves calls (.polling number) { calls with control := .checking branch number.toNat }
  | passes (control : calls.control = .checking branch left) (absent : calls.pool calls.chk = none)
      (inFront : branch = .following → calls.chk ≤ calls.seq) :
      CallMoves calls (.check now)
        { calls with chk := calls.chk + 1, control := .checking branch (left - 1), advances := calls.advances + 1 }
  | expires (control : calls.control = .checking branch left) (found : calls.pool calls.chk = some entry)
      (inFront : branch = .following → calls.chk ≤ calls.seq) (old : (entry.time + 5).toNat < (now : Int)) :
      CallMoves calls (.check now)
        { calls with
          control := .expiring branch left
          handed := calls.handed ++ [{ cb := entry.cb, reply := none, timeout := true }] }
  | stays (control : calls.control = .checking branch left)
      (why : left = 0 ∨ ∃ entry, calls.pool calls.chk = some entry ∧ ¬ (entry.time + 5).toNat < (now : Int)) :
      CallMoves calls (.check now) { calls with control := .idle }
  | clamps (control : calls.control = .checking .following left) (behind : calls.seq < calls.chk) :
      CallMoves calls (.check now) { calls with chk := calls.seq, control := .idle }
  | expired (control : calls.control = .expiring branch left) :
      CallMoves calls .expired
        { calls with
          pool := calls.erase calls.chk, chk := calls.chk + 1, control := .checking branch (left - 1)
          advances := calls.advances + 1 }

inductive Moves (calls next : Calls) (wires after : Wires) : RedisEvent → Prop where
  | rests (same : next = calls) (still : after = wires) (quiet : event.rounds = 0) :
      Moves calls next wires after event
  | issues (sent : Sent) (time : BitVec 32) (issues : event.issues) (allowed : calls.control.mayCommand)
      (number : sent.number = wires.issued.length) (address : sent.cb.address = sent.number)
      (free : RedisAgent.nextSeq calls.pool (2 ^ 32) calls.seq = some sent.cbid)
      (called : next = { calls with
        seq := sent.cbid + 1
        pool := Function.update calls.pool sent.cbid (some { cb := sent.cb, time }) })
      (wired : after = wires.issue sent) : Moves calls next wires after event
  | refuses (vp : CallBackId) (free : RedisAgent.nextSeq calls.pool (2 ^ 32) calls.seq = some vp)
      (called : next = { calls with seq := vp }) (still : after = wires) (quiet : event.rounds = 0) :
      Moves calls next wires after event
  | executes (sent : Sent) (rest : List Sent) (reply : RedisReply)
      (head : wires.streams conn = sent :: rest) (same : next = calls)
      (wired : after = wires.execute conn sent rest reply) :
      Moves calls next wires after (.execute conn accepted)
  | drops (sent : Sent) (delivers : event.delivers) (takes : wires.Takes conn sent after)
      (absent : calls.pool sent.cbid = none) (same : next = calls) : Moves calls next wires after event
  | hands (sent : Sent) (reply : RedisReply) (entry : RedisAgentCallBack) (idle : calls.control = .idle)
      (takes : wires.Takes conn sent after) (found : (sent, reply) ∈ wires.answers conn)
      (present : calls.pool sent.cbid = some entry)
      (called : next = { calls with
        control := .replying sent.cbid none
        handed := calls.handed ++ [{ cb := entry.cb, reply := some (sent.number, reply) }] }) :
      Moves calls next wires after (.reply conn index)
  | selects (sent : Sent) (reply : RedisReply) (entry : RedisAgentCallBack) (idle : calls.control = .idle)
      (takes : wires.Takes conn sent after) (found : (sent, reply) ∈ wires.answers conn)
      (present : calls.pool sent.cbid = some entry)
      (called : next = { calls with
        pool := calls.erase sent.cbid
        handed := calls.handed ++ [{ cb := entry.cb, reply := some (sent.number, reply) }] }) :
      Moves calls next wires after (.reply conn index)
  | loses (sent : Sent) (entry : RedisAgentCallBack) (listener : Control)
      (control : calls.control = .freeing conn) (takes : wires.Takes conn sent after)
      (present : calls.pool sent.cbid = some entry)
      (consumes : listener = .replying sent.cbid (some conn) ∨ listener = .crashed sent.cbid)
      (called : next = { calls with
        control := listener, handed := calls.handed ++ [{ cb := entry.cb, reply := none }] }) :
      Moves calls next wires after .free
  | moves (called : CallMoves calls event next) (still : after = wires) : Moves calls next wires after event

theorem Connection.shiftCallback_spec {connection : Connection}
    (shifted : connection.shiftCallback = some (sent, next)) :
    (next.link = connection.link ∧ next.binding = connection.binding) ∧
      next.stream.Sublist connection.stream ∧ next.answers.Sublist connection.answers ∧
      (sent ∈ connection.stream ∨ ∃ reply, (sent, reply) ∈ connection.answers) := by
  unfold shiftCallback at shifted
  split at shifted
  case h_1 reply answers oldest =>
    cases shifted
    rw [oldest]
    exact ⟨⟨rfl, rfl⟩, .refl _, List.sublist_cons_self .., .inr ⟨reply, List.mem_cons_self⟩⟩
  case h_2 stream _ oldest =>
    cases shifted
    rw [oldest]
    exact ⟨⟨rfl, rfl⟩, List.sublist_cons_self .., .refl _, .inl List.mem_cons_self⟩
  case h_3 => cases shifted

theorem Wires.Takes.leave {wires : Wires} {answers : List (Sent × RedisReply)}
    (fewer : stream.Sublist (wires.streams conn)) (fewerAnswers : answers.Sublist (wires.answers conn))
    (pending : sent ∈ wires.streams conn ∨ ∃ reply, (sent, reply) ∈ wires.answers conn) :
    wires.Takes conn sent (wires.leave conn stream answers) where
  issued := rfl
  executed := rfl
  streams other := by
    by_cases same : other = conn
    · subst same
      simpa [Wires.leave] using fewer
    · simp [Wires.leave, same]
  answers other := by
    by_cases same : other = conn
    · subst same
      simpa [Wires.leave] using fewerAnswers
    · simp [Wires.leave, same]
  pending := pending

namespace RedisWorld

variable {world next : RedisWorld}

theorem wires_update (issued : List Sent) (executed : List (Sent × RedisReply))
    (connections : Nat → Connection) (conn : Nat) (connection : Connection) :
    Wires.mk issued executed (fun other => (Function.update connections conn connection other).stream)
        (fun other => (Function.update connections conn connection other).answers) =
      Wires.mk issued executed
        (Function.update (fun other => (connections other).stream) conn connection.stream)
        (Function.update (fun other => (connections other).answers) conn connection.answers) :=
  congrArg₂ (Wires.mk issued executed)
    (Function.comp_update Connection.stream connections conn connection)
    (Function.comp_update Connection.answers connections conn connection)

theorem wires_setConnection (world : RedisWorld) (conn : Nat) (connection : Connection) :
    (world.setConnection conn connection).wires = world.wires.leave conn connection.stream connection.answers :=
  wires_update ..

theorem wires_setConnection_same (world : RedisWorld) {connection : Connection}
    (stream : connection.stream = (world.connections conn).stream)
    (answers : connection.answers = (world.connections conn).answers) :
    (world.setConnection conn connection).wires = world.wires := by
  refine (wires_update _ _ _ _ _).trans ?_
  rw [stream, answers]
  exact congrArg₂ (Wires.mk world.issued world.executed) (Function.update_eq_self conn world.wires.streams)
    (Function.update_eq_self conn world.wires.answers)

theorem wires_disconnect (world : RedisWorld) (conn : Nat) : (world.disconnect conn).wires = world.wires :=
  wires_setConnection_same world rfl rfl

theorem command_cases {command : RedisCommand} {call : Call}
    (issued : world.command cb command call = some next) :
    ∃ context vp,
      world.agent.redisCtxList[call.pick % world.agent.redisCtxList.length]? = some context ∧
      RedisAgent.nextSeq world.agent.callBackPool (2 ^ 32) world.agent.callBackSeq = some vp ∧
      (¬ call.taken ∧ next = { world with agent := { world.agent with callBackSeq := vp } } ∨
        call.taken ∧ ∃ sent : Sent,
          sent = {
            number := world.issued.length
            cb := { address := world.issued.length, bytes := cb }
            conn := context.ctx
            cbid := vp
            command } ∧
          next = world.issue
            { world.agent with
              callBackSeq := vp + 1
              callBackPool := Function.update world.agent.callBackPool vp
                (some { cb := sent.cb, time := BitVec.ofInt 32 call.now }) } sent) := by
  unfold RedisWorld.command at issued
  split at issued
  · cases issued
  · rename_i context picked
    split at issued
    · cases issued
    obtain ⟨⟨answer, agent⟩, result, whole⟩ := Option.map_eq_some_iff.mp issued
    obtain ⟨vp, free, built⟩ := Option.map_eq_some_iff.mp result
    refine ⟨context, vp, picked, free, ?_⟩
    split at built
    · rename_i taken
      cases built
      exact .inr ⟨taken, _, rfl, whole.symm⟩
    · rename_i refused
      cases built
      exact .inl ⟨refused, whole.symm⟩

theorem wires_issue (world : RedisWorld) (agent : RedisAgent) (sent : Sent) :
    (world.issue agent sent).wires = world.wires.issue sent := by
  refine (wires_update _ _ _ _ _).trans ?_
  exact congrArg (Wires.mk _ _ _) (Function.update_eq_self _ world.wires.answers)

theorem command_moves {command : RedisCommand} {call : Call} {event : RedisEvent}
    (allowed : world.control.mayCommand) (issues : call.taken → event.issues) (quiet : event.rounds = 0)
    (issued : world.command cb command call = some next) :
    Moves world.calls next.calls world.wires next.wires event := by
  obtain ⟨context, vp, _, free, ⟨_, rfl⟩ | ⟨taken, sent, built, rfl⟩⟩ := command_cases issued
  · exact .refuses vp free rfl rfl quiet
  · have number : sent.number = world.issued.length := by rw [built]
    have cbid : sent.cbid = vp := by rw [built]
    refine .issues sent (BitVec.ofInt 32 call.now) (issues taken) allowed number (by rw [built])
      (cbid ▸ free) ?_ (wires_issue ..)
    rw [cbid]
    rfl

theorem connectCallback_moves (idle : world.control = .idle)
    (connected : world.connectCallback conn ok call = some next) :
    Moves world.calls next.calls world.wires next.wires (.connect conn ok call) := by
  unfold connectCallback at connected
  split at connected
  · rename_i good
    split at connected
    · cases connected
    · unfold selectDB at connected
      split at connected
      · have allowed : world.control.mayCommand := by simp [idle, Control.mayCommand]
        have issues : call.taken → (RedisEvent.connect conn ok call).issues := by simp [RedisEvent.issues, good]
        have moves := command_moves (by exact allowed) issues rfl connected
        exact moves
      · cases connected
  · cases connected
    exact .rests rfl rfl rfl

theorem onCommand_moves {sent : Sent} {reply : RedisReply} (idle : world.control = .idle)
    (found : (world.connections conn).answers[index]? = some (sent, reply)) :
    let next := (world.setConnection conn { world.connections conn with
      answers := (world.connections conn).answers.eraseIdx index }).onCommand conn sent (some reply)
    Moves world.calls next.calls world.wires next.wires (.reply conn index) := by
  have member := List.mem_of_getElem? found
  have takes : world.wires.Takes conn sent (world.setConnection conn { world.connections conn with
      answers := (world.connections conn).answers.eraseIdx index }).wires := by
    rw [wires_setConnection]
    exact .leave (.refl _) (List.eraseIdx_sublist ..) (.inr ⟨reply, member⟩)
  intro next
  unfold next onCommand
  split
  case h_1 absent => exact .drops sent rfl takes absent rfl
  case h_2 entry present =>
    cases entry.cb.isSelect with
    | true =>
      refine .selects sent reply entry idle takes member present ?_
      simp only [RedisAgent.onSelectDB]
      split <;> rfl
    | false => exact .hands sent reply entry idle takes member present rfl

theorem onCommand_moves_gone {sent : Sent} {connection : Connection} (freeing : world.control = .freeing conn)
    (shifted : (world.connections conn).shiftCallback = some (sent, connection)) :
    let next := (world.setConnection conn connection).onCommand conn sent none
    Moves world.calls next.calls world.wires next.wires .free := by
  obtain ⟨_, stream, answers, pending⟩ := Connection.shiftCallback_spec shifted
  have takes : world.wires.Takes conn sent (world.setConnection conn connection).wires := by
    rw [wires_setConnection]
    exact .leave stream answers pending
  intro next
  unfold next onCommand
  split
  case h_1 absent => exact .drops sent rfl takes absent rfl
  case h_2 entry present =>
    cases entry.cb.isSelect with
    | true => exact .loses sent entry _ freeing takes present (.inr rfl) rfl
    | false => exact .loses sent entry _ freeing takes present (.inl rfl) rfl

end RedisWorld

namespace RedisAgent

variable {agent : RedisAgent} {branch : Branch} {left : Nat} {now : Int}

theorem branch_inFront (following : agent.branch = .following) : agent.chkTimeOut ≤ agent.callBackSeq := by
  unfold RedisAgent.branch at following
  split at following
  · cases following
  · rename_i ahead
    exact BitVec.not_lt.mp ahead

theorem checkRound_inFront (stays : agent.checkRound branch left now ≠ .leave) :
    branch = .following → agent.chkTimeOut ≤ agent.callBackSeq := by
  intro following
  unfold checkRound at stays
  split at stays
  · contradiction
  · rename_i room
    exact BitVec.not_lt.mp fun behind => room (.inr ⟨following, behind⟩)

theorem checkRound_pass (passed : agent.checkRound branch left now = .pass) :
    agent.callBackPool agent.chkTimeOut = none := by
  unfold checkRound at passed
  split at passed
  · cases passed
  · split at passed
    · assumption
    · split at passed <;> cases passed

private theorem checkRound_expire (found : agent.checkRound branch left now = .expire cb) :
    ∃ entry, agent.callBackPool agent.chkTimeOut = some entry ∧ entry.cb = cb ∧ (entry.time + 5).toNat < now := by
  unfold checkRound at found
  split at found
  · cases found
  · split at found
    · cases found
    · rename_i entry present
      split at found
      · rename_i old
        exact ⟨entry, present, Round.expire.inj found, old⟩
      · cases found

private theorem checkRound_leave (left_loop : agent.checkRound branch left now = .leave) :
    (branch = .following ∧ agent.callBackSeq < agent.chkTimeOut) ∨ left = 0 ∨
      ∃ entry, agent.callBackPool agent.chkTimeOut = some entry ∧ ¬ (entry.time + 5).toNat < now := by
  unfold checkRound at left_loop
  split at left_loop
  · rename_i done
    rcases done with none | behind
    · exact .inr (.inl none)
    · exact .inl behind
  · split at left_loop
    · cases left_loop
    · rename_i entry present
      split at left_loop
      · cases left_loop
      · rename_i young
        exact .inr (.inr ⟨entry, present, young⟩)

end RedisAgent

private theorem check_moves {world next : RedisWorld}
    (control : world.control = .checking branch left) (stepped : redisStep world (.check now) = some next) :
    CallMoves world.calls (.check now) next.calls ∧ next.wires = world.wires := by
  simp only [redisStep, control] at stepped
  split at stepped
  case h_1 passed =>
    cases stepped
    have inFront := RedisAgent.checkRound_inFront (by rw [passed]; exact Round.noConfusion)
    exact ⟨.passes control (RedisAgent.checkRound_pass passed) inFront, rfl⟩
  case h_2 found =>
    cases stepped
    have inFront := RedisAgent.checkRound_inFront (by rw [found]; exact Round.noConfusion)
    obtain ⟨entry, present, rfl, old⟩ := RedisAgent.checkRound_expire found
    exact ⟨.expires control present inFront old, rfl⟩
  case h_3 leaves =>
    cases stepped
    refine ⟨?_, rfl⟩
    by_cases clamp : branch = .following ∧ world.agent.callBackSeq < world.agent.chkTimeOut
    · obtain ⟨rfl, behind⟩ := clamp
      rw [RedisAgent.leaveCheck, if_pos behind]
      exact .clamps control behind
    · have same : world.agent.leaveCheck branch = world.agent := by
        cases branch with
        | wrapping => rfl
        | following => exact if_neg fun behind => clamp ⟨rfl, behind⟩
      rw [same]
      exact .stays control ((RedisAgent.checkRound_leave leaves).resolve_left clamp)

/-- What a step does to the calls and the wires. -/
theorem redisStep_moves {world next : RedisWorld} {event : RedisEvent}
    (stepped : redisStep world event = some next) :
    Moves world.calls next.calls world.wires next.wires event := by
  cases event with
  | connect conn ok call =>
    simp only [redisStep] at stepped
    split at stepped
    · rename_i waiting
      cases ok with
      | true =>
        rw [if_pos rfl] at stepped
        have moves := RedisWorld.connectCallback_moves (by exact waiting.1) stepped
        rwa [RedisWorld.wires_setConnection_same world (by rfl) (by rfl)] at moves
      | false =>
        cases stepped
        exact .moves (.disconnects waiting.1 rfl) (world.wires_disconnect conn)
    · cases stepped
  | command cb command call =>
    simp only [redisStep] at stepped
    split at stepped
    · rename_i allowed
      exact RedisWorld.command_moves allowed (by simp [RedisEvent.issues]) rfl stepped
    · cases stepped
  | execute conn accepted =>
    simp only [redisStep] at stepped
    split at stepped
    · rename_i head
      cases stepped
      exact .executes _ _ _ head rfl (RedisWorld.wires_update _ _ _ _ _)
    · cases stepped
  | write database key value =>
    cases stepped
    exact .rests rfl rfl rfl
  | reply conn index =>
    simp only [redisStep] at stepped
    split at stepped
    · rename_i idle found
      cases stepped
      exact RedisWorld.onCommand_moves idle found
    · cases stepped
  | replied =>
    simp only [redisStep] at stepped
    split at stepped
    · rename_i control
      cases stepped
      exact .moves (.replied control) rfl
    · cases stepped
  | lose conn =>
    simp only [redisStep] at stepped
    split at stepped
    · rename_i up
      cases stepped
      exact .moves (.disconnects up.1 rfl) (world.wires_disconnect conn)
    · cases stepped
  | free =>
    simp only [redisStep] at stepped
    split at stepped
    · rename_i freeing
      split at stepped
      · cases stepped
        exact .moves (.freed freeing) rfl
      · rename_i shifted
        cases stepped
        exact RedisWorld.onCommand_moves_gone freeing shifted
    · cases stepped
  | polling chkPerTick =>
    simp only [redisStep] at stepped
    split at stepped
    · rename_i idle
      cases stepped
      exact .moves (.polls idle RedisAgent.branch_inFront) rfl
    · cases stepped
  | check now =>
    cases control : world.control with
    | checking branch left =>
      obtain ⟨called, still⟩ := check_moves control stepped
      exact .moves called still
    | _ => simp [redisStep, control] at stepped
  | expired =>
    simp only [redisStep] at stepped
    split at stepped
    · rename_i control
      cases stepped
      exact .moves (.expired control) rfl
    · cases stepped

end Playground.Redis
