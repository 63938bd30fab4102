import Playground.Redis.World

/-! What an event can do between the contexts of the agent and the server behind them. -/

namespace Playground.Redis

open Framing

/-- The contexts, their links, the commands on their way, and the server. -/
@[ext] structure Network where
  contexts : List RedisClientContext
  links : Nat → Link
  wires : Wires
  bindings : Nat → Binding
  store : Store

def RedisWorld.network (world : RedisWorld) : Network where
  contexts := world.agent.redisCtxList
  links conn := (world.connections conn).link
  wires := world.wires
  bindings conn := (world.connections conn).binding
  store := world.store

namespace Network

def link (network : Network) (conn : Nat) (link : Link) : Network :=
  { network with links := Function.update network.links conn link }

def issue (network : Network) (sent : Sent) : Network :=
  { network with wires := network.wires.issue sent }

def execute (network : Network) (conn : Nat) (sent : Sent) (rest : List Sent) (accepted : Bool) : Network :=
  let served := RedisWorld.executeOn (network.bindings conn) network.store accepted sent.command
  { network with
    wires := network.wires.execute conn sent rest served.1
    bindings := Function.update network.bindings conn served.2.1
    store := served.2.2 }

def answer (network : Network) (conn index : Nat) : Network :=
  { network with wires := network.wires.answer conn index }

def leave (network : Network) (conn : Nat) (stream : List Sent) (answers : List (Sent × RedisReply)) :
    Network :=
  { network with wires := network.wires.leave conn stream answers }

def mark (network : Network) (conn : Nat) : Network :=
  { network with contexts := markSelected conn network.contexts }

end Network

inductive Effect (before after : Network) : RedisEvent → Prop where
  | rests (same : after = before) : Effect before after event
  | issues (picked : RedisClientContext) (sent : Sent)
      (picks : before.contexts[call.pick % before.contexts.length]? = some picked)
      (number : sent.number = before.wires.issued.length) (lane : sent.conn = picked.ctx)
      (is : sent.command = command) (taken : call.taken)
      (issued : after = before.issue sent) : Effect before after (.command cb command call)
  | connects (link : Link) (settled : link ≠ .connecting) (linked : after = before.link conn link) :
      Effect before after (.connect conn ok call)
  | selects (own picked : RedisClientContext) (sent : Sent) (waiting : before.links conn = .connecting)
      (found : before.contexts.find? (·.ctx = conn) = some own)
      (picks : before.contexts[call.pick % before.contexts.length]? = some picked)
      (number : sent.number = before.wires.issued.length) (lane : sent.conn = picked.ctx)
      (is : sent.command = .select own.addr.dbidx.toNat) (taken : call.taken)
      (selected : after = (before.link conn .up).issue sent) : Effect before after (.connect conn true call)
  | executes (sent : Sent) (rest : List Sent) (head : before.wires.streams conn = sent :: rest)
      (executed : after = before.execute conn sent rest accepted) :
      Effect before after (.execute conn accepted)
  | writes (written : after = { before with store := before.store.put database key value }) :
      Effect before after (.write database key value)
  | answers (sent : Sent) (reply : RedisReply) (found : (before.wires.answers conn)[index]? = some (sent, reply))
      (answered : after = before.answer conn index ∨
        reply.type = .status ∧ after = (before.answer conn index).mark conn) :
      Effect before after (.reply conn index)
  | loses (linked : after = before.link conn .gone) : Effect before after (.lose conn)
  | frees (conn : Nat) (stream : List Sent) (answers : List (Sent × RedisReply))
      (fewer : stream.Sublist (before.wires.streams conn))
      (fewerAnswers : answers.Sublist (before.wires.answers conn)) (left : after = before.leave conn stream answers) :
      Effect before after .free

namespace RedisWorld

variable {world next : RedisWorld}

theorem field_update_same {Field : Type} (field : Connection → Field) (connections : Nat → Connection)
    (same : field connection = field (connections conn)) :
    (fun other => field (Function.update connections conn connection other)) =
      fun other => field (connections other) := by
  funext other
  by_cases here : other = conn
  · subst here
    simpa using same
  · simp [here]

theorem network_link (world : RedisWorld) (conn : Nat) (link : Link) :
    (world.setConnection conn { world.connections conn with link }).network = world.network.link conn link := by
  ext1
  · rfl
  · exact Function.comp_update Connection.link world.connections conn _
  · exact wires_setConnection_same world rfl rfl
  · exact field_update_same Connection.binding world.connections rfl
  · rfl

private theorem network_issue (world : RedisWorld) {agent : RedisAgent} (sent : Sent)
    (contexts : agent.redisCtxList = world.agent.redisCtxList) :
    (world.issue agent sent).network = world.network.issue sent := by
  ext1
  · exact contexts
  · exact field_update_same Connection.link world.connections rfl
  · exact wires_issue world agent sent
  · exact field_update_same Connection.binding world.connections rfl
  · rfl

theorem network_leave (world : RedisWorld) {connection : Connection}
    (link : connection.link = (world.connections conn).link)
    (binding : connection.binding = (world.connections conn).binding) :
    (world.setConnection conn connection).network =
      world.network.leave conn connection.stream connection.answers := by
  ext1
  · rfl
  · exact field_update_same Connection.link world.connections link
  · exact wires_setConnection world conn connection
  · exact field_update_same Connection.binding world.connections binding
  · rfl

theorem network_answer (world : RedisWorld) (conn index : Nat) :
    (world.setConnection conn { world.connections conn with
      answers := (world.connections conn).answers.eraseIdx index }).network =
      world.network.answer conn index := by
  ext1
  · rfl
  · exact field_update_same Connection.link world.connections rfl
  · refine (wires_update _ _ _ _ _).trans ?_
    exact congrArg (Wires.mk _ _ · _) (Function.update_eq_self _ world.wires.streams)
  · exact field_update_same Connection.binding world.connections rfl
  · rfl

theorem command_network {command : RedisCommand} {call : Call}
    (issued : world.command cb command call = some next) :
    next.network = world.network ∨
      ∃ picked sent, world.network.contexts[call.pick % world.network.contexts.length]? = some picked ∧
        sent.number = world.network.wires.issued.length ∧ sent.conn = picked.ctx ∧ sent.command = command ∧
        call.taken ∧
        next.network = world.network.issue sent := by
  obtain ⟨picked, _, picks, _, ⟨_, rfl⟩ | ⟨taken, sent, built, rfl⟩⟩ := command_cases issued
  · exact .inl rfl
  · have number : sent.number = world.issued.length := by rw [built]
    have lane : sent.conn = picked.ctx := by rw [built]
    have is : sent.command = command := by rw [built]
    exact .inr ⟨picked, sent, picks, number, lane, is, taken, network_issue world sent rfl⟩

theorem connectCallback_cases (connected : world.connectCallback conn ok call = some next) :
    ¬ ok ∧ next = world ∨
      ok ∧ ∃ own, world.agent.findContext conn = some own ∧
        RedisWorld.command { world with agent := { world.agent with connected := world.agent.connected + 1 } }
          (selectdbCb ++ [0]) (.select own.addr.dbidx.toNat) call = some next := by
  unfold connectCallback at connected
  split at connected
  · rename_i good
    split at connected
    · cases connected
    · rename_i own found
      unfold selectDB at connected
      split at connected
      · exact .inr ⟨good, own, found, connected⟩
      · cases connected
  · rename_i bad
    exact .inl ⟨bad, (Option.some.inj connected).symm⟩

private theorem onCommand_network (world : RedisWorld) (conn : Nat) (sent : Sent) (reply : RedisReply) :
    (world.onCommand conn sent (some reply)).network = world.network ∨
      reply.type = .status ∧ (world.onCommand conn sent (some reply)).network = world.network.mark conn := by
  unfold onCommand
  split
  · exact .inl rfl
  · rename_i entry _
    cases entry.cb.isSelect with
    | true =>
      simp only [RedisAgent.onSelectDB]
      split
      · rename_i good
        exact .inr ⟨good.2, rfl⟩
      · exact .inl rfl
    | false => exact .inl rfl

private theorem onCommand_network_gone (world : RedisWorld) (conn : Nat) (sent : Sent) :
    (world.onCommand conn sent none).network = world.network := by
  unfold onCommand
  split
  · rfl
  · rename_i entry _
    cases entry.cb.isSelect <;> rfl

end RedisWorld

theorem RedisAgent.leaveCheck_contexts (agent : RedisAgent) (branch : Branch) :
    (agent.leaveCheck branch).redisCtxList = agent.redisCtxList := by
  cases branch with
  | wrapping => rfl
  | following =>
    simp only [RedisAgent.leaveCheck]
    split <;> rfl

/-- What a step does to the network. -/
theorem redisStep_effect {world next : RedisWorld} {event : RedisEvent}
    (stepped : redisStep world event = some next) :
    Effect world.network next.network event := by
  cases event with
  | connect conn ok call =>
    simp only [redisStep] at stepped
    split at stepped
    · rename_i waiting
      cases ok with
      | false =>
        cases stepped
        exact .connects .gone (by decide) (RedisWorld.network_link world conn .gone)
      | true =>
        have linked := RedisWorld.network_link world conn .up
        rw [if_pos rfl] at stepped
        rcases RedisWorld.connectCallback_cases stepped with ⟨bad, _⟩ | ⟨_, own, found, issued⟩
        · exact absurd rfl bad
        · rcases RedisWorld.command_network issued with
            same | ⟨picked, sent, picks, number, lane, is, taken, selected⟩
          · exact .connects .up (by decide) (same.trans linked)
          · exact .selects own picked sent waiting.2 found picks number lane is taken
              (selected.trans (congrArg (Network.issue · sent) linked))
    · cases stepped
  | command cb command call =>
    simp only [redisStep] at stepped
    split at stepped
    · rcases RedisWorld.command_network stepped with
        same | ⟨picked, sent, picks, number, lane, is, taken, issued⟩
      · exact .rests same
      · exact .issues picked sent picks number lane is taken issued
    · cases stepped
  | execute conn accepted =>
    simp only [redisStep] at stepped
    split at stepped
    · rename_i head
      cases stepped
      refine .executes _ _ head ?_
      ext1
      · rfl
      · exact RedisWorld.field_update_same Connection.link world.connections rfl
      · exact RedisWorld.wires_update _ _ _ _ _
      · exact Function.comp_update Connection.binding world.connections conn _
      · rfl
    · cases stepped
  | write database key value =>
    cases stepped
    exact .writes rfl
  | reply conn index =>
    simp only [redisStep] at stepped
    split at stepped
    · rename_i sent reply _ found
      cases stepped
      refine .answers sent reply found ?_
      rw [← RedisWorld.network_answer world conn index]
      exact RedisWorld.onCommand_network _ conn sent reply
    · cases stepped
  | replied =>
    simp only [redisStep] at stepped
    split at stepped
    · cases stepped
      exact .rests rfl
    · cases stepped
  | lose conn =>
    simp only [redisStep] at stepped
    split at stepped
    · cases stepped
      exact .loses (RedisWorld.network_link world conn .gone)
    · cases stepped
  | free =>
    simp only [redisStep] at stepped
    split at stepped
    · split at stepped
      · cases stepped
        exact .rests rfl
      · rename_i conn _ _ sent connection shifted
        cases stepped
        obtain ⟨⟨link, binding⟩, fewer, fewerAnswers, _⟩ := Connection.shiftCallback_spec shifted
        refine .frees conn connection.stream connection.answers fewer fewerAnswers ?_
        exact (RedisWorld.onCommand_network_gone ..).trans (world.network_leave link binding)
    · cases stepped
  | polling chkPerTick =>
    simp only [redisStep] at stepped
    split at stepped
    · cases stepped
      exact .rests rfl
    · cases stepped
  | check now =>
    simp only [redisStep] at stepped
    split at stepped
    · split at stepped
      · cases stepped
        exact .rests rfl
      · cases stepped
        exact .rests rfl
      · cases stepped
        refine .rests ?_
        ext1
        · exact world.agent.leaveCheck_contexts _
        all_goals rfl
    · cases stepped
  | expired =>
    simp only [redisStep] at stepped
    split at stepped
    · cases stepped
      exact .rests rfl
    · cases stepped

end Playground.Redis
