import Playground.Queue.Lanes
import Playground.Redis.CacheAgent
import Playground.Redis.Selection

/-! The commands on one key. -/

namespace Playground.Redis

open Framing Transition Queue

variable {sent : Sent} {world : RedisWorld}

def Sent.onKey (key : Bytes) (sent : Sent) : Bool := sent.command.key = some key

def RedisCommand.apply (key : Bytes) (value : Option Bytes) : RedisCommand → Option Bytes
  | .set other new => if other = key then some new else value
  | .del other => if other = key then none else value
  | _ => value

/-- The value of a key after commands in this order. -/
def replay (key : Bytes) (value : Option Bytes) (sents : List Sent) : Option Bytes :=
  sents.foldl (fun value sent => sent.command.apply key value) value

def getReply : Option Bytes → RedisReply
  | none => { type := .nil }
  | some value => { type := .string, str := value }

section Replay

variable {key : Bytes} {value : Option Bytes}

theorem RedisCommand.apply_other {command : RedisCommand} (other : command.key ≠ some key) :
    command.apply key value = value := by
  cases command with
  | get at_key => rfl
  | select dbidx => rfl
  | set at_key new => exact if_neg fun same => other (congrArg some same)
  | del at_key => exact if_neg fun same => other (congrArg some same)

theorem replay_append (first second : List Sent) :
    replay key value (first ++ second) = replay key (replay key value first) second :=
  List.foldl_append ..

theorem replay_filter (sents : List Sent) :
    replay key value (sents.filter (Sent.onKey key)) = replay key value sents := by
  induction sents generalizing value with
  | nil => rfl
  | cons sent rest ih =>
    by_cases same : sent.onKey key
    · rw [List.filter_cons_of_pos same]
      exact ih
    · have other : sent.command.key ≠ some key := by simpa [Sent.onKey] using same
      rw [List.filter_cons_of_neg same, ih]
      simp [replay, RedisCommand.apply_other other]

theorem replay_set {sents : List Sent} {last : Sent}
    (isLast : (sents.filter (Sent.onKey key)).getLast? = some last) (set : last.command = .set key new) :
    replay key value sents = some new := by
  obtain ⟨before, split⟩ := List.getLast?_eq_some_iff.mp isLast
  rw [← replay_filter, split, replay_append]
  simp [replay, set, RedisCommand.apply]

end Replay

def Network.lanes (network : Network) : Lanes Nat Sent where
  pending := network.wires.streams
  sent := network.wires.issued
  done := network.wires.executed.map (·.1)

/-- The events once the agent is ready: commands are on keys, nobody else writes the key, and no
connection goes. -/
def RedisEvent.isService (key : Bytes) (database : Nat) : RedisEvent → Bool
  | .connect _ _ _ => false
  | .lose _ => false
  | .free => false
  | .command _ issued _ => issued.key.isSome
  | .write other at_key _ => other ≠ database ∨ at_key ≠ key
  | _ => true

/-- A command on the key goes out only while no other connection has one under way. -/
def Network.Joins (network : Network) (key : Bytes) : RedisEvent → Prop
  | .command _ command call => call.taken → command.key = some key →
      ∀ picked ∈ network.contexts[call.pick % network.contexts.length]?, ∀ context ∈ network.contexts,
        context.ctx ≠ picked.ctx → (network.wires.streams context.ctx).filter (Sent.onKey key) = []
  | _ => True

instance (network : Network) (key : Bytes) (event : RedisEvent) : Decidable (network.Joins key event) := by
  unfold Network.Joins
  split <;> infer_instance

def KeyStep (key : Bytes) (database : Nat) (world : RedisWorld) (event : RedisEvent)
    (next : RedisWorld) : Prop :=
  redisStep world event = some next ∧ event.isService key database ∧ world.network.Joins key event

/-- What holds while commands are served. -/
structure Network.Serving (network : Network) (key : Bytes) (database : Nat) (initial : Option Bytes) : Prop where
  numbers : network.wires.issued.map (·.number) = List.range network.wires.issued.length
  ordered : network.lanes.Ordered (Sent.onKey key)
  stray {conn : Nat} : conn ∉ network.contexts.map (·.ctx) → network.wires.streams conn = []
  plain {conn : Nat} {sent : Sent} : sent ∈ network.wires.streams conn → sent.command.key.isSome
  bound {conn : Nat} : conn ∈ network.contexts.map (·.ctx) → (network.bindings conn).database = database
  value : network.store database key = replay key initial (network.wires.executed.map (·.1))
  replies {sent : Sent} {reply : RedisReply} : (sent, reply) ∈ network.wires.executed →
    sent.command = .get key →
    reply = getReply (replay key initial (network.wires.issued.filter (·.number < sent.number)))

section Order

variable {sents before rest : List Sent} {sent : Sent}

theorem filter_number_lt (sorted : sents.Pairwise (·.number < ·.number))
    (split : sents = before ++ sent :: rest) :
    sents.filter (·.number < sent.number) = before := by
  subst split
  obtain ⟨_, tail, cross⟩ := List.pairwise_append.mp sorted
  have smaller : before.filter (·.number < sent.number) = before := by
    refine List.filter_eq_self.mpr fun one member => ?_
    simpa using cross one member sent List.mem_cons_self
  have larger : rest.filter (·.number < sent.number) = [] := by
    refine List.filter_eq_nil_iff.mpr fun one member => ?_
    have after := (List.pairwise_cons.mp tail).1 one member
    simpa using Nat.le_of_lt after
  rw [List.filter_append, List.filter_cons_of_neg (by simp), smaller, larger, List.append_nil]

theorem pairwise_of_numbers (numbers : sents.map (·.number) = List.range sents.length) :
    sents.Pairwise (·.number < ·.number) := by
  have sorted : (sents.map (·.number)).Pairwise (· < ·) := numbers ▸ List.pairwise_lt_range
  exact List.pairwise_map.mp sorted

theorem filter_number_take (numbers : sents.map (·.number) = List.range sents.length) (count : Nat) :
    sents.filter (·.number < count) = sents.take count := by
  have number {place : Nat} (inside : place < sents.length) : sents[place].number = place := by
    have same := List.getElem_of_eq numbers (i := place) (by simpa using inside)
    simpa using same
  have smaller : (sents.take count).filter (·.number < count) = sents.take count := by
    refine List.filter_eq_self.mpr fun one member => ?_
    obtain ⟨place, inside, rfl⟩ := List.mem_take_iff_getElem.mp member
    rw [number (by omega)]
    simpa using Nat.lt_of_lt_of_le inside (Nat.min_le_left _ _)
  have larger : (sents.drop count).filter (·.number < count) = [] := by
    refine List.filter_eq_nil_iff.mpr fun one member => ?_
    obtain ⟨place, inside, rfl⟩ := List.mem_drop_iff_getElem.mp member
    rw [number (by omega)]
    simp
  calc sents.filter (·.number < count)
      = (sents.take count ++ sents.drop count).filter (·.number < count) := by rw [List.take_append_drop]
    _ = sents.take count := by rw [List.filter_append, smaller, larger, List.append_nil]

end Order

namespace Network.Serving

variable {network : Network} {key : Bytes} {database : Nat} {initial : Option Bytes}

variable (serving : network.Serving key database initial)

include serving

private theorem number_lt
    (issued : sent ∈ network.wires.issued) : sent.number < network.wires.issued.length := by
  have member := List.mem_map_of_mem (f := (·.number)) issued
  rw [serving.numbers] at member
  exact List.mem_range.mp member

private theorem issued_of_executed
    (executed : (sent, reply) ∈ network.wires.executed) (same : sent.onKey key) :
    sent ∈ network.wires.issued := by
  have member : sent ∈ network.lanes.done.filter (Sent.onKey key) :=
    List.mem_filter.mpr ⟨List.mem_map_of_mem executed, same⟩
  exact (List.mem_filter.mp (serving.ordered.done_isPrefix.subset member)).1

theorem issue
    (number : sent.number = network.wires.issued.length) (configured : sent.conn ∈ network.contexts.map (·.ctx))
    (plain : sent.command.key.isSome) (joins : network.lanes.Joins (Sent.onKey key) sent.conn sent) :
    (network.issue sent).Serving key database initial where
  numbers := by
    simp [Network.issue, Wires.issue, serving.numbers, number, List.range_succ]
  ordered := serving.ordered.send joins
  stray {conn} outside := by
    have different : conn ≠ sent.conn := fun same => outside (same ▸ configured)
    simpa [Network.issue, Wires.issue, different] using serving.stray outside
  plain {conn one} member := by
    by_cases same : conn = sent.conn
    · subst same
      have either : one ∈ network.wires.streams sent.conn ∨ one = sent := by
        simpa [Network.issue, Wires.issue] using member
      rcases either with before | rfl
      · exact serving.plain before
      · exact plain
    · exact serving.plain (by simpa [Network.issue, Wires.issue, same] using member)
  bound := serving.bound
  value := serving.value
  replies {one reply} executed get := by
    have issued := serving.issued_of_executed executed (by simp [Sent.onKey, get, RedisCommand.key])
    have earlier := serving.number_lt issued
    have unchanged : (network.issue sent).wires.issued.filter (·.number < one.number) =
        network.wires.issued.filter (·.number < one.number) := by
      simp [Network.issue, Wires.issue, number, Nat.le_of_lt earlier]
    rw [unchanged]
    exact serving.replies executed get

theorem executed_filter
    (head : network.wires.streams conn = sent :: rest) (same : sent.onKey key) :
    (network.wires.executed.map (·.1)).filter (Sent.onKey key) =
      (network.wires.issued.filter (·.number < sent.number)).filter (Sent.onKey key) := by
  have sorted := (pairwise_of_numbers serving.numbers).filter (Sent.onKey key)
  obtain ⟨lane, others, along⟩ := serving.ordered
  have onLane : conn = lane := by
    by_contra different
    have none := others conn different
    simp [Network.lanes, head, same] at none
  subst onLane
  have split : network.wires.issued.filter (Sent.onKey key) =
      (network.wires.executed.map (·.1)).filter (Sent.onKey key) ++ sent :: rest.filter (Sent.onKey key) := by
    simpa [Network.lanes, head, same] using along
  rw [List.filter_comm, filter_number_lt sorted split]

end Network.Serving

theorem RedisWorld.executeOn_key (binding : Binding) (store : Store) (accepted : Bool)
    {command : RedisCommand}
    (plain : command.key.isSome) (key : Bytes) :
    ∃ reply after, RedisWorld.executeOn binding store accepted command = (reply, binding, after) ∧
      after binding.database key = command.apply key (store binding.database key) ∧
      (command = .get key → reply = getReply (store binding.database key)) := by
  cases command with
  | get at_key =>
    cases held : store binding.database at_key with
    | none =>
      refine ⟨{ type := .nil }, store, by simp [RedisWorld.executeOn, held], rfl, ?_⟩
      rintro ⟨⟩
      rw [held]
      rfl
    | some found =>
      refine ⟨{ type := .string, str := found }, store, by simp [RedisWorld.executeOn, held], rfl, ?_⟩
      rintro ⟨⟩
      rw [held]
      rfl
  | set at_key new =>
    refine ⟨_, _, rfl, ?_, nofun⟩
    by_cases same : at_key = key
    · subst same
      simp [Store.put, RedisCommand.apply]
    · simp [Store.put, RedisCommand.apply, same, Ne.symm same]
  | del at_key =>
    refine ⟨_, _, rfl, ?_, nofun⟩
    by_cases same : at_key = key
    · subst same
      simp [Store.put, RedisCommand.apply]
    · simp [Store.put, RedisCommand.apply, same, Ne.symm same]
  | select dbidx => cases plain

namespace Network.Serving

variable {network : Network} {key : Bytes} {database : Nat} {initial : Option Bytes}

variable (serving : network.Serving key database initial)

include serving

theorem execute (accepted : Bool) (head : network.wires.streams conn = sent :: rest) :
    (network.execute conn sent rest accepted).Serving key database initial := by
  have configured : conn ∈ network.contexts.map (·.ctx) := by
    by_contra outside
    have none := serving.stray outside
    rw [head] at none
    cases none
  have plain : sent.command.key.isSome := serving.plain (by rw [head]; exact List.mem_cons_self)
  have inDatabase := serving.bound configured
  obtain ⟨reply, after, result, applied, answered⟩ :=
    RedisWorld.executeOn_key (network.bindings conn) network.store accepted plain key
  rw [inDatabase] at applied answered
  have executed : network.execute conn sent rest accepted = { network with
      wires := network.wires.execute conn sent rest reply
      store := after } := by
    simp [Network.execute, result]
  rw [executed]
  refine ⟨serving.numbers, ?_, fun {at_conn} outside => ?_, fun {at_conn one} member => ?_, serving.bound, ?_,
    fun {one answer} done get => ?_⟩
  · have finished := serving.ordered.finish head
    have same :
        ({ network with wires := network.wires.execute conn sent rest reply, store := after } : Network).lanes =
        network.lanes.finish conn sent rest := by
      simp [Network.lanes, Wires.execute, Lanes.finish]
    rwa [same]
  · have different : at_conn ≠ conn := fun same => outside (same ▸ configured)
    simpa [Wires.execute, different] using serving.stray outside
  · by_cases same : at_conn = conn
    · subst same
      have behind : one ∈ rest := by simpa [Wires.execute] using member
      exact serving.plain (head ▸ List.mem_cons_of_mem _ behind)
    · exact serving.plain (by simpa [Wires.execute, same] using member)
  · simp only [Wires.execute, List.map_append, List.map_singleton]
    rw [applied, serving.value, replay_append]
    rfl
  · have either : (one, answer) ∈ network.wires.executed ∨ one = sent ∧ answer = reply := by
      simpa [Wires.execute] using done
    rcases either with before | ⟨rfl, rfl⟩
    · exact serving.replies before get
    · have same : one.onKey key := by simp [Sent.onKey, get, RedisCommand.key]
      rw [answered get, serving.value, ← replay_filter, serving.executed_filter head same, replay_filter]
      rfl

private theorem answer (conn index : Nat) : (network.answer conn index).Serving key database initial :=
  ⟨serving.numbers, serving.ordered, serving.stray, serving.plain, serving.bound, serving.value, serving.replies⟩

private theorem mark (conn : Nat) : (network.mark conn).Serving key database initial := by
  have same : (network.mark conn).contexts.map (·.ctx) = network.contexts.map (·.ctx) := by
    have both := congrArg (List.map Prod.snd) (markSelected_contexts conn network.contexts)
    simpa [Network.mark, List.map_map, Function.comp_def] using both
  exact ⟨serving.numbers, serving.ordered, fun outside => serving.stray (same ▸ outside), serving.plain,
    fun inside => serving.bound (same ▸ inside), serving.value, serving.replies⟩

end Network.Serving

theorem Effect.serving {network after : Network} {event : RedisEvent}
    (effect : Effect network after event) (service : event.isService key database)
    (joins : network.Joins key event) (serving : network.Serving key database initial) :
    after.Serving key database initial := by
  cases effect with
  | rests same => exact same ▸ serving
  | issues picked sent picks number lane is taken issued =>
    have configured : sent.conn ∈ network.contexts.map (·.ctx) := by
      rw [lane]
      exact List.mem_map_of_mem (List.mem_of_getElem? picks)
    rw [issued]
    refine serving.issue number configured (by rw [is]; exact service) fun same other different => ?_
    by_cases known : other ∈ network.contexts.map (·.ctx)
    · obtain ⟨context, member, rfl⟩ := List.mem_map.mp known
      have onKey : sent.command.key = some key := by simpa [Sent.onKey] using same
      exact joins taken (is ▸ onKey) picked picks context member (lane ▸ different)
    · simp [Network.lanes, serving.stray known]
  | connects => cases service
  | selects => cases service
  | loses => cases service
  | frees => cases service
  | executes sent rest head executed => exact executed ▸ serving.execute _ head
  | writes written =>
    rename_i other at_key new
    have elsewhere : network.store.put other at_key new database key = network.store database key := by
      have apart : other ≠ database ∨ at_key ≠ key := of_decide_eq_true service
      by_cases same : database = other
      · subst same
        have different : key ≠ at_key := fun equal => (apart.resolve_left (by simp)) equal.symm
        simp [Store.put, different]
      · simp [Store.put, same]
    rw [written]
    exact ⟨serving.numbers, serving.ordered, serving.stray, serving.plain, serving.bound,
      elsewhere.trans serving.value, serving.replies⟩
  | answers sent reply found answered =>
    rcases answered with dropped | ⟨_, marked⟩
    · exact dropped ▸ serving.answer _ _
    · exact marked ▸ (serving.answer _ _).mark _

theorem KeyStep.serving {next : RedisWorld} (step : KeyStep key database world event next)
    (serving : world.network.Serving key database initial) : next.network.Serving key database initial :=
  (redisStep_effect step.1).serving step.2.1 step.2.2 serving

def SetupStep (world : RedisWorld) (event : RedisEvent) (next : RedisWorld) : Prop :=
  redisStep world event = some next ∧ event.isSetup

private theorem connect_contexts {call : Call}
    (stepped : redisStep world (.connect conn true call) = some next) :
    ∃ own picked, world.network.contexts.find? (·.ctx = conn) = some own ∧
      world.network.contexts[call.pick % world.network.contexts.length]? = some picked := by
  simp only [redisStep, ↓reduceIte] at stepped
  split at stepped
  · rcases RedisWorld.connectCallback_cases stepped with ⟨bad, _⟩ | ⟨_, own, found, issued⟩
    · exact absurd rfl bad
    · obtain ⟨picked, _, picks, _⟩ := RedisWorld.command_cases issued
      exact ⟨own, picked, found, picks⟩
  · cases stepped

theorem SetupStep.select
    (uniform : ∀ addr ∈ addrList, addr.dbidx = dbidx) (setup : world.network.Setup addrList)
    (step : SetupStep world event next) : SelectStep world event next := by
  refine ⟨step.1, step.2, ?_⟩
  have same {context : RedisClientContext} (member : context ∈ world.network.contexts) :
      context.addr.dbidx = dbidx :=
    uniform _ (List.mem_of_getElem? (setup.addr_of_mem member))
  unfold Network.PicksAlike
  split
  · intro _
    obtain ⟨own, picked, found, picks⟩ := connect_contexts step.1
    rw [found, picks, Option.map_some, Option.map_some, same (List.mem_of_find?_eq_some found),
      same (List.mem_of_getElem? picks)]
  · trivial

theorem run_select (uniform : ∀ addr ∈ addrList, addr.dbidx = dbidx)
    (run : Steps SetupStep (.start addrList store) events world) :
    Steps SelectStep (.start addrList store) events world := by
  have same : ∀ {world event next}, world.network.Setup addrList →
      (SetupStep world event next ↔ SelectStep world event next) :=
    fun setup => ⟨SetupStep.select uniform setup, fun step => ⟨step.1, step.2.1⟩⟩
  have keeps : ∀ {world event next}, SetupStep world event next → world.network.Setup addrList →
      next.network.Setup addrList :=
    fun step setup => (step.select uniform setup).setup setup
  have runs : Steps SetupStep (.start addrList store) events world ↔
      Steps SelectStep (.start addrList store) events world :=
    Steps.congr same keeps (setup_start addrList store)
  exact runs.mp run

theorem Effect.numbers {network after : Network} (effect : Effect network after event)
    (numbers : network.wires.issued.map (·.number) = List.range network.wires.issued.length) :
    after.wires.issued.map (·.number) = List.range after.wires.issued.length := by
  have issue {sent : Sent} (number : sent.number = network.wires.issued.length) :
      (network.wires.issue sent).issued.map (·.number) = List.range (network.wires.issue sent).issued.length := by
    simp [Wires.issue, numbers, number, List.range_succ]
  cases effect with
  | rests same => exact same ▸ numbers
  | issues _ _ _ number _ _ _ issued => exact issued ▸ issue number
  | connects _ _ linked => exact linked ▸ numbers
  | selects _ _ _ _ _ _ number _ _ _ selected => exact selected ▸ issue number
  | executes _ _ _ executed => exact executed ▸ numbers
  | writes written => exact written ▸ numbers
  | answers _ _ _ answered =>
    rcases answered with dropped | ⟨_, marked⟩
    · exact dropped ▸ numbers
    · exact marked ▸ numbers
  | loses linked => exact linked ▸ numbers
  | frees _ _ _ _ _ left => exact left ▸ numbers

namespace Network.Setup

variable {network : Network} {addrList : List RedisAddr} {context : RedisClientContext} (setup : network.Setup addrList)

include setup

theorem keyless (issued : sent ∈ network.wires.issued) : sent.command.key = none := by
  obtain ⟨addr, _, is⟩ := setup.own sent issued
  rw [is]
  rfl

private theorem keyless_of_executed
    (done : (sent, reply) ∈ network.wires.executed) : sent.command.key = none := by
  have own : (sent, reply) ∈ network.executedOn sent.conn := by simp [executedOn, done]
  exact setup.keyless (setup.issued_of_executed own).1

variable (ready : ∀ context ∈ network.contexts, context.dbSelected)

include ready

private theorem streams_eq_nil (conn : Nat) : network.wires.streams conn = [] := by
  by_cases inside : conn < addrList.length
  · obtain ⟨context, member, rfl⟩ := setup.exists_context inside
    obtain ⟨_, _, _, _, none⟩ := setup.executed_once ready member
    exact none
  · have none : network.wires.issued.filter (·.conn = conn) = [] := by
      refine List.filter_eq_nil_iff.mpr fun sent issued => ?_
      obtain ⟨addr, found, _⟩ := setup.own sent issued
      have bound := (List.getElem?_eq_some_iff.mp found).1
      simp only [decide_eq_true_eq]
      omega
    have under := setup.streams conn
    rw [none] at under
    exact (List.append_eq_nil_iff.mp (List.sublist_nil.mp under)).2

private theorem database_eq (member : context ∈ network.contexts) :
    (network.bindings context.ctx).database = context.addr.dbidx.toNat :=
  setup.bound (setup.lastSelect_eq ready member)

private theorem serving {dbidx : UInt32} (uniform : ∀ addr ∈ addrList, addr.dbidx = dbidx)
    (numbers : network.wires.issued.map (·.number) = List.range network.wires.issued.length) (key : Bytes) :
    network.Serving key dbidx.toNat (network.store dbidx.toNat key) := by
  have streams := setup.streams_eq_nil ready
  have noneIssued : network.wires.issued.filter (Sent.onKey key) = [] :=
    List.filter_eq_nil_iff.mpr fun sent issued => by simp [Sent.onKey, setup.keyless issued]
  have noneExecuted : (network.wires.executed.map (·.1)).filter (Sent.onKey key) = [] := by
    refine List.filter_eq_nil_iff.mpr fun sent member => ?_
    obtain ⟨⟨_, reply⟩, done, rfl⟩ := List.mem_map.mp member
    simp [Sent.onKey, setup.keyless_of_executed done]
  refine ⟨numbers, ⟨0, fun conn _ => ?_, ?_⟩, fun _ => streams _, fun member => ?_, fun member => ?_, ?_,
    fun done get => ?_⟩
  · simp [lanes, streams conn]
  · simp [lanes, streams 0, noneIssued, noneExecuted]
  · rw [streams] at member
    cases member
  · obtain ⟨context, ofContext, rfl⟩ := List.mem_map.mp member
    have own := setup.addr_of_mem ofContext
    rw [setup.database_eq ready ofContext, uniform _ (List.mem_of_getElem? own)]
  · rw [← replay_filter, noneExecuted]
    rfl
  · have none := setup.keyless_of_executed done
    rw [get] at none
    cases none

end Network.Setup

private theorem run_numbers (run : Steps SetupStep (.start addrList store) events world) :
    world.network.wires.issued.map (·.number) = List.range world.network.wires.issued.length := by
  have keeps : ∀ {world event next}, SetupStep world event next →
      world.network.wires.issued.map (·.number) = List.range world.network.wires.issued.length →
      next.network.wires.issued.map (·.number) = List.range next.network.wires.issued.length :=
    fun step numbers => (redisStep_effect step.1).numbers numbers
  exact run.invariant keeps rfl

section Cache

variable {Msg : Type} {proto : Datacenter.Protobuf Msg} (serializer : CacheSerializer proto)

/-- After an `Init` in which all connections have one database, with commands on the key that do
not overtake each other: they are executed in the order they were issued, a GET returns what the
commands issued before it leave; so a `Get` that follows an `Update` returns the updated object,
when nobody else writes the key. -/
theorem key_commands_in_order {addrList : List RedisAddr} {store : Store} {setup events : List RedisEvent}
    {final : RedisWorld} {dbidx : UInt32} {key : Bytes}
    (init : Steps SetupStep (.start addrList store) setup world) (ready : world.agent.allContextReady)
    (uniform : ∀ addr ∈ addrList, addr.dbidx = dbidx)
    (run : Steps (KeyStep key dbidx.toNat) world events final) :
    (final.executed.map (·.1)).filter (Sent.onKey key) <+: final.issued.filter (Sent.onKey key) ∧
      ∀ get reply, (get, reply) ∈ final.executed → get.command = .get key →
        reply = getReply (replay key (world.store dbidx.toNat key) (final.issued.take get.number)) ∧
        ∀ update updated cb ccb,
          ((final.issued.take get.number).filter (Sent.onKey key)).getLast? = some update →
          CacheAgent.update serializer updated cb = .ok (ccb, update.command) →
          ∃ packed, serializer.pack updated = some packed ∧ reply = getReply (some packed) := by
  have marked : ∀ context ∈ world.network.contexts, context.dbSelected := List.all_eq_true.mp ready
  have start := (run_setup (run_select uniform init)).serving marked uniform (run_numbers init) key
  have serving := run.invariant KeyStep.serving start
  refine ⟨serving.ordered.done_isPrefix, fun get reply executed is => ?_⟩
  have replied := serving.replies executed is
  rw [filter_number_take serving.numbers] at replied
  refine ⟨replied, fun update updated cb ccb isLast passed => ?_⟩
  obtain ⟨at_key, packed, _, packs, set⟩ := CacheAgent.update_command passed
  have onKey := (List.mem_filter.mp (List.mem_of_getLast? isLast)).2
  have same : at_key = key := by simpa [Sent.onKey, set, RedisCommand.key] using onKey
  subst same
  refine ⟨packed, packs, ?_⟩
  rw [replied]
  exact congrArg getReply (replay_set isLast set)

end Cache

section Gold

open Datacenter

def goldDescriptor : Descriptor where
  fields :=
    [{ name := "rid", typeName := "uint64", default := .uint64 0 },
     { name := "gold", typeName := "uint32", default := .uint32 0 }]
  distinct := by decide +kernel
  nested name :=
    if name = "_PrimaryKey" then some [{ name := "rid", typeName := "uint64", default := .uint64 0 }] else none

def goldWire : Protobuf Unit where
  findMessageTypeByName name := if name = "db.Role" then some goldDescriptor else none
  typeName _ := ""
  defaultInstance _ := ()
  serializeToArray _ := none
  parseFromArray _ _ := none

def goldRole (gold : BitVec 32) : Message goldWire goldDescriptor where
  content := ![.singular (some (.uint64 7)), .singular (some (.uint32 gold))]
  fits i := by
    change Fin 2 at i
    fin_cases i <;> exact ⟨rfl, fun held own => Option.some.inj own ▸ rfl⟩

def goldSerializer : CacheSerializer goldWire where
  getTypeName _ := ascii "Role"
  pack obj := (List.finRange obj.1.fields.length).mapM fun i =>
    match obj.2.content i with
    | .singular (some (.uint64 bits)) => some (UInt8.ofNat bits.toNat)
    | .singular (some (.uint32 bits)) => some (UInt8.ofNat bits.toNat)
    | _ => none

def goldKey : Bytes := ascii "Role:7"

def cacheEvent (cmd : CacheCallBackTypeCmd) (gold : BitVec 32) (pick : Nat) : RedisEvent :=
  match CacheAgent.passes goldSerializer cmd ⟨goldDescriptor, goldRole gold⟩ [9] with
  | .ok (ccb, command) => .command ccb command { pick, now := 0, taken := true }
  | .error _ => .replied

/-- The event, unless it overtakes another command on the key. -/
def keyStep (key : Bytes) (database : Nat) : RedisWorld → RedisEvent → Option RedisWorld :=
  guarded (fun world event => event.isService key database ∧ world.network.Joins key event) redisStep

def readyEvents : List RedisEvent := selection id

def readyWorld : RedisWorld :=
  (runAll selectStep (.start oneDatabase fun _ _ => none) readyEvents).get (by decide +kernel)

theorem readyEvents_run : Steps SetupStep (.start oneDatabase fun _ _ => none) readyEvents readyWorld := by
  have run : Steps SelectStep (.start oneDatabase fun _ _ => none) readyEvents readyWorld :=
    steps_of_guarded (Option.some_get _).symm
  exact run.mono fun step => ⟨step.1, step.2.1⟩

/-- The role is read on the other connection once the update is executed. -/
def waitingEvents : List RedisEvent :=
  [cacheEvent .update 5 0, .execute 0 true, cacheEvent .get 0 1, .execute 1 true, cacheEvent .remove 0 1]

def waitingWorld : RedisWorld :=
  (runAll (keyStep goldKey 0) readyWorld waitingEvents).get (by decide +kernel)

theorem key_commands_in_order_waiting :
    (waitingWorld.executed.map fun pair => (pair.1.command, pair.2.str)).drop 2 =
        [(.set goldKey [7, 5], ascii "OK"), (.get goldKey, [7, 5])] ∧
      (waitingWorld.executed.map (·.1)).filter (Sent.onKey goldKey) <+:
        waitingWorld.issued.filter (Sent.onKey goldKey) := by
  have run : Steps (KeyStep goldKey 0) readyWorld waitingEvents waitingWorld :=
    steps_of_guarded (Option.some_get _).symm
  have ready : readyWorld.agent.allContextReady := by decide +kernel
  have uniform : ∀ addr ∈ oneDatabase, addr.dbidx = 0 := by decide +kernel
  have inOrder := key_commands_in_order goldSerializer readyEvents_run ready uniform run
  exact ⟨by decide +kernel, inOrder.1⟩

/-- The role is read on the other connection before the update is executed. -/
def overtakingEvents : List RedisEvent :=
  [cacheEvent .update 5 0, cacheEvent .get 0 1, .execute 1 true, .execute 0 true]

def overtakingWorld : RedisWorld :=
  (runAll redisStep readyWorld overtakingEvents).get (by decide +kernel)

/-- The `Get` that was issued after the `Update` is executed before it, and finds nothing. -/
theorem get_overtakes_update :
    Steps SetupStep (.start oneDatabase fun _ _ => none) readyEvents readyWorld ∧
      readyWorld.agent.allContextReady ∧
      Steps (redisStep · · = some ·) readyWorld overtakingEvents overtakingWorld ∧
      (overtakingWorld.issued.map (·.command)).drop 2 = [.set goldKey [7, 5], .get goldKey] ∧
      (overtakingWorld.executed.map fun pair => (pair.1.command, pair.2.type)).drop 2 =
        [(.get goldKey, .nil), (.set goldKey [7, 5], .status)] :=
  ⟨readyEvents_run, by decide +kernel, steps_of_runAll (Option.some_get _).symm, by decide +kernel,
    by decide +kernel⟩

end Gold

end Playground.Redis
