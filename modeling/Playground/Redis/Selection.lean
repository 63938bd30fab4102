import Mathlib.Data.Finset.Card
import Mathlib.Data.List.Perm.Subperm
import Playground.Redis.Network

/-! The databases of the connections, which `Init` waits for. -/

namespace Playground.Redis

open Transition

/-- The events before the first command of the application. -/
def RedisEvent.isSetup : RedisEvent → Bool
  | .connect _ _ _ => true
  | .execute _ _ => true
  | .write _ _ _ => true
  | .reply _ _ => true
  | .lose _ => true
  | .free => true
  | _ => false

/-- A SELECT goes to a connection with the index of the one that came up. -/
def Network.PicksAlike (network : Network) : RedisEvent → Prop
  | .connect conn true call => call.taken →
      network.contexts[call.pick % network.contexts.length]?.map (·.addr.dbidx) =
        (network.contexts.find? (·.ctx = conn)).map (·.addr.dbidx)
  | _ => True

instance (network : Network) (event : RedisEvent) : Decidable (network.PicksAlike event) := by
  unfold Network.PicksAlike
  split <;> infer_instance

def SelectStep (world : RedisWorld) (event : RedisEvent) (next : RedisWorld) : Prop :=
  redisStep world event = some next ∧ event.isSetup ∧ world.network.PicksAlike event

def Network.executedOn (network : Network) (conn : Nat) : List (Sent × RedisReply) :=
  network.wires.executed.filter (·.1.conn = conn)

theorem Network.executedOn_grows {network : Network}
    {reply : RedisReply} {bindings : Nat → Binding} {pair : Sent × RedisReply}
    (before : pair ∈ network.executedOn other) :
    pair ∈ { network with wires := network.wires.execute conn sent rest reply, bindings : Network }.executedOn
      other := by
  rw [Network.executedOn, Wires.execute, List.filter_append]
  exact List.mem_append_left _ before

def Network.called (network : Network) (count : Nat) : Finset Nat :=
  (Finset.range count).filter (network.links · ≠ .connecting)

@[simp] theorem Network.mem_called {network : Network} :
    conn ∈ network.called count ↔ conn < count ∧ network.links conn ≠ .connecting := by
  simp [Network.called]

/-- What holds while the connections are set up. -/
structure Network.Setup (network : Network) (addrList : List RedisAddr) : Prop where
  contexts : network.contexts.map (fun context => (context.addr, context.ctx)) = addrList.zipIdx
  few : network.wires.issued.length ≤ (network.called addrList.length).card
  own : ∀ sent ∈ network.wires.issued,
    ∃ addr, addrList[sent.conn]? = some addr ∧ sent.command = .select addr.dbidx.toNat
  streams (conn : Nat) : ((network.executedOn conn).map (·.1) ++ network.wires.streams conn).Sublist
    (network.wires.issued.filter (·.conn = conn))
  answers {conn : Nat} {sent : Sent} {reply : RedisReply} : (sent, reply) ∈ network.wires.answers conn →
    (sent, reply) ∈ network.executedOn conn
  last {conn : Nat} {sent : Sent} {reply : RedisReply} {addr : RedisAddr} :
    (network.executedOn conn).getLast? = some (sent, reply) → addrList[conn]? = some addr →
    (network.bindings conn).lastSelect = some (addr.dbidx.toNat, decide (reply.type = .status))
  bound {conn dbidx : Nat} : (network.bindings conn).lastSelect = some (dbidx, true) →
    (network.bindings conn).database = dbidx
  selected : ∀ context ∈ network.contexts, context.dbSelected →
    ∃ sent reply, (sent, reply) ∈ network.executedOn context.ctx ∧ reply.type = .status

theorem RedisWorld.executeOn_select (binding : Binding) (store : Store) (accepted : Bool) (dbidx : Nat) :
    ∃ reply after, RedisWorld.executeOn binding store accepted (.select dbidx) = (reply, after, store) ∧
      after.lastSelect = some (dbidx, decide (reply.type = .status)) ∧
      ∀ {bound}, after.lastSelect = some (bound, true) → after.database = bound := by
  cases accepted with
  | false => exact ⟨_, _, rfl, rfl, nofun⟩
  | true =>
    refine ⟨_, _, rfl, rfl, fun last => ?_⟩
    cases last
    rfl

namespace Network.Setup

variable {network : Network} {addrList : List RedisAddr} (setup : network.Setup addrList)

include setup

theorem addr_of_mem {context : RedisClientContext}
    (member : context ∈ network.contexts) : addrList[context.ctx]? = some context.addr := by
  have zipped := List.mem_map_of_mem (f := fun context => (context.addr, context.ctx)) member
  rw [setup.contexts] at zipped
  exact List.mem_zipIdx_iff_getElem?.mp zipped

theorem issued_of_executed {sent : Sent}
    (executed : (sent, reply) ∈ network.executedOn conn) : sent ∈ network.wires.issued ∧ sent.conn = conn := by
  have member : sent ∈ network.wires.issued.filter (·.conn = conn) :=
    (setup.streams conn).subset (List.mem_append_left _ (List.mem_map_of_mem executed))
  simpa using member

theorem link (conn : Nat) {link : Link} (settled : link ≠ .connecting) :
    (network.link conn link).Setup addrList where
  contexts := setup.contexts
  few := by
    refine Nat.le_trans setup.few (Finset.card_le_card fun other member => ?_)
    rw [mem_called] at member ⊢
    by_cases same : other = conn
    · exact ⟨member.1, by simpa [Network.link, same] using settled⟩
    · exact ⟨member.1, by simpa [Network.link, same] using member.2⟩
  own := setup.own
  streams := setup.streams
  answers := setup.answers
  last := setup.last
  bound := setup.bound
  selected := setup.selected

theorem select {sent : Sent} {own picked : RedisClientContext}
    (waiting : network.links conn = .connecting) (ofOwn : own ∈ network.contexts) (ofConn : own.ctx = conn)
    (ofPicked : picked ∈ network.contexts) (lane : sent.conn = picked.ctx)
    (is : sent.command = .select own.addr.dbidx.toNat) (alike : picked.addr.dbidx = own.addr.dbidx) :
    ((network.link conn .up).issue sent).Setup addrList where
  contexts := setup.contexts
  few := by
    have inside : conn < addrList.length := by
      have found := setup.addr_of_mem ofOwn
      rw [ofConn] at found
      exact (List.getElem?_eq_some_iff.mp found).1
    have fresh : conn ∉ network.called addrList.length := by simp [waiting]
    have grown : insert conn (network.called addrList.length) ⊆
        ((network.link conn .up).issue sent).called addrList.length := by
      intro other member
      rcases Finset.mem_insert.mp member with rfl | before
      · exact mem_called.mpr ⟨inside, by simp [Network.link, Network.issue]⟩
      · have different : other ≠ conn := fun same => fresh (same ▸ before)
        exact mem_called.mpr (by simpa [Network.link, Network.issue, different] using before)
    have card := Finset.card_le_card grown
    rw [Finset.card_insert_of_notMem fresh] at card
    have few := setup.few
    simp only [Network.issue, Network.link, Wires.issue, List.length_append, List.length_singleton] at card ⊢
    omega
  own one member := by
    rcases List.mem_append.mp member with before | new
    · exact setup.own one before
    · obtain rfl := List.mem_singleton.mp new
      refine ⟨picked.addr, ?_, ?_⟩
      · rw [lane]
        exact setup.addr_of_mem ofPicked
      · rw [is, alike]
  streams at_conn := by
    have before := setup.streams at_conn
    by_cases same : sent.conn = at_conn
    · subst same
      have grown := before.append_right [sent]
      simpa [Network.issue, Network.link, Wires.issue, executedOn] using grown
    · simpa [Network.issue, Network.link, Wires.issue, executedOn, same, Ne.symm same] using before
  answers := setup.answers
  last := setup.last
  bound := setup.bound
  selected := setup.selected

theorem own_of_head {sent : Sent} (head : network.wires.streams conn = sent :: rest) :
    sent.conn = conn ∧ ∃ addr, addrList[conn]? = some addr ∧ sent.command = .select addr.dbidx.toNat := by
  have member : sent ∈ network.wires.issued.filter (·.conn = conn) := by
    refine (setup.streams conn).subset ?_
    rw [head]
    exact List.mem_append_right _ List.mem_cons_self
  obtain ⟨issued, rfl⟩ : sent ∈ network.wires.issued ∧ sent.conn = conn := by simpa using member
  exact ⟨rfl, setup.own sent issued⟩

theorem executes {sent : Sent} {reply : RedisReply}
    {after : Binding} {addr : RedisAddr} (head : network.wires.streams sent.conn = sent :: rest)
    (found : addrList[sent.conn]? = some addr)
    (isLast : after.lastSelect = some (addr.dbidx.toNat, decide (reply.type = .status)))
    (isBound : ∀ {dbidx}, after.lastSelect = some (dbidx, true) → after.database = dbidx) :
    { network with
      wires := network.wires.execute sent.conn sent rest reply
      bindings := Function.update network.bindings sent.conn after : Network }.Setup addrList where
  contexts := setup.contexts
  few := setup.few
  own := setup.own
  streams other := by
    have before := setup.streams other
    by_cases same : other = sent.conn
    · subst same
      rw [head] at before
      simpa [executedOn, Wires.execute] using before
    · simpa [executedOn, Wires.execute, same, Ne.symm same] using before
  answers {other one answer} arrived := by
    by_cases same : other = sent.conn
    · subst same
      have either : (one, answer) ∈ network.wires.answers sent.conn ∨ (one, answer) = (sent, reply) := by
        simpa [Wires.execute] using arrived
      rcases either with before | new
      · exact executedOn_grows (setup.answers before)
      · rw [new]
        simp [executedOn, Wires.execute]
    · refine executedOn_grows (setup.answers ?_)
      simpa [Wires.execute, same] using arrived
  last {other one answer address} latest ofOther := by
    by_cases same : other = sent.conn
    · subst same
      obtain rfl : addr = address := Option.some.inj (found.symm.trans ofOther)
      obtain ⟨rfl, rfl⟩ : sent = one ∧ reply = answer := by
        simpa [executedOn, Wires.execute] using latest
      simpa using isLast
    · have before : (network.executedOn other).getLast? = some (one, answer) := by
        simpa [executedOn, Wires.execute, Ne.symm same] using latest
      simpa [same] using setup.last before ofOther
  bound {other dbidx} last := by
    by_cases same : other = sent.conn
    · subst same
      simp only [Function.update_self] at last ⊢
      exact isBound last
    · simp only [Function.update_of_ne same] at last ⊢
      exact setup.bound last
  selected context ofContext marked := by
    obtain ⟨one, answer, before, status⟩ := setup.selected context ofContext marked
    exact ⟨one, answer, executedOn_grows before, status⟩

theorem execute (accepted : Bool) (head : network.wires.streams conn = sent :: rest) :
    (network.execute conn sent rest accepted).Setup addrList := by
  obtain ⟨rfl, addr, found, is⟩ := setup.own_of_head head
  obtain ⟨reply, after, result, isLast, isBound⟩ :=
    RedisWorld.executeOn_select (network.bindings sent.conn) network.store accepted addr.dbidx.toNat
  have executed := setup.executes head found isLast isBound
  simpa [Network.execute, is, result] using executed

theorem answer (conn index : Nat) :
    (network.answer conn index).Setup addrList where
  contexts := setup.contexts
  few := setup.few
  own := setup.own
  streams := setup.streams
  answers {other sent reply} := by
    intro arrived
    by_cases same : other = conn
    · subst same
      have kept : (sent, reply) ∈ (network.wires.answers other).eraseIdx index := by
        simpa [Network.answer, Wires.answer] using arrived
      exact setup.answers (List.mem_of_mem_eraseIdx kept)
    · exact setup.answers (by simpa [Network.answer, Wires.answer, same] using arrived)
  last := setup.last
  bound := setup.bound
  selected := setup.selected

theorem leave (fewer : stream.Sublist (network.wires.streams conn))
    (fewerAnswers : remaining.Sublist (network.wires.answers conn)) :
    (network.leave conn stream remaining).Setup addrList where
  contexts := setup.contexts
  few := setup.few
  own := setup.own
  streams other := by
    have before := setup.streams other
    by_cases same : other = conn
    · subst same
      have left := ((List.Sublist.refl _).append fewer).trans before
      simpa [Network.leave, Wires.leave, executedOn] using left
    · simpa [Network.leave, Wires.leave, executedOn, same] using before
  answers {other sent reply} arrived := by
    by_cases same : other = conn
    · subst same
      have kept : (sent, reply) ∈ remaining := by simpa [Network.leave, Wires.leave] using arrived
      exact setup.answers (fewerAnswers.subset kept)
    · exact setup.answers (by simpa [Network.leave, Wires.leave, same] using arrived)
  last := setup.last
  bound := setup.bound
  selected := setup.selected

end Network.Setup

theorem markSelected_contexts (conn : Nat) (contexts : List RedisClientContext) :
    (markSelected conn contexts).map (fun context => (context.addr, context.ctx)) =
      contexts.map fun context => (context.addr, context.ctx) := by
  induction contexts with
  | nil => rfl
  | cons context rest ih =>
    unfold markSelected
    split
    · rfl
    · simpa using ih

private theorem mem_markSelected {context : RedisClientContext}
    (member : context ∈ markSelected conn contexts) : context ∈ contexts ∨ context.ctx = conn := by
  induction contexts with
  | nil => cases member
  | cons first rest ih =>
    unfold markSelected at member
    split at member
    · rename_i here
      rcases List.mem_cons.mp member with rfl | later
      · exact .inr here
      · exact .inl (List.mem_cons_of_mem _ later)
    · rcases List.mem_cons.mp member with rfl | later
      · exact .inl List.mem_cons_self
      · rcases ih later with before | same
        · exact .inl (List.mem_cons_of_mem _ before)
        · exact .inr same

namespace Network.Setup

variable {network : Network} {addrList : List RedisAddr}

private theorem mark (setup : network.Setup addrList) {reply : RedisReply}
    (executed : (sent, reply) ∈ network.executedOn conn) (status : reply.type = .status) :
    (network.mark conn).Setup addrList where
  contexts := (markSelected_contexts conn network.contexts).trans setup.contexts
  few := setup.few
  own := setup.own
  streams := setup.streams
  answers := setup.answers
  last := setup.last
  bound := setup.bound
  selected context member marked := by
    rcases mem_markSelected member with before | rfl
    · exact setup.selected context before marked
    · exact ⟨sent, reply, executed, status⟩

end Network.Setup

theorem Effect.setup {network after : Network} {event : RedisEvent}
    (effect : Effect network after event) (isSetup : event.isSetup) (alike : network.PicksAlike event)
    (setup : network.Setup addrList) : after.Setup addrList := by
  cases effect with
  | rests same => exact same ▸ setup
  | issues => cases isSetup
  | connects link settled linked => exact linked ▸ setup.link _ settled
  | selects own picked sent waiting found picks number lane is taken selected =>
    have same := alike taken
    rw [found, picks] at same
    rw [selected]
    refine setup.select waiting (List.mem_of_find?_eq_some found) ?_ (List.mem_of_getElem? picks) lane is
      (Option.some.inj same)
    simpa using List.find?_some found
  | executes sent rest head executed => exact executed ▸ setup.execute _ head
  | writes written =>
    rw [written]
    exact ⟨setup.contexts, setup.few, setup.own, setup.streams, setup.answers, setup.last, setup.bound,
      setup.selected⟩
  | answers sent reply found answered =>
    have executed := setup.answers (List.mem_of_getElem? found)
    rcases answered with dropped | ⟨status, marked⟩
    · exact dropped ▸ setup.answer _ _
    · exact marked ▸ (setup.answer _ _).mark executed status
  | loses linked => exact linked ▸ setup.link _ nofun
  | frees conn stream answers fewer fewerAnswers left => exact left ▸ setup.leave fewer fewerAnswers

theorem setup_start (addrList : List RedisAddr) (store : Store) :
    (RedisWorld.start addrList store).network.Setup addrList where
  contexts := by simp [RedisWorld.network, RedisWorld.start, List.map_map, Function.comp_def]
  few := Nat.zero_le _
  own := nofun
  streams _ := .refl _
  answers := nofun
  last := nofun
  bound := nofun
  selected context member marked := by
    obtain ⟨entry, _, rfl⟩ := List.mem_map.mp member
    cases marked

theorem SelectStep.setup {world next : RedisWorld}
    (step : SelectStep world event next) (setup : world.network.Setup addrList) : next.network.Setup addrList :=
  (redisStep_effect step.1).setup step.2.1 step.2.2 setup

theorem run_setup {final : RedisWorld}
    (run : Steps SelectStep (.start addrList store) events final) : final.network.Setup addrList :=
  run.invariant SelectStep.setup (setup_start addrList store)

namespace Network.Setup

variable {network : Network} {addrList : List RedisAddr} {context : RedisClientContext} (setup : network.Setup addrList)

include setup

theorem exists_context (inside : conn < addrList.length) :
    ∃ context ∈ network.contexts, context.ctx = conn := by
  have member : (addrList[conn], conn) ∈ addrList.zipIdx :=
    List.mem_zipIdx_iff_getElem?.mpr (List.getElem?_eq_getElem inside)
  rw [← setup.contexts] at member
  obtain ⟨context, ofContext, same⟩ := List.mem_map.mp member
  exact ⟨context, ofContext, congrArg Prod.snd same⟩

variable (ready : ∀ context ∈ network.contexts, context.dbSelected)

include ready

private theorem issued_nodup : (network.wires.issued.map (·.conn)).Nodup := by
  have every : List.range addrList.length ⊆ network.wires.issued.map (·.conn) := by
    intro conn member
    obtain ⟨context, ofContext, rfl⟩ := setup.exists_context (List.mem_range.mp member)
    obtain ⟨sent, reply, executed, _⟩ := setup.selected context ofContext (ready context ofContext)
    obtain ⟨issued, lane⟩ := setup.issued_of_executed executed
    exact List.mem_map.mpr ⟨sent, issued, lane⟩
  have few : (network.wires.issued.map (·.conn)).length ≤ (List.range addrList.length).length := by
    have called := Finset.card_filter_le (Finset.range addrList.length) (network.links · ≠ .connecting)
    rw [Finset.card_range] at called
    simpa using Nat.le_trans setup.few called
  have subperm := List.subperm_of_subset List.nodup_range every
  exact (subperm.perm_of_length_le few).nodup_iff.mp List.nodup_range

theorem executed_once (member : context ∈ network.contexts) :
    ∃ sent reply, network.executedOn context.ctx = [(sent, reply)] ∧ reply.type = .status ∧
      network.wires.streams context.ctx = [] := by
  obtain ⟨sent, reply, executed, status⟩ := setup.selected context member (ready context member)
  have single : (network.wires.issued.filter (·.conn = context.ctx)).length ≤ 1 := by
    have count := List.nodup_iff_count_le_one.mp (setup.issued_nodup ready) context.ctx
    rw [List.count_eq_countP, List.countP_map, List.countP_eq_length_filter] at count
    exact count
  have under := Nat.le_trans (setup.streams context.ctx).length_le single
  rw [List.length_append, List.length_map] at under
  have some := List.length_pos_of_mem executed
  obtain ⟨only, alone⟩ := List.length_eq_one_iff.mp (show (network.executedOn context.ctx).length = 1 by omega)
  rw [alone, List.mem_singleton] at executed
  refine ⟨sent, reply, by rw [alone, executed], status, List.eq_nil_of_length_eq_zero ?_⟩
  omega

theorem lastSelect_eq (member : context ∈ network.contexts) :
    (network.bindings context.ctx).lastSelect = some (context.addr.dbidx.toNat, true) := by
  obtain ⟨sent, reply, once, status, _⟩ := setup.executed_once ready member
  have last := setup.last (by rw [once, List.getLast?_singleton]) (setup.addr_of_mem member)
  simp only [status, decide_true] at last
  exact last

end Network.Setup

/-- If each SELECT goes to a connection with the index of the one that came up: when all contexts are
ready, the last SELECT on each connection was a successful one with its own index. -/
theorem bound_to_own_database {addrList : List RedisAddr} {store : Store} {events : List RedisEvent}
    {final : RedisWorld} (run : Steps SelectStep (.start addrList store) events final)
    (ready : final.agent.allContextReady) :
    final.agent.redisCtxList.map (·.addr) = addrList ∧
      ∀ context ∈ final.agent.redisCtxList,
        (final.connections context.ctx).binding.lastSelect = some (context.addr.dbidx.toNat, true) := by
  have setup := run_setup run
  have marked : ∀ context ∈ final.network.contexts, context.dbSelected := List.all_eq_true.mp ready
  constructor
  · have firsts := congrArg (List.map Prod.fst) setup.contexts
    rw [List.map_map, List.zipIdx_map_fst] at firsts
    exact firsts
  · exact fun context member => setup.lastSelect_eq marked member

def selectStep : RedisWorld → RedisEvent → Option RedisWorld :=
  guarded (fun world event => event.isSetup ∧ world.network.PicksAlike event) redisStep

def twoDatabases : RedisWorld :=
  .start [{ dbidx := 0 }, { dbidx := 1 }] fun _ _ => none

/-- The connections come up, each SELECT goes where it is told to, and the replies arrive. -/
def selection (pick : Nat → Nat) : List RedisEvent :=
  [.connect 0 true { pick := pick 0, now := 0, taken := true },
    .connect 1 true { pick := pick 1, now := 0, taken := true },
    .execute 1 true, .execute 0 true, .reply 1 0, .reply 0 0]

def ownWorld : RedisWorld :=
  (runAll selectStep twoDatabases (selection id)).get (by decide +kernel)

theorem bound_to_own_database_two :
    ownWorld.agent.allContextReady ∧
      ∀ context ∈ ownWorld.agent.redisCtxList,
        (ownWorld.connections context.ctx).binding.lastSelect = some (context.addr.dbidx.toNat, true) := by
  have ready : ownWorld.agent.allContextReady := by decide +kernel
  have run : Steps SelectStep twoDatabases (selection id) ownWorld :=
    steps_of_guarded (Option.some_get _).symm
  exact ⟨ready, (bound_to_own_database run ready).2⟩

def swappedWorld : RedisWorld :=
  (runAll redisStep twoDatabases (selection (1 - ·))).get (by decide +kernel)

/-- Each SELECT is sent on the other connection: all contexts are ready, with their databases swapped. -/
theorem bound_to_each_other :
    Steps (redisStep · · = some ·) twoDatabases (selection (1 - ·)) swappedWorld ∧
      swappedWorld.agent.allContextReady ∧
      swappedWorld.agent.redisCtxList.map (fun context =>
        (context.addr.dbidx.toNat, (swappedWorld.connections context.ctx).binding.lastSelect)) =
        [(0, some (1, true)), (1, some (0, true))] :=
  ⟨steps_of_runAll (Option.some_get _).symm, by decide +kernel, by decide +kernel⟩

end Playground.Redis
