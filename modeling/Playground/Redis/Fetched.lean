import Playground.Redis.Dispatch

/-! The objects that the `CacheAgent` has fetched. -/

namespace Playground.Redis

open Framing Record Datacenter

variable {Msg : Type} {proto : Protobuf Msg}

namespace CacheAgent

def findKey (agent : CacheAgent proto) (key : Bytes) : Option (Object proto) :=
  if key.length ≠ 0 then none else agent.mpGetObjects key

def findObject (library : CacheLibrary proto) (agent : CacheAgent proto) (obj : Object proto) :
    Except Fault (Option (Object proto)) :=
  match getObjectKey library.toCacheSerializer obj with
  | .ok key => .ok (agent.findKey key)
  | .error (.returns _) => .ok none
  | .error .aborted => .error .aborted

def getObjectPtr (library : CacheLibrary proto) (agent : CacheAgent proto) (obj : Object proto) :
    Except Fault (Option (Object proto)) :=
  match getObjectKey library.toCacheSerializer obj with
  | .ok key => .ok ((agent.mpGetObjects key).or (agent.mpGetObjects []))
  | .error (.returns _) => .ok (agent.mpGetObjects [])
  | .error .aborted => .error .aborted

def freeObject (agent : CacheAgent proto) (key : Bytes) : CacheAgent proto :=
  { agent with mpGetObjects := Function.update agent.mpGetObjects key none }

/-- The agents that handle replies and free objects. A successful GET reply is one whose object the
listener gets. -/
inductive Run (library : CacheLibrary proto) (asserts : Bool) (start : CacheAgent proto) :
    List (CacheEvent proto) → CacheAgent proto → Prop
  | start : Run library asserts start [] start
  | fetched {events : List (CacheEvent proto)} {agent next : CacheAgent proto} {cmd : UInt16}
      {typeKey ucb : Bytes} {reply : Option RedisReply} {timeout : Bool} {obj : Object proto}
      (run : Run library asserts start events agent)
      (handled : agent.dispatchResult library asserts cmd typeKey reply ucb timeout =
        .ok (next, some (.onGet dataOk (some obj) ucb))) :
      Run library asserts start (events ++ [.store obj]) next
  | other {events : List (CacheEvent proto)} {agent next : CacheAgent proto} {cmd : UInt16}
      {typeKey ucb : Bytes} {reply : Option RedisReply} {timeout : Bool} {call : Option (ListenerCall proto)}
      (run : Run library asserts start events agent)
      (handled : agent.dispatchResult library asserts cmd typeKey reply ucb timeout = .ok (next, call))
      (nothing : ∀ obj cb, call ≠ some (.onGet dataOk (some obj) cb)) : Run library asserts start events next
  | free {events : List (CacheEvent proto)} {agent : CacheAgent proto} (key : Bytes)
      (run : Run library asserts start events agent) :
      Run library asserts start (events ++ [.free key]) (agent.freeObject key)

variable {library : CacheLibrary proto} {asserts : Bool} {start agent next : CacheAgent proto}
  {typeKey ucb : Bytes} {reply : Option RedisReply} {events : List (CacheEvent proto)}

private theorem dispatchGet_cases
    (handled : agent.dispatchGet library asserts typeKey reply ucb ret = .ok (next, call)) :
    (∃ obj, call = .onGet dataOk (some obj) ucb ∧ agent.keep library asserts obj = .ok next) ∨
      next = agent ∧ ∃ code, call = .onGet code none ucb := by
  unfold dispatchGet at handled
  split at handled
  · obtain ⟨rfl, rfl⟩ := Prod.ext_iff.mp (Except.ok.inj handled)
    exact .inr ⟨rfl, ret, rfl⟩
  split at handled
  · cases handled
  split at handled
  · split at handled
    · obtain ⟨rfl, rfl⟩ := Prod.ext_iff.mp (Except.ok.inj handled)
      exact .inr ⟨rfl, _, rfl⟩
    · next obj _ =>
      obtain ⟨after, kept, same⟩ := map_eq_ok.mp handled
      obtain ⟨rfl, rfl⟩ := Prod.ext_iff.mp same
      exact .inl ⟨obj, rfl, kept⟩
  · obtain ⟨rfl, rfl⟩ := Prod.ext_iff.mp (Except.ok.inj handled)
    exact .inr ⟨rfl, _, rfl⟩

private theorem keep_change (kept : agent.keep library true obj = .ok next) :
    next.mpGetObjects =
      ((CacheEvent.store obj).change (getObjectKey library.toCacheSerializer)).elim agent.mpGetObjects
        (·.apply agent.mpGetObjects) := by
  unfold keep at kept
  rw [if_pos rfl] at kept
  split at kept
  · next key keyed =>
    obtain rfl := Except.ok.inj kept
    simp [CacheEvent.change, keyed, Except.toOption, Change.apply]
  · cases kept

/-- Where assertions are compiled in, under a key stands what was fetched last and not freed since. -/
theorem Run.mpGetObjects_eq (run : Run library true start events agent)
    (fresh : start.mpGetObjects = fun _ => none) :
    agent.mpGetObjects =
      kept (events.filterMap (CacheEvent.change (getObjectKey library.toCacheSerializer))) := by
  induction run with
  | start => exact fresh
  | fetched run handled ih =>
    rw [kept_filterMap_concat, ← ih]
    rcases dispatchResult_cases handled with ⟨told, same, got⟩ | ⟨-, told⟩
    · cases same
      rcases dispatchGet_cases got with ⟨obj, same, kept⟩ | ⟨-, code, same⟩
      · obtain ⟨-, own, -⟩ := ListenerCall.onGet.inj same
        cases own
        exact keep_change kept
      · cases same
    · exact absurd rfl ((told _ rfl).2 _ _ _)
  | other run handled nothing ih =>
    rw [← ih]
    rcases dispatchResult_cases handled with ⟨told, rfl, got⟩ | ⟨rfl, -⟩
    · rcases dispatchGet_cases got with ⟨obj, rfl, -⟩ | ⟨rfl, -⟩
      · exact absurd rfl (nothing obj _)
      · rfl
    · rfl
  | free key run ih =>
    rw [kept_filterMap_concat, ← ih]
    rfl

/-- An object that was fetched and not freed is shared. -/
theorem Run.getObjectPtr_eq (run : Run library true start events agent)
    (fresh : start.mpGetObjects = fun _ => none)
    (kept : lookup (getObjectKey library.toCacheSerializer) events q = .ok (some obj)) :
    agent.getObjectPtr library q = .ok (some obj) := by
  cases keyed : getObjectKey library.toCacheSerializer q with
  | error fault =>
    cases fault with
    | aborted => simp [lookup, keyed] at kept
    | returns ret => simp [lookup, keyed] at kept
  | ok key =>
    have own : Record.kept (events.filterMap (CacheEvent.change (getObjectKey library.toCacheSerializer))) key =
        some obj := by
      simpa [lookup, keyed] using kept
    rw [← run.mpGetObjects_eq fresh] at own
    simp [getObjectPtr, keyed, own]

def Fetched (library : CacheLibrary proto) (events : List (CacheEvent proto)) (q : Object proto) : Prop :=
  ∃ key before obj after, getObjectKey library.toCacheSerializer q = .ok key ∧
    events = before ++ .store obj :: after ∧ getObjectKey library.toCacheSerializer obj = .ok key ∧
    .free key ∉ after

private theorem fetched_iff_kept (keyed : getObjectKey library.toCacheSerializer q = .ok key) :
    Fetched library events q ↔ ∃ obj,
      kept (events.filterMap (CacheEvent.change (getObjectKey library.toCacheSerializer))) key = some obj := by
  constructor
  · rintro ⟨own, before, obj, after, same, rfl, stored, unfreed⟩
    obtain rfl := Except.ok.inj (keyed.symm.trans same)
    rw [List.filterMap_append, List.filterMap_cons_some (CacheEvent.change_eq_put_iff.mpr ⟨rfl, stored⟩)]
    refine exists_kept fun dropped => ?_
    obtain ⟨event, member, change⟩ := List.mem_filterMap.mp dropped
    exact unfreed (CacheEvent.change_eq_drop_iff.mp change ▸ member)
  · rintro ⟨obj, own⟩
    obtain ⟨before, event, after, rfl, change, untouched⟩ := kept_filterMap_iff.mp own
    obtain ⟨rfl, stored⟩ := CacheEvent.change_eq_put_iff.mp change
    exact ⟨key, before, obj, after, keyed, rfl, stored, fun member => untouched _ member _ rfl rfl⟩

theorem findObject_none
    (keyed : getObjectKey library.toCacheSerializer q = .ok key) : agent.findObject library q = .ok none := by
  obtain ⟨desc, q⟩ := q
  obtain ⟨-, texts, -, rfl⟩ := getObjectKey_ok_iff.mp keyed
  rw [findObject, keyed]
  refine congrArg Except.ok (if_pos ?_)
  simp [ascii]

/-- After replies and calls of `FreeObject` the `DBAgent` with the same history would answer a lookup
as it is to; the `CacheAgent` does exactly if no object with that key was fetched and not freed since. -/
theorem fetched_found_iff (_run : Run library asserts start events agent) (q : Object proto) :
    agent.findObject library q = lookup (getObjectKey library.toCacheSerializer) events q ∧
        (∀ origin db : DBAgent proto, (origin.mpGetObjects = fun _ => none) → origin.Run events db →
          db.findObject q = lookup (fun obj => Datacenter.getObjectKey obj.2) events q) ↔
      ¬ Fetched library events q := by
  have database (origin db : DBAgent proto) (fresh : origin.mpGetObjects = fun _ => none)
      (run : origin.Run events db) :
      db.findObject q = lookup (fun obj => Datacenter.getObjectKey obj.2) events q :=
    DBAgent.findObject_lookup run fresh q
  rw [and_iff_left database]
  cases keyed : getObjectKey library.toCacheSerializer q with
  | error fault =>
    have unfetched : ¬ Fetched library events q := by
      rintro ⟨key, _, _, _, other, -⟩
      cases keyed.symm.trans other
    refine iff_of_true ?_ unfetched
    unfold findObject lookup
    rw [keyed]
    cases fault with
    | aborted => rfl
    | returns ret => rfl
  | ok key =>
    have answer : lookup (getObjectKey library.toCacheSerializer) events q =
        .ok (kept (events.filterMap (CacheEvent.change (getObjectKey library.toCacheSerializer))) key) := by
      unfold lookup
      rw [keyed]
    rw [findObject_none keyed, answer, fetched_iff_kept keyed, Except.ok.injEq]
    cases kept (events.filterMap (CacheEvent.change (getObjectKey library.toCacheSerializer))) key with
    | none => simp
    | some obj => simp

theorem roleFive_key : getObjectKey zoneSerializer ⟨role, roleFive⟩ = .ok (ascii "Role:5") := by
  decide +kernel

private theorem dispatchResult_fetched (listens : agent.listens typeKey)
    (unpacked : library.unPack typeKey value = some obj)
    (keyed : getObjectKey library.toCacheSerializer obj = .ok key) :
    agent.dispatchResult library true cacheCmdGet typeKey (some { type := .string, str := value }) ucb false =
      .ok ({ agent with mpGetObjects := Function.update agent.mpGetObjects key (some obj) },
        some (.onGet dataOk (some obj) ucb)) := by
  have code : replyCode (some { type := .string, str := value }) false = dataOk := rfl
  simp [dispatchResult, listens, dispatchGet, code, unpacked, keep, keyed, Except.map]

theorem fetch_role : ∃ next, attentive.dispatchResult zoneLibrary true cacheCmdGet (ascii "Role")
    (some { type := .string, str := [] }) [] false =
      .ok (next, some (.onGet dataOk (some ⟨role, roleFive⟩) [])) :=
  ⟨_, dispatchResult_fetched rfl rfl roleFive_key⟩

theorem getObjectPtr_eq_role : ∃ agent, Run zoneLibrary true attentive [.store ⟨role, roleFive⟩] agent ∧
    agent.getObjectPtr zoneLibrary ⟨role, roleFive⟩ = .ok (some ⟨role, roleFive⟩) := by
  obtain ⟨next, handled⟩ := fetch_role
  have run : Run zoneLibrary true attentive [.store ⟨role, roleFive⟩] next := .fetched .start handled
  have keyed : getObjectKey zoneLibrary.toCacheSerializer ⟨role, roleFive⟩ = .ok (ascii "Role:5") := roleFive_key
  refine ⟨next, run, run.getObjectPtr_eq rfl ?_⟩
  simp [lookup, CacheEvent.change, keyed, Except.toOption, kept, Change.apply]

theorem fetched_found_freed : ∃ agent,
    Run zoneLibrary true attentive [.store ⟨role, roleFive⟩, .free (ascii "Role:5")] agent ∧
      agent.findObject zoneLibrary ⟨role, roleFive⟩ =
        lookup (getObjectKey zoneSerializer) [.store ⟨role, roleFive⟩, .free (ascii "Role:5")]
          ⟨role, roleFive⟩ := by
  obtain ⟨next, handled⟩ := fetch_role
  have run : Run zoneLibrary true attentive [.store ⟨role, roleFive⟩, .free (ascii "Role:5")]
      (next.freeObject (ascii "Role:5")) := .free (ascii "Role:5") (.fetched .start handled)
  refine ⟨_, run, ((fetched_found_iff run ⟨role, roleFive⟩).mpr ?_).1⟩
  rintro ⟨key, before, obj, after, keyed, split, -, unfreed⟩
  obtain rfl := Except.ok.inj (roleFive_key.symm.trans keyed)
  match before with
  | [] =>
    obtain ⟨-, rfl⟩ := List.cons.inj split
    exact unfreed List.mem_cons_self
  | [first] => cases (List.cons.inj split).2
  | first :: second :: before => simp at split

/-- The role 5 is fetched and not found. -/
theorem fetched_role_lost : ∃ agent, Run zoneLibrary true attentive [.store ⟨role, roleFive⟩] agent ∧
    agent.findObject zoneLibrary ⟨role, roleFive⟩ = .ok none ∧
      lookup (getObjectKey zoneSerializer) [.store ⟨role, roleFive⟩] ⟨role, roleFive⟩ =
        .ok (some ⟨role, roleFive⟩) := by
  obtain ⟨next, handled⟩ := fetch_role
  refine ⟨next, .fetched .start handled, findObject_none roleFive_key, ?_⟩
  have put : (CacheEvent.store ⟨role, roleFive⟩).change (getObjectKey zoneSerializer) =
      some (.put (ascii "Role:5") ⟨role, roleFive⟩) := by
    simp [CacheEvent.change, roleFive_key, Except.toOption]
  unfold lookup
  rw [roleFive_key]
  simp [put, kept, Change.apply]

end CacheAgent

end Playground.Redis
