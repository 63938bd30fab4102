import Playground.Redis.ObjectKey

/-! `DispatchResult` of the `CacheAgent`. -/

namespace Playground.Redis

open Framing Record Datacenter

def dataRedisErrStart : Int := 1000

def ReplyType.code : ReplyType → Int
  | .string => 1
  | .array => 2
  | .integer => 3
  | .nil => 4
  | .status => 5
  | .error => 6

variable {Msg : Type} {proto : Protobuf Msg}

/-- The serializer with `UnPack`, for a type of the name space of the metas. -/
structure CacheLibrary (proto : Protobuf Msg) extends CacheSerializer proto where
  unPack : Bytes → Bytes → Option (Object proto)

/-- How a call ends that does not return: the null reply is inspected, or an assertion fails. -/
inductive Crash where
  | nullReply
  | assertion
deriving DecidableEq

/-- The agent, with the types that have a listener and the objects it has fetched. -/
structure CacheAgent (proto : Protobuf Msg) where
  listens : Bytes → Bool
  mpGetObjects : Bytes → Option (Object proto) := fun _ => none

/-- The code a reply is reported with. -/
def replyCode (reply : Option RedisReply) (timeout : Bool) : Int :=
  match reply with
  | none => if timeout then dataTimeOut else dataOk
  | some reply =>
    if reply.type = .error then dataRedisErrStart + reply.type.code
    else if reply.type = .nil then dataNoExists
    else dataOk

namespace CacheAgent

variable (library : CacheLibrary proto) (asserts : Bool)

/-- The object is kept under its key, which stays empty where assertions are not compiled in. -/
def keep (agent : CacheAgent proto) (obj : Object proto) : Except Crash (CacheAgent proto) :=
  if asserts then
    match getObjectKey library.toCacheSerializer obj with
    | .ok key => .ok { agent with mpGetObjects := Function.update agent.mpGetObjects key (some obj) }
    | .error _ => .error .assertion
  else .ok { agent with mpGetObjects := Function.update agent.mpGetObjects [] (some obj) }

/-- The object of a GET is kept before it is reported. -/
def dispatchGet (agent : CacheAgent proto) (typeKey : Bytes) (reply : Option RedisReply) (ucb : Bytes)
    (ret : Int) : Except Crash (CacheAgent proto × ListenerCall proto) :=
  if ret ≠ dataOk then .ok (agent, .onGet ret none ucb)
  else
    match reply with
    | none => .error .nullReply
    | some reply =>
      if reply.type = .string then
        match library.unPack typeKey reply.str with
        | none => .ok (agent, .onGet dataUnpackError none ucb)
        | some obj => (agent.keep library asserts obj).map fun next => (next, .onGet dataOk (some obj) ucb)
      else .ok (agent, .onGet dataInternalErr none ucb)

/-- The call of the listener, if there is one; otherwise the call returns an error. -/
def dispatchResult (agent : CacheAgent proto) (cmd : UInt16) (typeKey : Bytes) (reply : Option RedisReply)
    (ucb : Bytes) (timeout : Bool) : Except Crash (CacheAgent proto × Option (ListenerCall proto)) :=
  let ret := replyCode reply timeout
  if agent.listens typeKey then
    if cmd = cacheCmdGet then (agent.dispatchGet library asserts typeKey reply ucb ret).map (Prod.map id some)
    else if cmd = cacheCmdUpdate then .ok (agent, some (.onUpdate ret ucb))
    else if cmd = cacheCmdInsert then .ok (agent, some (.onInsert ret ucb))
    else if cmd = cacheCmdRemove then .ok (agent, some (.onRemove ret ucb))
    else .ok (agent, none)
  else .ok (agent, none)

variable {library asserts} {agent next : CacheAgent proto} {cmd : UInt16} {typeKey ucb : Bytes}
  {reply : Option RedisReply} {timeout : Bool}

def Succeeded (reply : Option RedisReply) : Prop :=
  ∃ own, reply = some own ∧ own.type ≠ .error ∧ own.type ≠ .nil

/-- The null reply is not inspected, and the listener hears of success only for a successful reply. -/
structure Faithful (outcome : Except Crash (CacheAgent proto × Option (ListenerCall proto)))
    (reply : Option RedisReply) : Prop where
  uninspected : outcome ≠ .error .nullReply
  success : ∀ next call, outcome = .ok (next, some call) → call.ret = dataOk → Succeeded reply

theorem replyCode_eq_ok_iff :
    replyCode reply timeout = dataOk ↔ Succeeded reply ∨ reply = none ∧ timeout = false := by
  cases reply with
  | none => cases timeout <;> simp [replyCode, Succeeded, dataTimeOut, dataOk]
  | some own =>
    cases kind : own.type <;>
      simp [replyCode, Succeeded, kind, ReplyType.code, dataRedisErrStart, dataNoExists, dataOk]

private theorem keep_ne_nullReply (obj : Object proto) : agent.keep library asserts obj ≠ .error .nullReply := by
  unfold keep
  split
  · split
    · exact nofun
    · exact nofun
  · exact nofun

theorem dispatchGet_nullReply :
    agent.dispatchGet library asserts typeKey reply ucb ret = .error .nullReply ↔
      ret = dataOk ∧ reply = none := by
  unfold dispatchGet
  by_cases code : ret = dataOk
  · rw [if_neg (not_not.mpr code)]
    cases reply with
    | none => simp [code]
    | some own =>
      dsimp only
      split
      · split
        · simp
        · next obj _ =>
          cases kept : agent.keep library asserts obj with
          | ok next => simp [Except.map]
          | error crash =>
            have other : crash ≠ .nullReply := fun same => keep_ne_nullReply obj (same ▸ kept)
            simp [Except.map, other]
      · simp
  · simp [code]

theorem dispatchGet_ret {call : ListenerCall proto}
    (handled : agent.dispatchGet library asserts typeKey reply ucb ret = .ok (next, call))
    (success : call.ret = dataOk) : ret = dataOk := by
  unfold dispatchGet at handled
  split at handled
  · obtain ⟨-, rfl⟩ := Prod.ext_iff.mp (Except.ok.inj handled)
    exact success
  · next code => exact not_not.mp code

theorem dispatchResult_cases
    (handled : agent.dispatchResult library asserts cmd typeKey reply ucb timeout = .ok (next, call)) :
    (∃ told, call = some told ∧
        agent.dispatchGet library asserts typeKey reply ucb (replyCode reply timeout) = .ok (next, told)) ∨
      next = agent ∧ ∀ told, call = some told →
        told.ret = replyCode reply timeout ∧ ∀ ret obj cb, told ≠ .onGet ret obj cb := by
  unfold dispatchResult at handled
  dsimp only at handled
  split at handled
  case isFalse =>
    obtain ⟨rfl, rfl⟩ := Prod.ext_iff.mp (Except.ok.inj handled)
    exact .inr ⟨rfl, nofun⟩
  split at handled
  · obtain ⟨⟨after, told⟩, got, same⟩ := map_eq_ok.mp handled
    obtain ⟨rfl, rfl⟩ := Prod.ext_iff.mp same
    exact .inl ⟨told, rfl, got⟩
  right
  split at handled
  · obtain ⟨rfl, rfl⟩ := Prod.ext_iff.mp (Except.ok.inj handled)
    exact ⟨rfl, fun told same => Option.some.inj same ▸ ⟨rfl, nofun⟩⟩
  split at handled
  · obtain ⟨rfl, rfl⟩ := Prod.ext_iff.mp (Except.ok.inj handled)
    exact ⟨rfl, fun told same => Option.some.inj same ▸ ⟨rfl, nofun⟩⟩
  split at handled
  · obtain ⟨rfl, rfl⟩ := Prod.ext_iff.mp (Except.ok.inj handled)
    exact ⟨rfl, fun told same => Option.some.inj same ▸ ⟨rfl, nofun⟩⟩
  · obtain ⟨rfl, rfl⟩ := Prod.ext_iff.mp (Except.ok.inj handled)
    exact ⟨rfl, nofun⟩

theorem dispatchResult_nullReply
    (crashed : agent.dispatchResult library asserts cmd typeKey reply ucb timeout = .error .nullReply) :
    replyCode reply timeout = dataOk ∧ reply = none := by
  unfold dispatchResult at crashed
  dsimp only at crashed
  split at crashed
  case isFalse => cases crashed
  split at crashed
  · exact dispatchGet_nullReply.mp (map_eq_error.mp crashed)
  split at crashed
  · cases crashed
  split at crashed
  · cases crashed
  split at crashed
  · cases crashed
  · cases crashed

def reported (cmd : UInt16) : Prop :=
  cmd = cacheCmdGet ∨ cmd = cacheCmdUpdate ∨ cmd = cacheCmdInsert ∨ cmd = cacheCmdRemove

private theorem lost_unfaithful (listens : agent.listens typeKey) (command : reported cmd) :
    ¬ Faithful (agent.dispatchResult library asserts cmd typeKey none ucb false) none := by
  intro faithful
  have code : replyCode none false = dataOk := rfl
  have refuted (call : ListenerCall proto) (success : call.ret = dataOk) :
      agent.dispatchResult library asserts cmd typeKey none ucb false ≠ .ok (agent, some call) := by
    intro told
    obtain ⟨own, absent, -⟩ := faithful.success agent call told success
    cases absent
  rcases command with rfl | rfl | rfl | rfl
  · refine faithful.uninspected ?_
    rw [dispatchResult, if_pos listens, if_pos rfl]
    exact map_eq_error.mpr (dispatchGet_nullReply.mpr ⟨code, rfl⟩)
  · exact refuted (.onUpdate dataOk ucb) rfl (if_pos listens)
  · exact refuted (.onInsert dataOk ucb) rfl (if_pos listens)
  · exact refuted (.onRemove dataOk ucb) rfl (if_pos listens)

private theorem dispatchResult_silent (silent : ¬ (agent.listens typeKey ∧ reported cmd)) :
    agent.dispatchResult library asserts cmd typeKey reply ucb timeout = .ok (agent, none) := by
  unfold dispatchResult
  dsimp only
  by_cases listens : agent.listens typeKey
  · have other : ¬ reported cmd := fun command => silent ⟨listens, command⟩
    simp only [reported, not_or] at other
    rw [if_pos listens, if_neg other.1, if_neg other.2.1, if_neg other.2.2.1, if_neg other.2.2.2]
  · rw [if_neg listens]

private theorem faithful_of_code (known : replyCode reply timeout = dataOk → Succeeded reply) :
    Faithful (agent.dispatchResult library asserts cmd typeKey reply ucb timeout) reply where
  uninspected crashed := by
    obtain ⟨code, rfl⟩ := dispatchResult_nullReply crashed
    obtain ⟨own, absent, -⟩ := known code
    cases absent
  success next call handled success := by
    rcases dispatchResult_cases handled with ⟨told, same, got⟩ | ⟨-, told⟩
    · cases same
      exact known (dispatchGet_ret got success)
    · exact known ((told call rfl).1 ▸ success)

/-- Success is reported only for a successful reply, and the null reply is left alone, unless the
reply is missing without a timeout for a command whose listener takes a result. -/
theorem success_reported_iff (library : CacheLibrary proto) (asserts : Bool) (agent : CacheAgent proto)
    (cmd : UInt16) (typeKey : Bytes) (reply : Option RedisReply) (ucb : Bytes) (timeout : Bool) :
    Faithful (agent.dispatchResult library asserts cmd typeKey reply ucb timeout) reply ↔
      ¬ (reply = none ∧ timeout = false ∧ agent.listens typeKey ∧ reported cmd) := by
  constructor
  · rintro faithful ⟨rfl, rfl, listens, command⟩
    exact lost_unfaithful listens command faithful
  · intro fine
    by_cases lost : reply = none ∧ timeout = false
    · obtain ⟨rfl, rfl⟩ := lost
      have silent : ¬ (agent.listens typeKey ∧ reported cmd) := fun both => fine ⟨rfl, rfl, both⟩
      rw [dispatchResult_silent silent]
      exact ⟨nofun, fun next call told => nomatch (Prod.ext_iff.mp (Except.ok.inj told)).2⟩
    · exact faithful_of_code fun code => (replyCode_eq_ok_iff.mp code).resolve_right lost

def attentive : CacheAgent zoneWire where
  listens _ := true

def zoneLibrary : CacheLibrary zoneWire where
  toCacheSerializer := zoneSerializer
  unPack _ _ := some ⟨role, roleFive⟩

/-- The connection goes down: the removal seems to have succeeded, and the null reply to the GET is
inspected. -/
theorem lost_connection_reported :
    attentive.dispatchResult zoneLibrary true cacheCmdRemove (ascii "Role") none [] false =
        .ok (attentive, some (.onRemove dataOk [])) ∧
      attentive.dispatchResult zoneLibrary true cacheCmdGet (ascii "Role") none [] false =
        .error .nullReply :=
  ⟨rfl, rfl⟩

end CacheAgent

end Playground.Redis
