import Playground.Record.Kept
import Playground.Datacenter.PrimaryKey
import Playground.Datacenter.RoundTrip

/-! The objects that the `DBAgent` keeps. -/

namespace Playground.Datacenter

open Framing Record Sql

variable {Msg : Type} {proto : Protobuf Msg} {desc : Descriptor}

def DBAgent.findKey (agent : DBAgent proto) (key : Bytes) : Option (Object proto) :=
  if key.length = 0 then none else agent.mpGetObjects key

def DBAgent.findObject (agent : DBAgent proto) (obj : Object proto) : Except Fault (Option (Object proto)) :=
  match getObjectKey obj.2 with
  | .ok key => .ok (agent.findKey key)
  | .error (.returns _) => .ok none
  | .error .aborted => .error .aborted

def DBAgent.freeObject (agent : DBAgent proto) (key : Bytes) : DBAgent proto :=
  { agent with mpGetObjects := Function.update agent.mpGetObjects key none }

inductive CacheEvent (proto : Protobuf Msg) where
  | store (obj : Object proto)
  | free (key : Bytes)

def CacheEvent.change (keyOf : Object proto → Except Fault Bytes) :
    CacheEvent proto → Option (Change Bytes (Object proto))
  | .store obj => (keyOf obj).toOption.map fun key => .put key obj
  | .free key => some (.drop key)

theorem CacheEvent.change_eq_put_iff {event : CacheEvent proto} :
    event.change keyOf = some (.put key obj) ↔ event = .store obj ∧ keyOf obj = .ok key := by
  cases event with
  | free own => simp [change]
  | store own =>
    cases keyed : keyOf own with
    | error fault =>
      refine iff_of_false (by simp [change, keyed, Except.toOption]) ?_
      rintro ⟨same, stored⟩
      cases CacheEvent.store.inj same
      cases keyed.symm.trans stored
    | ok text =>
      constructor
      · intro put
        simp only [change, keyed, Except.toOption, Option.map_some, Option.some.injEq] at put
        obtain ⟨rfl, rfl⟩ := Change.put.inj put
        exact ⟨rfl, keyed⟩
      · rintro ⟨same, stored⟩
        cases CacheEvent.store.inj same
        simp [change, stored, Except.toOption]

theorem CacheEvent.change_eq_drop_iff {event : CacheEvent proto}
    : event.change keyOf = some (.drop key) ↔ event = .free key := by
  cases event with
  | free own => simp [change]
  | store own => simp [change]

/-- What a lookup is to answer: the object that was stored last under the key and not freed since. -/
def lookup (keyOf : Object proto → Except Fault Bytes) (events : List (CacheEvent proto)) (q : Object proto) :
    Except Fault (Option (Object proto)) :=
  match keyOf q with
  | .ok key => .ok (kept (events.filterMap (CacheEvent.change keyOf)) key)
  | .error (.returns _) => .ok none
  | .error .aborted => .error .aborted

namespace DBAgent

inductive Run (start : DBAgent proto) : List (CacheEvent proto) → DBAgent proto → Prop
  | start : Run start [] start
  | select {events : List (CacheEvent proto)} {agent next : DBAgent proto} {rsp : MysqlResponse}
      {obj : Object proto} (run : Run start events agent)
      (handled : agent.createObjectFromMysql rsp = .ok (next, obj)) : Run start (events ++ [.store obj]) next
  | free {events : List (CacheEvent proto)} {agent : DBAgent proto} (key : Bytes)
      (run : Run start events agent) : Run start (events ++ [.free key]) (agent.freeObject key)

variable {start agent next : DBAgent proto} {rsp : MysqlResponse} {obj : Object proto}

theorem keep_of_created (handled : agent.createObjectFromMysql rsp = .ok (next, obj)) :
    agent.keep obj = .ok next :=
  (createObjectFromMysql_iff.mp handled).2.2.2

theorem keep_change (kept : agent.keep obj = .ok next) :
    next.mpGetObjects = ((CacheEvent.store obj).change fun obj => getObjectKey obj.2).elim
      agent.mpGetObjects (·.apply agent.mpGetObjects) := by
  unfold keep at kept
  unfold CacheEvent.change
  split at kept
  · next key keyed =>
    obtain rfl := Except.ok.inj kept
    simp [keyed, Except.toOption, Change.apply]
  · next keyed =>
    obtain rfl := Except.ok.inj kept
    simp [keyed, Except.toOption]
  · cases kept

/-- Under a key stands what was stored there last and not freed since. -/
theorem Run.mpGetObjects_eq {events : List (CacheEvent proto)} (run : Run start events agent)
    (fresh : start.mpGetObjects = fun _ => none) :
    agent.mpGetObjects = kept (events.filterMap (CacheEvent.change fun obj => getObjectKey obj.2)) := by
  induction run with
  | start => exact fresh
  | select run handled ih => rw [kept_filterMap_concat, keep_change (keep_of_created handled), ih]
  | free key run ih =>
    rw [kept_filterMap_concat, ← ih]
    rfl

end DBAgent

def SameKey (one other : Object proto) : Prop :=
  one.1 = other.1 ∧ ∀ pk ∈ getTypePrimaryKey one.1, one.2.keyValue pk = other.2.keyValue pk

def Message.keyLiterals (obj : Message proto desc) : Option (List Literal) :=
  (getTypePrimaryKey desc).mapM fun pk => (obj.keyValue pk).bind keyLiteral

/-- The texts in the primary key stand in the text of the key as they are, and end at its quotes. -/
def Message.KeyClear (obj : Message proto desc) : Prop :=
  ∀ pk ∈ getTypePrimaryKey desc, ∀ text, obj.keyValue pk = some (.string text) →
    0 ∉ text ∧ text.length ≤ 509 ∧ quote ∉ text

theorem getObjectKey_literals {obj : Message proto desc} :
    getObjectKey obj = .ok key ↔ getTypePrimaryKey desc ≠ [] ∧ ∃ literals, obj.keyLiterals = some literals ∧
      key = (ascii ":").intercalate (literals.map cutLiteral) := by
  have written (pk : String) : (obj.keyValue pk).bind keyText =
      ((obj.keyValue pk).bind keyLiteral).map cutLiteral := by
    cases obj.keyValue pk with
    | none => rfl
    | some value => exact keyText_eq value
  rw [getObjectKey_ok_iff]
  simp only [written, mapM_map_eq_some, Message.keyLiterals]
  constructor
  · rintro ⟨keyed, texts, ⟨literals, own, rfl⟩, rfl⟩
    exact ⟨keyed, literals, own, rfl⟩
  · rintro ⟨keyed, literals, own, rfl⟩
    exact ⟨keyed, _, ⟨literals, own, rfl⟩, rfl⟩

private theorem cutLiteral_ne_nil (literal : Literal) : cutLiteral literal ≠ [] := by
  cases literal with
  | number value => exact write_ne_nil (.number value)
  | text value => exact nofun

theorem getObjectKey_ne_nil {key : Bytes} (keyed : getObjectKey obj = .ok key) :
    key.length ≠ 0 := by
  obtain ⟨some, literals, own, rfl⟩ := getObjectKey_literals.mp keyed
  cases literals with
  | nil => exact absurd (List.eq_nil_of_length_eq_zero (length_of_mapM own)) some
  | cons literal rest =>
    have first := cutLiteral_ne_nil literal
    cases rest with
    | nil => simpa using first
    | cons second rest => simp [List.intercalate_cons_cons, first]

private theorem keyLiterals_clear {obj : Message proto desc} (clear : obj.KeyClear)
    (own : obj.keyLiterals = some literals) :
    ∀ literal ∈ literals, cutLiteral literal = literal.write ∧ literal.Unquoted := by
  refine (forall_mem_mapM own).mpr fun pk member literal made => ?_
  obtain ⟨value, held, keyed⟩ := Option.bind_eq_some_iff.mp made
  cases literal with
  | number number => exact ⟨rfl, trivial⟩
  | text text =>
    obtain ⟨terminated, short, unquoted⟩ := clear pk member text (keyLiteral_text keyed ▸ held)
    exact ⟨cutLiteral_whole _ ((cutLiteral_text_iff text).mpr ⟨terminated, short⟩), unquoted⟩

theorem keyLiterals_eq {obj : Message proto desc} {other : Message proto descToo}
    (clear : obj.KeyClear) (clearToo : other.KeyClear) (keyed : getObjectKey obj = .ok key)
    (same : getObjectKey other = .ok key) : obj.keyLiterals = other.keyLiterals := by
  obtain ⟨-, literals, own, rfl⟩ := getObjectKey_literals.mp keyed
  obtain ⟨-, literalsToo, ownToo, texts⟩ := getObjectKey_literals.mp same
  have whole := keyLiterals_clear clear own
  have wholeToo := keyLiterals_clear clearToo ownToo
  rw [List.map_congr_left fun literal member => (whole literal member).1,
    List.map_congr_left fun literal member => (wholeToo literal member).1] at texts
  have separates (rest : Text) : Separates (ascii ":" ++ rest) := by
    intro byte head
    obtain rfl : (58 : UInt8) = byte := Option.some.inj head
    decide
  have equal := joined_inj (by decide) separates (fun literal member => (whole literal member).2)
    (fun literal member => (wholeToo literal member).2) texts
  rw [own, ownToo, equal]

private theorem keyLiteral_inj {one other : Value Msg} {literal : Literal} (kind : one.cppType = other.cppType)
    (own : keyLiteral one = some literal) (same : keyLiteral other = some literal) : one = other := by
  have equal : keyLiteral one = keyLiteral other := own.trans same.symm
  cases one with
  | double | float | bool | message => cases own
  | int32 bits =>
    cases other with
    | int32 => simpa [keyLiteral, BitVec.toInt_inj] using equal
    | _ => cases kind
  | int64 bits =>
    cases other with
    | int64 => simpa [keyLiteral, BitVec.toInt_inj] using equal
    | _ => cases kind
  | enum bits =>
    cases other with
    | enum => simpa [keyLiteral, BitVec.toInt_inj] using equal
    | _ => cases kind
  | uint32 bits =>
    cases other with
    | uint32 => simpa [keyLiteral, BitVec.toNat_inj] using equal
    | _ => cases kind
  | uint64 bits =>
    cases other with
    | uint64 => simpa [keyLiteral, BitVec.toNat_inj] using equal
    | _ => cases kind
  | string text =>
    cases other with
    | string => simpa [keyLiteral] using equal
    | _ => cases kind

theorem keyValue_cppType {obj : Message proto desc} {value : Value Msg}
    (held : obj.keyValue pk = some value) :
    ∃ i, desc.findFieldByName pk = some i ∧ value.cppType = (desc.field i).cppType := by
  obtain ⟨i, found, own⟩ := Option.bind_eq_some_iff.mp held
  have fits := obj.fits i
  rw [Content.held_eq_some.mp own] at fits
  exact ⟨i, found, FieldDescriptor.admits_cppType (fits.2 value rfl)⟩

theorem keyValue_eq {one other : Message proto desc}
    (own : one.keyLiterals = some literals) (same : other.keyLiterals = some literals) :
    ∀ pk ∈ getTypePrimaryKey desc, one.keyValue pk = other.keyValue pk := by
  intro pk member
  obtain ⟨literal, made, madeToo⟩ := exists_of_mapM_eq own same member
  obtain ⟨value, held, keyed⟩ := Option.bind_eq_some_iff.mp made
  obtain ⟨valueToo, heldToo, keyedToo⟩ := Option.bind_eq_some_iff.mp madeToo
  obtain ⟨i, found, kind⟩ := keyValue_cppType held
  obtain ⟨j, foundToo, kindToo⟩ := keyValue_cppType heldToo
  cases found.symm.trans foundToo
  rw [held, heldToo, keyLiteral_inj (kind.trans kindToo.symm) keyed keyedToo]

theorem SameKey.getObjectKey_eq {one other : Object proto} (same : SameKey one other)
    (keyed : getObjectKey other.2 = .ok key) : getObjectKey one.2 = .ok key := by
  obtain ⟨desc, one⟩ := one
  obtain ⟨descToo, other⟩ := other
  obtain ⟨rfl, values⟩ := same
  obtain ⟨some, texts, written, rfl⟩ := getObjectKey_ok_iff.mp keyed
  refine getObjectKey_ok_iff.mpr ⟨some, texts, ?_, rfl⟩
  rw [← written]
  exact mapM_congr fun pk member => congrArg (Option.bind · keyText) (values pk member)

private theorem findObject_eq_some {agent : DBAgent proto} {q : Object proto}
    (found : agent.findObject q = .ok (some obj)) :
    ∃ key, getObjectKey q.2 = .ok key ∧ agent.mpGetObjects key = some obj := by
  unfold DBAgent.findObject at found
  split at found
  · next key keyed =>
    refine ⟨key, keyed, ?_⟩
    have own := Except.ok.inj found
    unfold DBAgent.findKey at own
    split at own
    · cases own
    · exact own
  · cases Except.ok.inj found
  · cases found

theorem DBAgent.findObject_lookup {start agent : DBAgent proto}
    (run : start.Run events agent) (fresh : start.mpGetObjects = fun _ => none) (q : Object proto) :
    agent.findObject q = lookup (fun obj => getObjectKey obj.2) events q := by
  unfold DBAgent.findObject lookup
  dsimp only
  cases keyed : getObjectKey q.2 with
  | error fault =>
    cases fault with
    | aborted => rfl
    | returns ret => rfl
  | ok key =>
    dsimp only
    rw [DBAgent.findKey, if_neg (getObjectKey_ne_nil keyed), run.mpGetObjects_eq fresh]

/-- In every run in which the texts of the keys are clear and no object of another type that was
read has the literals of the key that is looked up, the object that is found is the one of that type
and key that was read last. -/
theorem found_is_last_loaded {start agent : DBAgent proto} {events : List (CacheEvent proto)}
    (fresh : start.mpGetObjects = fun _ => none) (run : start.Run events agent) (q : Object proto)
    (clear : q.2.KeyClear)
    (apart : ∀ loaded, .store loaded ∈ events →
      loaded.2.KeyClear ∧ (loaded.2.keyLiterals = q.2.keyLiterals → loaded.1 = q.1))
    (obj : Object proto) (found : agent.findObject q = .ok (some obj)) :
    SameKey obj q ∧ ∃ before after, events = before ++ .store obj :: after ∧
      ∀ later, .store later ∈ after → ¬ SameKey later q := by
  obtain ⟨key, keyed, own⟩ := findObject_eq_some found
  rw [run.mpGetObjects_eq fresh, kept_filterMap_iff] at own
  obtain ⟨before, event, after, rfl, change, untouched⟩ := own
  obtain ⟨rfl, loadedKey⟩ := CacheEvent.change_eq_put_iff.mp change
  refine ⟨?_, before, after, rfl, fun later member same => ?_⟩
  · obtain ⟨clearToo, type⟩ := apart obj (by simp)
    have literals := keyLiterals_eq clearToo clear loadedKey keyed
    obtain ⟨-, own, made, -⟩ := getObjectKey_literals.mp keyed
    obtain ⟨desc, loaded⟩ := obj
    obtain ⟨descToo, q⟩ := q
    obtain rfl : desc = descToo := type literals
    exact ⟨rfl, keyValue_eq (literals.trans made) made⟩
  · -- a later object of this key would stand in its place
    have laterKey := same.getObjectKey_eq keyed
    exact untouched _ member (.put key later) (CacheEvent.change_eq_put_iff.mpr ⟨rfl, laterKey⟩) rfl

theorem findObject_created {agent next : DBAgent proto} {q obj : Object proto} {key : Bytes}
    (handled : agent.createObjectFromMysql rsp = .ok (next, obj)) (keyed : getObjectKey obj.2 = .ok key)
    (same : getObjectKey q.2 = .ok key) (some : key.length ≠ 0) : next.findObject q = .ok (Option.some obj) := by
  have stored := DBAgent.keep_change (DBAgent.keep_of_created handled)
  simp [DBAgent.findObject, same, DBAgent.findKey, some, stored, CacheEvent.change, keyed, Except.toOption,
    Change.apply]

def role : Descriptor where
  fields :=
    [{ name := "rid", typeName := "uint64", default := .uint64 0 },
     { name := "name", typeName := "string", default := .string [] }] ++
    [("base", "db.RoleBase"), ("hero", "db.RoleHeroInfo"), ("pack", "db.RolePackage"), ("grow", "db.RoleGrowth"),
      ("stage", "db.RoleStage"), ("sns", "db.RoleSNS"), ("act", "db.RoleActInfo"), ("ext", "db.RoleExt")].map
      fun (name, type) => { name, typeName := "message", default := .message type }
  distinct := by decide +kernel
  nested name :=
    if name = "_PrimaryKey" then some [{ name := "rid", typeName := "uint32", default := .uint32 0 }]
    else if name = "_MaxLength" then some [{ name := "name", typeName := "uint32", default := .uint32 32 }]
    else none
  fullName := "db.Role"

/-- Accounts by their id. The fields are those of `accountRL`. -/
def accountLR : Descriptor where
  fields := accountRL.fields
  distinct := accountRL.distinct
  nested name :=
    if name = "_PrimaryKey" then some [{ name := "gid", typeName := "uint32", default := .uint32 0 }]
    else if name = "_MaxLength" then some [{ name := "openid", typeName := "uint32", default := .uint32 32 }]
    else none
  fullName := "db.AccountLR"

def zoneWire : Protobuf Unit where
  findMessageTypeByName name :=
    if name = "db.Role" then some role else if name = "db.AccountLR" then some accountLR else none
  typeName _ := ""
  defaultInstance _ := ()
  serializeToArray _ := some []
  parseFromArray _ _ := some ()

def zoneStorage : DBAgent zoneWire where
  tableMetas := ((generateMysqlMetas zoneWire ["Role", "AccountLR"]).toOption).get (by decide +kernel)

def accountRow : MysqlResponse where
  ret := mysqlResultOk
  tblname := "AccountLR"
  data :=
    [{ name := "gid", type := .uint64, uData := 5 },
     { name := "platform", type := .uint32, uData := 1 },
     { name := "openid", type := .varchar, buffer := ascii "ann" ++ [0] },
     { name := "time", type := .uint32, uData := 0 }]

def roleFive : Message zoneWire role where
  content i := .singular (if i.val = 0 then some (.uint64 5) else none)
  fits i := by
    change Fin 10 at i
    fin_cases i
    · exact ⟨rfl, fun held own => Option.some.inj own ▸ rfl⟩
    all_goals exact ⟨rfl, nofun⟩

def accountFive : Message zoneWire accountLR where
  content i := .singular (if i.val = 0 then some (.uint64 5) else none)
  fits i := by
    change Fin 4 at i
    fin_cases i
    · exact ⟨rfl, fun held own => Option.some.inj own ▸ rfl⟩
    all_goals exact ⟨rfl, nofun⟩

private theorem accountLR_clear {obj : Message zoneWire accountLR} : obj.KeyClear := by
  intro pk member text held
  have pks : getTypePrimaryKey accountLR = ["gid"] := by decide +kernel
  obtain rfl : pk = "gid" := by simpa [pks] using member
  obtain ⟨i, found, kind⟩ := keyValue_cppType held
  have gid : accountLR.findFieldByName "gid" = some ⟨0, by decide⟩ := by decide +kernel
  cases gid.symm.trans found
  cases kind

theorem found_is_last_loaded_account : ∃ agent obj, zoneStorage.Run [.store obj] agent ∧
    agent.findObject ⟨accountLR, accountFive⟩ = .ok (some obj) ∧ SameKey obj ⟨accountLR, accountFive⟩ := by
  obtain ⟨agent, obj, handled⟩ : ∃ agent obj,
      zoneStorage.createObjectFromMysql accountRow = .ok (agent, ⟨accountLR, obj⟩) := ⟨_, _, rfl⟩
  have observed : (zoneStorage.createObjectFromMysql accountRow).map (fun created => getObjectKey created.2.2) =
      .ok (.ok (ascii "5")) := by
    decide +kernel
  have keyed : getObjectKey obj = .ok (ascii "5") := by
    rw [handled] at observed
    exact Except.ok.inj observed
  have run : zoneStorage.Run [.store ⟨accountLR, obj⟩] agent := DBAgent.Run.start.select handled
  have found : agent.findObject ⟨accountLR, accountFive⟩ = .ok (some ⟨accountLR, obj⟩) :=
    findObject_created handled keyed (by decide +kernel) (by decide)
  refine ⟨agent, ⟨accountLR, obj⟩, run, found, ?_⟩
  refine (found_is_last_loaded rfl run ⟨accountLR, accountFive⟩ accountLR_clear ?_ _ found).1
  intro loaded member
  obtain rfl : loaded = ⟨accountLR, obj⟩ := by simpa using member
  exact ⟨accountLR_clear, fun _ => rfl⟩

/-- The account 5 is read; the lookup of the role 5 returns it. -/
theorem account_found_as_role :
    ∃ agent obj, zoneStorage.Run [.store obj] agent ∧ obj.1.fullName = "db.AccountLR" ∧
    agent.findObject ⟨role, roleFive⟩ = .ok (some obj) ∧ ¬ SameKey obj ⟨role, roleFive⟩ := by
  have observed : (zoneStorage.createObjectFromMysql accountRow).map
      (fun created => (created.2.1.fullName, getObjectKey created.2.2)) =
        .ok ("db.AccountLR", .ok (ascii "5")) := by
    decide +kernel
  obtain ⟨⟨agent, obj⟩, handled, seen⟩ := map_eq_ok.mp observed
  obtain ⟨type, keyed⟩ := Prod.ext_iff.mp seen
  refine ⟨agent, obj, DBAgent.Run.start.select handled, type,
    findObject_created handled keyed (by decide +kernel) (by decide), fun same => ?_⟩
  have roleType : obj.1.fullName = "db.Role" := congrArg Descriptor.fullName same.1
  exact absurd (type.symm.trans roleType) (by decide)

end Playground.Datacenter
