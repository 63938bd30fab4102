import Playground.Datacenter.ObjectCache
import Playground.Redis.KeyOrder

/-! What the keys of the `CacheAgent` tell apart. -/

namespace Playground.Redis

open Framing Record Datacenter Sql

variable {Msg : Type} {proto : Protobuf Msg} {desc : Descriptor} {serializer : CacheSerializer proto}

/-- `GetTypeName` is the name of the message type, an identifier. -/
structure CacheSerializer.Named (serializer : CacheSerializer proto) (name : Descriptor → Bytes) : Prop where
  typeName : ∀ obj, serializer.getTypeName obj = name obj.1
  noColon : ∀ desc, 58 ∉ name desc

namespace CacheAgent

private theorem getObjectKeyLoop_eq (obj : Message proto desc) (pks : List String) (done : Nat) (key : Bytes) :
    getObjectKeyLoop obj pks done key = keyLoop (ascii "&") (fun _ => cacheKeyText) obj pks done key :=
  eq_keyLoop (fun _ _ => rfl) (fun _ _ _ _ => rfl) pks done key

theorem getObjectKey_ok_iff {obj : Message proto desc} :
    getObjectKey serializer ⟨desc, obj⟩ = .ok key ↔ getTypePrimaryKey desc ≠ [] ∧
      ∃ texts, (getTypePrimaryKey desc).mapM (fun pk => (obj.keyValue pk).bind cacheKeyText) = some texts ∧
        key = serializer.getTypeName ⟨desc, obj⟩ ++ ascii ":" ++ (ascii "&").intercalate texts := by
  unfold getObjectKey
  dsimp only
  split
  · next empty => simp [List.isEmpty_iff.mp empty]
  · next keyed =>
    have keyed : getTypePrimaryKey desc ≠ [] := fun empty => keyed (empty ▸ rfl)
    rw [getObjectKeyLoop_eq, keyLoop_ok_iff]
    simp [keyed]

end CacheAgent

def keyedType : CppType → Bool
  | .int32 | .int64 | .uint32 | .uint64 | .enum | .string => true
  | .double | .float | .bool | .message => false

private theorem cacheKeyText_isSome (value : Value Msg) : (cacheKeyText value).isSome = keyedType value.cppType := by
  cases value <;> rfl

/-- All primary keys are single fields of a type that has a text. -/
def CacheKeyed (desc : Descriptor) : Prop :=
  getTypePrimaryKey desc ≠ [] ∧ ∀ pk ∈ getTypePrimaryKey desc, ∃ i, desc.findFieldByName pk = some i ∧
    (desc.field i).repeated = false ∧ keyedType (desc.field i).cppType

/-- No primary key is a text. -/
def TextFree (desc : Descriptor) : Prop :=
  ∀ pk ∈ getTypePrimaryKey desc, ∀ i, desc.findFieldByName pk = some i → (desc.field i).cppType ≠ .string

theorem cacheKeyed_of_key
    (keyed : CacheAgent.getObjectKey serializer ⟨desc, obj⟩ = .ok key) : CacheKeyed desc := by
  obtain ⟨some, texts, written, -⟩ := CacheAgent.getObjectKey_ok_iff.mp keyed
  refine ⟨some, fun pk member => ?_⟩
  obtain ⟨text, made⟩ := exists_of_mapM written member
  obtain ⟨value, held, shown⟩ := Option.bind_eq_some_iff.mp made
  obtain ⟨i, found, own⟩ := Option.bind_eq_some_iff.mp held
  have fits := obj.fits i
  rw [Content.held_eq_some.mp own] at fits
  have kind : value.cppType = (desc.field i).cppType := FieldDescriptor.admits_cppType (fits.2 value rfl)
  refine ⟨i, found, fits.1, ?_⟩
  rw [← kind, ← cacheKeyText_isSome, shown]
  rfl

private theorem texts_of_textFree (free : TextFree desc) {obj : Message proto desc}
    (written : (getTypePrimaryKey desc).mapM (fun pk => (obj.keyValue pk).bind cacheKeyText) = some texts) :
    ∃ literals, obj.keyLiterals = some literals ∧ texts = literals.map Literal.write ∧
      ∀ literal ∈ literals, literal.Unquoted := by
  have notText {pk : String} (member : pk ∈ getTypePrimaryKey desc) (text : Bytes) :
      obj.keyValue pk ≠ some (.string text) := by
    intro held
    obtain ⟨i, found, kind⟩ := keyValue_cppType held
    exact free pk member i found kind.symm
  have shown : ∀ pk ∈ getTypePrimaryKey desc, (obj.keyValue pk).bind cacheKeyText =
      ((obj.keyValue pk).bind keyLiteral).map Literal.write := by
    intro pk member
    cases held : obj.keyValue pk with
    | none => rfl
    | some value =>
      cases value with
      | string text => exact absurd held (notText member text)
      | _ => rfl
  rw [mapM_congr shown, mapM_map_eq_some] at written
  obtain ⟨literals, own, rfl⟩ := written
  refine ⟨literals, own, rfl, (forall_mem_mapM own).mpr fun pk member literal made => ?_⟩
  cases literal with
  | number number => trivial
  | text text =>
    obtain ⟨value, held, keyed⟩ := Option.bind_eq_some_iff.mp made
    exact absurd (keyLiteral_text keyed ▸ held) (notText member text)

theorem literals_of_key (named : serializer.Named name)
    (free : TextFree desc) (freeToo : TextFree descToo) {one : Message proto desc} {other : Message proto descToo}
    (keyed : CacheAgent.getObjectKey serializer ⟨desc, one⟩ = .ok key)
    (same : CacheAgent.getObjectKey serializer ⟨descToo, other⟩ = .ok key) :
    name desc = name descToo ∧
      (getTypePrimaryKey desc).length = (getTypePrimaryKey descToo).length ∧
      ∃ literals, one.keyLiterals = some literals ∧ other.keyLiterals = some literals := by
  obtain ⟨-, texts, written, rfl⟩ := CacheAgent.getObjectKey_ok_iff.mp keyed
  obtain ⟨-, textsToo, writtenToo, equal⟩ := CacheAgent.getObjectKey_ok_iff.mp same
  rw [named.typeName, named.typeName] at equal
  obtain ⟨names, joined⟩ := append_stop_inj (named.noColon desc) (named.noColon descToo)
    (by simpa [ascii] using equal)
  obtain ⟨literals, own, rfl, unquoted⟩ := texts_of_textFree free written
  obtain ⟨literalsToo, ownToo, rfl, unquotedToo⟩ := texts_of_textFree freeToo writtenToo
  have separates (rest : Text) : Separates (ascii "&" ++ rest) := by
    intro byte head
    obtain rfl : (38 : UInt8) = byte := Option.some.inj head
    decide
  obtain rfl := joined_inj (by decide) separates unquoted unquotedToo joined
  exact ⟨names, (length_of_mapM own).trans (length_of_mapM ownToo).symm, literals, own, ownToo⟩

def sampleValue (text : Bytes) : CppType → Option (Value Msg)
  | .int32 => some (.int32 0)
  | .int64 => some (.int64 0)
  | .uint32 => some (.uint32 0)
  | .uint64 => some (.uint64 0)
  | .enum => some (.enum 0)
  | .string => some (.string text)
  | .double | .float | .bool | .message => none

private theorem sampleValue_admitted {field : FieldDescriptor}
    (own : sampleValue text field.cppType = some value) : field.admits proto value := by
  cases kind : field.cppType <;> rw [kind] at own <;> cases own <;> exact decide_eq_true kind.symm

def sample (proto : Protobuf Msg) (desc : Descriptor) (text : Bytes) : Message proto desc where
  content i :=
    if (desc.field i).repeated then .repeated [] else .singular (sampleValue text (desc.field i).cppType)
  fits i := by
    split
    · next many => exact ⟨many, nofun⟩
    · next one => exact ⟨Bool.eq_false_of_not_eq_true one, fun held own => sampleValue_admitted own⟩

theorem sample_keyValue (found : desc.findFieldByName pk = some i)
    (single : (desc.field i).repeated = false) :
    (sample proto desc text).keyValue pk = sampleValue text (desc.field i).cppType := by
  have content : (sample proto desc text).content i = .singular (sampleValue text (desc.field i).cppType) :=
    if_neg (by rw [single]; exact Bool.false_ne_true)
  simp [Message.keyValue, found, content, Content.held]

/-- What is written for a field of the sample if nothing is seen of the text. -/
def sampleText (desc : Descriptor) (pk : String) : Bytes :=
  match desc.findFieldByName pk with
  | none => []
  | some i => if (desc.field i).cppType = .string then [] else ascii "0"

private theorem cacheKeyText_sample {text : Bytes} (hidden : text.takeWhile (· ≠ 0) = [])
    (keyed : keyedType kind) :
    (sampleValue text kind : Option (Value Msg)).bind cacheKeyText =
      some (if kind = .string then [] else ascii "0") := by
  cases kind with
  | string => exact congrArg (fun seen : Bytes => some (seen.take 511)) hidden
  | double | float | bool | message => cases keyed
  | _ => rfl

theorem sample_key {text : Bytes} (hidden : text.takeWhile (· ≠ 0) = []) (keyed : CacheKeyed desc) :
    CacheAgent.getObjectKey serializer ⟨desc, sample proto desc text⟩ =
      .ok (serializer.getTypeName ⟨desc, sample proto desc text⟩ ++ ascii ":" ++
        (ascii "&").intercalate ((getTypePrimaryKey desc).map (sampleText desc))) := by
  refine CacheAgent.getObjectKey_ok_iff.mpr ⟨keyed.1, _, ?_, rfl⟩
  have written : ∀ pk ∈ getTypePrimaryKey desc,
      ((sample proto desc text).keyValue pk).bind cacheKeyText = some (sampleText desc pk) := by
    intro pk member
    obtain ⟨i, found, single, kind⟩ := keyed.2 pk member
    rw [sample_keyValue found single, cacheKeyText_sample hidden kind, sampleText, found]
  rw [mapM_congr written]
  exact List.mapM_pure

theorem sample_text_hidden (named : serializer.Named name) (keyed : CacheKeyed desc) :
    ∃ key, CacheAgent.getObjectKey serializer ⟨desc, sample proto desc []⟩ = .ok key ∧
      CacheAgent.getObjectKey serializer ⟨desc, sample proto desc [0]⟩ = .ok key := by
  refine ⟨_, sample_key rfl keyed, (sample_key rfl keyed).trans ?_⟩
  rw [named.typeName, named.typeName]

private theorem sample_numbers (named : serializer.Named name)
    (keyed : CacheKeyed desc) (keyedToo : CacheKeyed other) (free : TextFree desc) (freeToo : TextFree other)
    (names : name desc = name other)
    (count : (getTypePrimaryKey desc).length = (getTypePrimaryKey other).length) :
    ∃ key, CacheAgent.getObjectKey serializer ⟨desc, sample proto desc []⟩ = .ok key ∧
      CacheAgent.getObjectKey serializer ⟨other, sample proto other []⟩ = .ok key := by
  have zeros {desc : Descriptor} (keyed : CacheKeyed desc) (free : TextFree desc) :
      (getTypePrimaryKey desc).map (sampleText desc) =
        List.replicate (getTypePrimaryKey desc).length (ascii "0") := by
    rw [← List.map_const']
    refine List.map_congr_left fun pk member => ?_
    obtain ⟨i, found, -, -⟩ := keyed.2 pk member
    rw [sampleText, found]
    exact if_neg (free pk member i found)
  refine ⟨_, sample_key rfl keyed, (sample_key rfl keyedToo).trans ?_⟩
  rw [named.typeName, named.typeName, zeros keyed free, zeros keyedToo freeToo, names, count]

/-- The keys of objects of these types identify them, and an update of one object leaves the values
of the others. -/
structure KeysIdentify (serializer : CacheSerializer proto) (types : Set Descriptor) : Prop where
  same : ∀ one other key, one.1 ∈ types → other.1 ∈ types → CacheAgent.getObjectKey serializer one = .ok key →
    CacheAgent.getObjectKey serializer other = .ok key → SameKey one other
  kept : ∀ one other key cb ccb command value, one.1 ∈ types → other.1 ∈ types → ¬ SameKey one other →
    CacheAgent.update serializer one cb = .ok (ccb, command) →
    CacheAgent.getObjectKey serializer other = .ok key → command.apply key value = value

theorem KeysIdentify.of_same (same : ∀ one other key, one.1 ∈ types → other.1 ∈ types →
      CacheAgent.getObjectKey serializer one = .ok key →
      CacheAgent.getObjectKey serializer other = .ok key → SameKey one other) :
    KeysIdentify serializer types where
  same := same
  kept one other key cb ccb command value inside insideToo differ updated keyed := by
    obtain ⟨own, buffer, ownKey, -, rfl⟩ := CacheAgent.update_command updated
    refine RedisCommand.apply_other fun equal => differ (same one other key inside insideToo ?_ keyed)
    rw [ownKey, Option.some.inj equal]

/-- The keys of message types identify their objects exactly if no type has a text in its primary
key, and no two types of one name have primary keys of the same length. -/
theorem cache_keys_identify_iff {name : Descriptor → Bytes} (named : serializer.Named name)
    (types : Set Descriptor) :
    KeysIdentify serializer types ↔
      (∀ desc ∈ types, CacheKeyed desc → TextFree desc) ∧
      ∀ desc ∈ types, ∀ other ∈ types, CacheKeyed desc → CacheKeyed other → name desc = name other →
        (getTypePrimaryKey desc).length = (getTypePrimaryKey other).length → desc = other := by
  constructor
  · intro identify
    have free : ∀ desc ∈ types, CacheKeyed desc → TextFree desc := by
      intro desc inside keyed pk member i found text
      obtain ⟨key, first, second⟩ := sample_text_hidden named keyed
      obtain ⟨-, values⟩ := identify.same _ _ key inside inside first second
      obtain ⟨j, again, single, -⟩ := keyed.2 pk member
      cases found.symm.trans again
      have equal := values pk member
      rw [sample_keyValue found single, sample_keyValue found single, text] at equal
      cases Option.some.inj equal
    refine ⟨free, fun desc inside other insideToo keyed keyedToo names count => ?_⟩
    obtain ⟨key, first, second⟩ := sample_numbers named keyed keyedToo (free desc inside keyed)
      (free other insideToo keyedToo) names count
    exact (identify.same _ _ key inside insideToo first second).1
  · rintro ⟨free, apart⟩
    refine KeysIdentify.of_same fun ⟨desc, one⟩ ⟨descToo, other⟩ key inside insideToo keyed same => ?_
    have kind := cacheKeyed_of_key keyed
    have kindToo := cacheKeyed_of_key same
    obtain ⟨names, count, literals, own, ownToo⟩ :=
      literals_of_key named (free desc inside kind) (free descToo insideToo kindToo) keyed same
    obtain rfl := apart desc inside descToo insideToo kind kindToo names count
    exact ⟨rfl, keyValue_eq own ownToo⟩

def zoneName (desc : Descriptor) : Bytes := ascii (if desc.fullName = "db.Role" then "Role" else "AccountLR")

def zoneSerializer : CacheSerializer zoneWire where
  getTypeName obj := zoneName obj.1
  pack _ := some []

private theorem zoneSerializer_named : zoneSerializer.Named zoneName where
  typeName _ := rfl
  noColon desc := by
    unfold zoneName
    split
    · decide
    · decide

private theorem textFree_single (pks : getTypePrimaryKey desc = [pk])
    (found : desc.findFieldByName pk = some i) (number : (desc.field i).cppType ≠ .string) : TextFree desc := by
  intro own member j again
  obtain rfl : own = pk := by simpa [pks] using member
  exact Option.some.inj (found.symm.trans again) ▸ number

theorem cache_keys_identify_zone : KeysIdentify zoneSerializer {role, accountLR} := by
  have roleFree : TextFree role :=
    textFree_single (show getTypePrimaryKey role = ["rid"] by decide +kernel)
      (show role.findFieldByName "rid" = some ⟨0, by decide⟩ by decide +kernel) (by decide)
  have accountFree : TextFree accountLR :=
    textFree_single (show getTypePrimaryKey accountLR = ["gid"] by decide +kernel)
      (show accountLR.findFieldByName "gid" = some ⟨0, by decide⟩ by decide +kernel) (by decide)
  refine (cache_keys_identify_iff zoneSerializer_named {role, accountLR}).mpr ⟨?_, ?_⟩
  · rintro desc (rfl | rfl) -
    · exact roleFree
    · exact accountFree
  · have differ : zoneName role ≠ zoneName accountLR := by decide +kernel
    rintro desc (rfl | rfl) other (rfl | rfl) - - names -
    · rfl
    · exact absurd names differ
    · exact absurd names.symm differ
    · rfl

def accountSerializer : CacheSerializer accountWire where
  getTypeName _ := ascii "AccountRL"
  pack _ := some []

/-- Two open ids that differ behind a terminator. -/
theorem account_keys_collide :
    CacheAgent.getObjectKey accountSerializer ⟨accountRL, account (ascii "ann")⟩ = .ok (ascii "AccountRL:1&ann") ∧
      CacheAgent.getObjectKey accountSerializer ⟨accountRL, account (ascii "ann" ++ [0, 120])⟩ =
        .ok (ascii "AccountRL:1&ann") ∧
      ¬ SameKey (⟨accountRL, account (ascii "ann")⟩ : Object accountWire)
        ⟨accountRL, account (ascii "ann" ++ [0, 120])⟩ ∧
      ¬ KeysIdentify accountSerializer {accountRL} := by
  have first : CacheAgent.getObjectKey accountSerializer ⟨accountRL, account (ascii "ann")⟩ =
      .ok (ascii "AccountRL:1&ann") := by
    decide +kernel
  have second : CacheAgent.getObjectKey accountSerializer ⟨accountRL, account (ascii "ann" ++ [0, 120])⟩ =
      .ok (ascii "AccountRL:1&ann") := by
    decide +kernel
  have differ : ¬ SameKey (⟨accountRL, account (ascii "ann")⟩ : Object accountWire)
      ⟨accountRL, account (ascii "ann" ++ [0, 120])⟩ := by
    rintro ⟨-, values⟩
    have member : "openid" ∈ getTypePrimaryKey accountRL := by decide +kernel
    have other : (account (ascii "ann")).keyValue "openid" ≠
        (account (ascii "ann" ++ [0, 120])).keyValue "openid" := by
      decide +kernel
    exact other (values "openid" member)
  exact ⟨first, second, differ, fun identify => differ (identify.same _ _ _ rfl rfl first second)⟩

end Playground.Redis
