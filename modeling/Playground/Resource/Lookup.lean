import Mathlib.Data.Prod.Lex
import Playground.Record.Fill
import Playground.Resource.Reload

/-! Lookups in loaded tables. -/

namespace Playground.Resource

open Framing Record Datacenter Ordered

variable {Msg : Type} {proto : Protobuf Msg} {library : ResLibrary proto} {dir : ResDataDir}
variable {agent : ResTableAgent proto}

/-- The types of rows: one or two primary keys, each a field of type `uint32`. -/
structure RowType (desc : Descriptor) : Prop where
  count : (getTypePrimaryKey desc).length = 1 ∨ (getTypePrimaryKey desc).length = 2
  field : ∀ pk ∈ getTypePrimaryKey desc, ∃ i, desc.findFieldByName pk = some i ∧
    (desc.field i).repeated = false ∧ (desc.field i).cppType = .uint32

def keyNumber (obj : Object proto) (pk : String) : BitVec 32 :=
  match getObjectFieldU32 obj pk 0 with
  | .ok bits => bits
  | .error _ => 0

def keyNumbers (obj : Object proto) :
    List Nat := (getTypePrimaryKey obj.1).map fun pk => (keyNumber obj pk).toNat

/-- The key pair of a row, with 0 before a single key. -/
def keyPair (obj : Object proto) : ℕ ×ₗ ℕ :=
  match keyNumbers obj with
  | [second] => toLex (0, second)
  | [first, second] => toLex (first, second)
  | _ => toLex (0, 0)

def pack (pair : ℕ ×ₗ ℕ) : Nat := (ofLex pair).1 * 2 ^ 32 + (ofLex pair).2

def Small (pair : ℕ ×ₗ ℕ) : Prop := (ofLex pair).1 < 2 ^ 32 ∧ (ofLex pair).2 < 2 ^ 32

theorem pack_lt_pack (small : Small one) (smallToo : Small other) :
    pack one < pack other ↔ one < other := by
  obtain ⟨first, second⟩ := small
  obtain ⟨firstToo, secondToo⟩ := smallToo
  rw [← toLex_ofLex one, ← toLex_ofLex other, Prod.Lex.toLex_lt_toLex, pack, pack]
  simp only [ofLex_toLex]
  omega

theorem pack_le_pack (small : Small one) (smallToo : Small other) :
    pack one ≤ pack other ↔ one ≤ other := by
  rw [← not_lt, ← not_lt, pack_lt_pack smallToo small]

theorem pack_inj (small : Small one) (smallToo : Small other) :
    pack one = pack other ↔ one = other := by
  rw [le_antisymm_iff, le_antisymm_iff, pack_le_pack small smallToo, pack_le_pack smallToo small]

private theorem get_uint32 {desc : Descriptor} (obj : Message proto desc) {i : desc.Index}
    (single : (desc.field i).repeated = false) (kind : (desc.field i).cppType = .uint32) :
    ∃ bits, obj.get i = .ok (.uint32 bits) := by
  have fits := obj.fits i
  unfold Message.get
  cases content : obj.content i with
  | repeated values =>
    rw [content] at fits
    cases single.symm.trans fits.1
  | singular value =>
    rw [content] at fits
    cases value with
    | none =>
      unfold FieldDescriptor.cppType at kind
      unfold FieldDescriptor.unset
      cases default : (desc.field i).default with
      | uint32 bits => exact ⟨bits, rfl⟩
      | _ => rw [default] at kind; cases kind
    | some value =>
      have own : value.cppType = .uint32 := (FieldDescriptor.admits_cppType (fits.2 value rfl)).trans kind
      cases value with
      | uint32 bits => exact ⟨bits, rfl⟩
      | _ => cases own

private theorem getObjectFieldU32_ok {obj : Object proto} (type : RowType obj.1) {pk : String}
    (member : pk ∈ getTypePrimaryKey obj.1) (val : BitVec 32) :
    getObjectFieldU32 obj pk val = .ok (keyNumber obj pk) := by
  obtain ⟨i, found, single, kind⟩ := type.field pk member
  obtain ⟨bits, read⟩ := get_uint32 obj.2 single kind
  have own (val : BitVec 32) : getObjectFieldU32 obj pk val = .ok bits := by
    rw [getObjectFieldU32, found]
    dsimp only
    rw [read]
    rfl
  rw [own, keyNumber, own]

theorem RowType.keys (type : RowType desc) :
    (∃ second, getTypePrimaryKey desc = [second]) ∨ ∃ first second, getTypePrimaryKey desc = [first, second] :=
  type.count.imp List.length_eq_one_iff.mp List.length_eq_two.mp

theorem keyPair_small (obj : Object proto) : Small (keyPair obj) := by
  have zero : 0 < 2 ^ 32 := by decide
  have small (pk : String) : (keyNumber obj pk).toNat < 2 ^ 32 := (keyNumber obj pk).isLt
  unfold keyPair keyNumbers
  split
  · next second single =>
    obtain ⟨pk, -, rfl⟩ := List.map_eq_singleton_iff.mp single
    exact ⟨zero, small pk⟩
  · next first second both =>
    obtain ⟨one, rest, -, rfl, more⟩ := List.map_eq_cons_iff.mp both
    obtain ⟨other, -, rfl⟩ := List.map_eq_singleton_iff.mp more
    exact ⟨small one, small other⟩
  · exact ⟨zero, zero⟩

private theorem shift_or (small : first < 2 ^ 32) (smallToo : second < 2 ^ 32) :
    (0 <<< 32 % 2 ^ 64 ||| first) <<< 32 % 2 ^ 64 ||| second = first * 2 ^ 32 + second := by
  have single : 0 <<< 32 % 2 ^ 64 ||| first = first := by simp
  have shifted : first <<< 32 % 2 ^ 64 = first <<< 32 := by
    refine Nat.mod_eq_of_lt ?_
    rw [Nat.shiftLeft_eq]
    omega
  rw [single, shifted, ← Nat.shiftLeft_add_eq_or_of_lt smallToo, Nat.shiftLeft_eq]

theorem getResTableEntryKey_eq (library : ResLibrary proto) {obj : Object proto} (type : RowType obj.1) :
    library.getResTableEntryKey obj = .ok (pack (keyPair obj)) := by
  have small (pk : String) : (keyNumber obj pk).toNat < 2 ^ 32 := (keyNumber obj pk).isLt
  unfold ResLibrary.getResTableEntryKey keyPair keyNumbers
  rcases type.keys with ⟨second, pks⟩ | ⟨first, second, pks⟩
  · have read := getObjectFieldU32_ok type (pks ▸ List.mem_cons_self : second ∈ getTypePrimaryKey obj.1)
    simp [pks, entryKeyLoop, read, bind, Except.bind, pack]
  · have read := getObjectFieldU32_ok type (pks ▸ List.mem_cons_self : first ∈ getTypePrimaryKey obj.1)
    have readToo := getObjectFieldU32_ok type
      (pks ▸ List.mem_cons_of_mem _ List.mem_cons_self : second ∈ getTypePrimaryKey obj.1)
    have packed := shift_or (small first) (small second)
    simp only [pks, entryKeyLoop, read, readToo, bind, Except.bind, List.length_cons, List.length_nil, gt_iff_lt,
      packed]
    rfl

theorem keyPair_eq_iff {row q : Object proto} (same : row.1 = q.1) (type : RowType q.1) :
    keyPair row = keyPair q ↔ keyNumbers row = keyNumbers q := by
  rcases type.keys with ⟨second, pks⟩ | ⟨first, second, pks⟩
  · simp [keyPair, keyNumbers, same, pks]
  · simp [keyPair, keyNumbers, same, pks]

def rowKey (row : Object proto) : Nat := pack (keyPair row)

def ResDataDir.rows (library : ResLibrary proto) (dir : ResDataDir) (file : String) :
    Option (List (Object proto)) :=
  match library.unPack (metaNameSpace ++ "." ++ library.stem file) (dir.content file) with
  | some (.ok rows) => some rows
  | _ => none

/-- The stems differ, `Read` delivers the files whole, and the rows of each are of one type. -/
structure ResDataDir.Tables (library : ResLibrary proto) (dir : ResDataDir) (rowType : String → Descriptor)
    (files : List String) : Prop where
  distinct : (files.map library.stem).Nodup
  whole : ∀ file ∈ files, ((dir.content file).length : Int) = dir.size file
  type : ∀ file ∈ files, RowType (rowType file)
  typed : ∀ file ∈ files, ∀ rows, dir.rows library file = some rows → ∀ row ∈ rows, row.1 = rowType file

namespace ResTableAgent

variable {agent : ResTableAgent proto}

theorem loadRows_indexes {rows done : List (Object proto)}
    (typed : ∀ row ∈ rows, RowType row.1) (indexes : Indexes table rowKey done)
    (loaded : loadRows library rows table = .ok (true, next)) : Indexes next rowKey (done ++ rows) := by
  induction rows generalizing table done with
  | nil =>
    obtain ⟨-, rfl⟩ := Prod.ext_iff.mp (Except.ok.inj loaded)
    simpa using indexes
  | cons row rows ih =>
    obtain ⟨type, rest⟩ := List.forall_mem_cons.mp typed
    rw [loadRows, getResTableEntryKey_eq library type] at loaded
    change (if table[rowKey row]?.isSome then _ else _) = _ at loaded
    split at loaded
    · cases (Prod.ext_iff.mp (Except.ok.inj loaded)).1
    · next absent =>
      have fresh : table[rowKey row]? = none := Option.not_isSome_iff_eq_none.mp absent
      simpa using ih rest (indexes.insert fresh) loaded

private theorem loadFiles_cons_ok
    (returns : loadFiles library dir (file :: files) buffer agent = .ok (0, next)) :
    ∃ rows table,
      library.unPack (metaNameSpace ++ "." ++ library.stem file)
          ((dir.read file buffer).take (dir.size file).toNat) = some (.ok rows) ∧
        loadRows library rows ((agent.mpAllNameTables (library.stem file)).getD ∅) = .ok (true, table) ∧
        loadFiles library dir files (dir.read file buffer) { agent with
          mpAllNameTables := Function.update agent.mpAllNameTables (library.stem file) (some table) } =
            .ok (0, next) := by
  rw [loadFiles] at returns
  split at returns
  · cases (Prod.ext_iff.mp (Except.ok.inj returns)).1
  split at returns
  · cases returns
  dsimp only at returns
  split at returns
  · cases (Prod.ext_iff.mp (Except.ok.inj returns)).1
  · next list unpacked =>
    obtain ⟨rows, rfl, load⟩ := bind_eq_ok.mp returns
    obtain ⟨⟨whole, table⟩, loaded, rest⟩ := bind_eq_ok.mp load
    split at rest
    · next all =>
      obtain rfl : whole = true := all
      exact ⟨rows, table, unpacked, loaded, rest⟩
    · cases (Prod.ext_iff.mp (Except.ok.inj rest)).1

private theorem read_whole (buffer : Bytes) (whole : ((dir.content file).length : Int) = dir.size file) :
    (dir.read file buffer).take (dir.size file).toNat = dir.content file := by
  have size : (dir.size file).toNat = (dir.content file).length := by omega
  rw [ResDataDir.read, size, List.take_length]
  exact List.take_left

theorem loadFiles_tables {rowType : String → Descriptor} {files : List String}
    (tables : dir.Tables library rowType files) {next : ResTableAgent proto}
    (fresh : ∀ file ∈ files, agent.mpAllNameTables (library.stem file) = none)
    (returns : loadFiles library dir files buffer agent = .ok (0, next)) :
    next.mpNameCacheTable = agent.mpNameCacheTable ∧
      (∀ name ∉ files.map library.stem, next.mpAllNameTables name = agent.mpAllNameTables name) ∧
      ∀ file ∈ files, ∃ rows table, dir.rows library file = some rows ∧
        next.mpAllNameTables (library.stem file) = some table ∧ Indexes table rowKey rows := by
  induction files generalizing buffer agent with
  | nil =>
    obtain ⟨-, rfl⟩ := Prod.ext_iff.mp (Except.ok.inj returns)
    exact ⟨rfl, fun _ _ => rfl, nofun⟩
  | cons file files ih =>
    obtain ⟨unlike, distinct⟩ := List.nodup_cons.mp tables.distinct
    obtain ⟨wholeHere, wholeRest⟩ := List.forall_mem_cons.mp tables.whole
    obtain ⟨typeHere, typeRest⟩ := List.forall_mem_cons.mp tables.type
    obtain ⟨typedHere, typedRest⟩ := List.forall_mem_cons.mp tables.typed
    obtain ⟨freshHere, freshRest⟩ := List.forall_mem_cons.mp fresh
    obtain ⟨rows, table, unpacked, loaded, rest⟩ := loadFiles_cons_ok returns
    have own : dir.rows library file = some rows := by
      rw [read_whole buffer wholeHere] at unpacked
      rw [ResDataDir.rows, unpacked]
    have typed (row : Object proto) (member : row ∈ rows) : RowType row.1 :=
      typedHere rows own row member ▸ typeHere
    have indexes : Indexes table rowKey rows := by
      rw [freshHere] at loaded
      exact loadRows_indexes typed (indexes_empty rowKey) loaded
    have elsewhere (other : String) (member : other ∈ files) : library.stem other ≠ library.stem file :=
      fun same => unlike (same ▸ List.mem_map_of_mem member)
    obtain ⟨cache, others, held⟩ := ih ⟨distinct, wholeRest, typeRest, typedRest⟩
      (fun other member => (Function.update_of_ne (elsewhere other member) _ _).trans (freshRest other member))
      rest
    refine ⟨cache, fun name absent => ?_, fun other member => ?_⟩
    · obtain ⟨notHere, notLater⟩ : name ≠ library.stem file ∧ name ∉ files.map library.stem := by
        simpa using absent
      exact (others name notLater).trans (Function.update_of_ne notHere _ _)
    · rcases List.mem_cons.mp member with rfl | later
      · exact ⟨rows, table, own, (others _ unlike).trans (Function.update_self ..), indexes⟩
      · exact held other later

/-- The cache of `GetAll` holds what the tables hold. -/
def Consistent (agent : ResTableAgent proto) : Prop :=
  ∀ name vecObj, agent.mpNameCacheTable name = some vecObj → vecObj = agent.rows name

theorem getAll_eq (consistent : agent.Consistent) (name : String) :
    (agent.getAll name).1 = agent.rows name := by
  unfold getAll
  split
  · next vecObj cached => exact consistent name vecObj cached
  · rfl

private theorem getAll_tables (agent : ResTableAgent proto) (name : String) :
    (agent.getAll name).2.mpAllNameTables = agent.mpAllNameTables := by
  unfold getAll
  split
  · rfl
  · rfl

private theorem getAll_consistent (consistent : agent.Consistent) (name : String) :
    (agent.getAll name).2.Consistent := by
  unfold getAll
  split
  · exact consistent
  · intro other vecObj cached
    by_cases same : other = name
    · subst same
      have own : some (agent.rows other) = some vecObj :=
        (Function.update_self other (some (agent.rows other)) agent.mpNameCacheTable).symm.trans cached
      exact (Option.some.inj own).symm
    · exact consistent other vecObj ((Function.update_of_ne same _ _).symm.trans cached)

end ResTableAgent

theorem Serves.loaded_tables {files : List String} (listed : dir.files = some files)
    (tables : dir.Tables library rowType files)
    (serves : Serves library dir agent) :
    agent.Consistent ∧ (∀ name ∉ files.map library.stem, agent.mpAllNameTables name = none) ∧
      ∀ file ∈ files, ∃ rows table, dir.rows library file = some rows ∧
        agent.mpAllNameTables (library.stem file) = some table ∧ Indexes table rowKey rows := by
  induction serves with
  | loaded returns =>
    rw [ResTableAgent.reLoad, listed] at returns
    dsimp only at returns
    split at returns
    · obtain ⟨cache, others, held⟩ := ResTableAgent.loadFiles_tables tables (fun _ _ => rfl) returns
      refine ⟨fun name vecObj cached => ?_, others, held⟩
      rw [cache] at cached
      cases cached
    · cases (Prod.ext_iff.mp (Except.ok.inj returns)).1
  | getAll name serves ih =>
    obtain ⟨consistent, others, held⟩ := ih
    rw [ResTableAgent.getAll_tables]
    exact ⟨ResTableAgent.getAll_consistent consistent name, others, held⟩
  | random name pick serves ih =>
    obtain ⟨consistent, others, held⟩ := ih
    change (ResTableAgent.getAll _ name).2.Consistent ∧ _
    rw [show (ResTableAgent.random _ name pick).2.mpAllNameTables = _ from ResTableAgent.getAll_tables _ name]
    exact ⟨ResTableAgent.getAll_consistent consistent name, others, held⟩

/-- The lookups in a table answer from these rows, for all keys of rows of the type. -/
structure Answers (library : ResLibrary proto) (agent : ResTableAgent proto) (name : String) (type : Descriptor)
    (rows : List (Object proto)) : Prop where
  find : ∀ q : Object proto, q.1 = type → ∃ answer, agent.find library name q = .ok answer ∧
    ∀ row, answer = some row ↔ row ∈ rows ∧ keyNumbers row = keyNumbers q
  lowerBound : ∀ q : Object proto, q.1 = type → ∃ answer, agent.lowerBound library name q = .ok answer ∧
    ∀ row, answer = some row ↔ row ∈ rows ∧ keyPair q ≤ keyPair row ∧
      ∀ other ∈ rows, keyPair q ≤ keyPair other → keyPair row ≤ keyPair other
  upperBound : ∀ q : Object proto, q.1 = type → ∃ answer, agent.upperBound library name q = .ok answer ∧
    ∀ row, answer = some row ↔ row ∈ rows ∧ keyPair q < keyPair row ∧
      ∀ other ∈ rows, keyPair q < keyPair other → keyPair row ≤ keyPair other
  getAll : (agent.getAll name).1.Perm rows ∧
    (agent.getAll name).1.Pairwise fun one other => keyPair one < keyPair other

private theorem rowKey_le : rowKey one ≤ rowKey other ↔ keyPair one ≤ keyPair other :=
  pack_le_pack (keyPair_small one) (keyPair_small other)

private theorem rowKey_lt : rowKey one < rowKey other ↔ keyPair one < keyPair other :=
  pack_lt_pack (keyPair_small one) (keyPair_small other)

private theorem rowKey_eq : rowKey one = rowKey other ↔ keyPair one = keyPair other :=
  pack_inj (keyPair_small one) (keyPair_small other)

private theorem search_eq
    (held : agent.mpAllNameTables name = some table) (pick : MapResTable proto → Nat → Option (Object proto))
    {q : Object proto} (type : RowType q.1) : agent.search library pick name q = .ok (pick table (rowKey q)) := by
  rw [ResTableAgent.search, held]
  dsimp only
  rw [getResTableEntryKey_eq library type]
  rfl

private theorem answers_of_indexes (consistent : agent.Consistent)
    (held : agent.mpAllNameTables name = some table) (indexes : Indexes table rowKey rows)
    (rowType : RowType type)
    (typed : ∀ row ∈ rows, row.1 = type) : Answers library agent name type rows where
  find q own := by
    refine ⟨_, search_eq held _ (own ▸ rowType), fun row => ?_⟩
    rw [indexes.getElem?_eq_some]
    refine and_congr_right fun member => ?_
    rw [rowKey_eq, keyPair_eq_iff ((typed row member).trans own.symm) (own ▸ rowType)]
  lowerBound q own := by
    refine ⟨_, search_eq held _ (own ▸ rowType), fun row => ?_⟩
    simp only [indexes.lowerBound_eq_some, rowKey_le]
  upperBound q own := by
    refine ⟨_, search_eq held _ (own ▸ rowType), fun row => ?_⟩
    simp only [indexes.upperBound_eq_some, rowKey_le, rowKey_lt]
  getAll := by
    have all : agent.rows name = table.toList.map Prod.snd := by rw [ResTableAgent.rows, held]
    rw [ResTableAgent.getAll_eq consistent, all]
    exact ⟨indexes.values_perm, indexes.values_increasing.imp rowKey_lt.mp⟩

/-- After a load that returned 0, whatever came before it and whichever lookups were made since, the
lookups in the table of a file answer from the rows that the file holds, and there are no other
tables. -/
theorem lookups_answer {rowType : String → Descriptor} {files : List String} (listed : dir.files = some files)
    (tables : dir.Tables library rowType files)
    (serves : Serves library dir agent) :
    (∀ file ∈ files, ∃ rows, dir.rows library file = some rows ∧
        Answers library agent (library.stem file) (rowType file) rows) ∧
      ∀ name ∉ files.map library.stem, (agent.getAll name).1 = [] ∧
        ∀ q, agent.find library name q = .ok none ∧ agent.lowerBound library name q = .ok none ∧
          agent.upperBound library name q = .ok none := by
  obtain ⟨consistent, others, held⟩ := serves.loaded_tables listed tables
  refine ⟨fun file member => ?_, fun name absent => ⟨?_, fun q => ?_⟩⟩
  · obtain ⟨rows, table, own, stored, indexes⟩ := held file member
    exact ⟨rows, own, answers_of_indexes consistent stored indexes (tables.type file member)
      (tables.typed file member rows own)⟩
  · rw [ResTableAgent.getAll_eq consistent, ResTableAgent.rows, others name absent]
  · have unknown (pick : MapResTable proto → Nat → Option (Object proto)) :
        agent.search library pick name q = .ok none := by
      rw [ResTableAgent.search, others name absent]
    exact ⟨unknown _, unknown _, unknown _⟩

private theorem metaRow_type : RowType metaRow where
  count := .inl (by decide +kernel)
  field pk member := by
    have pks : getTypePrimaryKey metaRow = ["id"] := by decide +kernel
    obtain rfl : pk = "id" := by simpa [pks] using member
    have id : metaRow.findFieldByName "id" = some ⟨0, by decide⟩ := by decide +kernel
    exact ⟨_, id, rfl, rfl⟩

private theorem metaDir_tables (ids : Bytes) :
    (metaDir ids).Tables metaLibrary (fun _ => metaRow) ["MetaTable.bin"] where
  distinct := List.nodup_singleton _
  whole _ _ := rfl
  type _ _ := metaRow_type
  typed file _ rows own row member := by
    cases own
    obtain ⟨id, -, rfl⟩ := List.mem_map.mp member
    rfl

theorem lookups_answer_three : ∃ agent, ({} : ResTableAgent resWire).reLoad metaLibrary (metaDir [9, 2, 5]) =
    .ok (0, agent) ∧ Answers metaLibrary (agent.getAll "MetaTable").2 "MetaTable" metaRow
      ([9, 2, 5].map fun id => ⟨metaRow, metaEntry id⟩) := by
  obtain ⟨agent, returns⟩ : ∃ agent, ({} : ResTableAgent resWire).reLoad metaLibrary (metaDir [9, 2, 5]) =
      .ok (0, agent) := ⟨_, rfl⟩
  have serves : Serves metaLibrary (metaDir [9, 2, 5]) (agent.getAll "MetaTable").2 :=
    .getAll "MetaTable" (.loaded returns)
  obtain ⟨rows, own, answers⟩ :=
    (lookups_answer rfl (metaDir_tables [9, 2, 5]) serves).1 "MetaTable.bin" List.mem_cons_self
  cases own
  have stem : metaLibrary.stem "MetaTable.bin" = "MetaTable" := by decide +kernel
  exact ⟨agent, returns, stem ▸ answers⟩

end Playground.Resource
