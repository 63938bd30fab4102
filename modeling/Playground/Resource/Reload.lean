import Playground.Resource.ResTableAgent

/-! What a failed load leaves. -/

namespace Playground.Resource

open Framing Datacenter

variable {Msg : Type} {proto : Protobuf Msg} {library : ResLibrary proto} {dir : ResDataDir}

structure SameAnswers (library : ResLibrary proto) (agent next : ResTableAgent proto) : Prop where
  find : ∀ name obj, next.find library name obj = agent.find library name obj
  lowerBound : ∀ name obj, next.lowerBound library name obj = agent.lowerBound library name obj
  upperBound : ∀ name obj, next.upperBound library name obj = agent.upperBound library name obj
  getAll : ∀ name, (next.getAll name).1 = (agent.getAll name).1

/-- A failed load of this directory changes no answer of any agent that was loaded before. -/
def FailsClean (library : ResLibrary proto) (dir : ResDataDir) : Prop :=
  ∀ before agent, Serves library before agent → ∀ ret next, agent.reLoad library dir = .ok (ret, next) →
    ret ≠ 0 → SameAnswers library agent next

private theorem reLoad_listed (listed : dir.files.isSome) (agent other : ResTableAgent proto) :
    agent.reLoad library dir = other.reLoad library dir := by
  obtain ⟨files, own⟩ := Option.isSome_iff_exists.mp listed
  simp only [ResTableAgent.reLoad, own]

/-- A directory without files is loaded, and nothing is found then. -/
def emptyDir : ResDataDir where
  files := some []
  size _ := 0
  content _ := []

private theorem serves_empty (library : ResLibrary proto) : Serves library emptyDir ({} : ResTableAgent proto) := by
  have returns : ({} : ResTableAgent proto).reLoad library emptyDir = .ok (0, {}) := rfl
  exact .loaded returns

/-- A failed load leaves all answers of every agent exactly if the directory could not be listed. That
some directory holds a table with a row is assumed, for otherwise all answers are always empty. -/
theorem failed_reload_clean_iff {before : ResDataDir} {full : ResTableAgent proto} {name : String}
    (serves : Serves library before full) (some_row : (full.getAll name).1 ≠ [])
    {start next : ResTableAgent proto} {ret : Int} (returns : start.reLoad library dir = .ok (ret, next))
    (failed : ret ≠ 0) : FailsClean library dir ↔ dir.files = none := by
  constructor
  · intro clean
    by_contra listed
    have listed : dir.files.isSome := Option.isSome_iff_ne_none.mpr listed
    -- the same agent would have to answer like the full and like the empty one
    have likeFull := clean before full serves ret next ((reLoad_listed listed _ _).trans returns) failed
    have likeEmpty := clean emptyDir {} (serves_empty library) ret next
      ((reLoad_listed listed _ _).trans returns) failed
    exact some_row ((likeFull.getAll name).symm.trans (likeEmpty.getAll name))
  · intro unlisted before agent _ ret next returns _
    rw [ResTableAgent.reLoad, unlisted] at returns
    obtain ⟨-, rfl⟩ := Prod.ext_iff.mp (Except.ok.inj returns)
    exact ⟨fun _ _ => rfl, fun _ _ => rfl, fun _ _ => rfl, fun _ => rfl⟩

def metaRow : Descriptor where
  fields :=
    [{ name := "id", typeName := "uint32", default := .uint32 0 },
     { name := "ct", typeName := "message", default := .message "res.ComposeType" },
     { name := "arr", typeName := "int32", default := .int32 0, repeated := true },
     { name := "arrct", typeName := "message", default := .message "res.ComposeType", repeated := true }]
  distinct := by decide +kernel
  nested name :=
    if name = "_PrimaryKey" then some [{ name := "id", typeName := "uint32", default := .uint32 0 }] else none
  fullName := "res.Meta"

def resWire : Protobuf Unit where
  findMessageTypeByName name := if name = "res.Meta" then some metaRow else none
  typeName _ := ""
  defaultInstance _ := ()
  serializeToArray _ := some []
  parseFromArray _ _ := some ()

def metaEntry (id : UInt8) : Message resWire metaRow where
  content := ![.singular (some (.uint32 (id.toNat : BitVec 32))), .singular none, .repeated [], .repeated []]
  fits i := by
    change Fin 4 at i
    fin_cases i
    · exact ⟨rfl, fun held own => Option.some.inj own ▸ rfl⟩
    · exact ⟨rfl, nofun⟩
    · exact ⟨rfl, nofun⟩
    · exact ⟨rfl, nofun⟩

def metaLibrary : ResLibrary resWire where
  asserts := true
  stem file := String.ofList (file.toList.takeWhile (· ≠ '.'))
  unPack _ bytes := some (.ok (bytes.map fun id => ⟨metaRow, metaEntry id⟩))

def metaDir (ids : Bytes) : ResDataDir where
  files := some ["MetaTable.bin"]
  size _ := ids.length
  content _ := ids

theorem failed_reload_clean_unlisted : FailsClean metaLibrary { metaDir [7] with files := none } := by
  have loaded : ∃ full, ({} : ResTableAgent resWire).reLoad metaLibrary (metaDir [7]) = .ok (0, full) ∧
      (full.getAll "MetaTable").1 ≠ [] := ⟨_, rfl, nofun⟩
  obtain ⟨full, returns, some_row⟩ := loaded
  have fails : full.reLoad metaLibrary { metaDir [7] with files := none } = .ok (-1, full) := rfl
  exact (failed_reload_clean_iff (.loaded returns) some_row fails (by decide)).mpr rfl

/-- A table with the row 7 is loaded; the next load meets an empty file, fails, and the row is gone. -/
theorem empty_file_forgets : ∃ full next : ResTableAgent resWire,
    ({} : ResTableAgent resWire).reLoad metaLibrary (metaDir [7]) = .ok (0, full) ∧
      (full.find metaLibrary "MetaTable" ⟨metaRow, metaEntry 7⟩).map Option.isSome = .ok true ∧
      (full.getAll "MetaTable").1.length = 1 ∧
      full.reLoad metaLibrary (metaDir []) = .ok (-1, next) ∧
      (next.find metaLibrary "MetaTable" ⟨metaRow, metaEntry 7⟩).map Option.isSome = .ok false ∧
      (next.getAll "MetaTable").1.length = 0 :=
  ⟨_, _, rfl, rfl, rfl, rfl, rfl, rfl⟩

end Playground.Resource
