import Playground.Shm.Init

/-! A segment whose entries are those of the modules that a process registered. -/

namespace Playground.Shm

open Framing Layout

/-- A process that registers these modules. -/
def registerAll (regs : List ShareMemoryModuleReg) : ShareMemoryCenter :=
  regs.foldl (fun center reg => (center.register reg).2) {}

private theorem register_zTotalSize {center : ShareMemoryCenter} (reg : ShareMemoryModuleReg)
    (sum : center.zTotalSize = UInt64.ofNat (sizes center.vecModules)) :
    (center.register reg).2.zTotalSize = UInt64.ofNat (sizes (center.register reg).2.vecModules) := by
  unfold ShareMemoryCenter.register
  split
  · simp [sum, UInt64.ofNat_add]
  · exact sum

private theorem registerAll_zTotalSize (regs : List ShareMemoryModuleReg) :
    (registerAll regs).zTotalSize = UInt64.ofNat (sizes (registerAll regs).vecModules) := by
  suffices every : ∀ center : ShareMemoryCenter, center.zTotalSize = UInt64.ofNat (sizes center.vecModules) →
      (regs.foldl (fun center reg => (center.register reg).2) center).zTotalSize =
        UInt64.ofNat (sizes (regs.foldl (fun center reg => (center.register reg).2) center).vecModules) by
    exact every {} rfl
  induction regs with
  | nil => exact fun _ sum => sum
  | cons reg rest ih => exact fun _ sum => ih _ (register_zTotalSize reg sum)

theorem registerAll_total (fits : sizeofDataFmt + sizes (registerAll regs).vecModules < 2 ^ 64) :
    (registerAll regs).total.toNat = sizeofDataFmt + sizes (registerAll regs).vecModules := by
  rw [ShareMemoryCenter.total, registerAll_zTotalSize, ← UInt64.ofNat_add, UInt64.toNat_ofNat']
  omega

/-- A module whose `OnAttach` succeeds and leaves the region as it is. -/
def quietModule (letter : Nat) (zSize : UInt64) : ShareMemoryModuleReg :=
  { name := letterName letter, zSize, notifier := some fun data _ _ => (0, data) }

def registrations (regs : List ShareMemoryModuleReg) : List (CString × UInt64) :=
  regs.map fun reg => (reg.name, reg.zSize)

/-- A new version of the program has the modules of the old one, and its names and sizes are as they
should be. -/
structure Upgrade (old regs : List ShareMemoryModuleReg) : Prop where
  superset : ∀ reg ∈ registrations old, reg ∈ registrations regs
  short : ∀ reg ∈ regs, reg.name.1.length ≤ 31
  sized : ∀ reg ∈ regs, 1 ≤ reg.zSize
  count : regs.length ≤ recoveryshmMaxMoudles

/-- The directory of the segment is that of the registrations. -/
structure Recorded (segment : Segment) (regs : List ShareMemoryModuleReg) : Prop where
  laid : segment.WellLaid
  directory : segment.fmt.directory.Perm (registrations regs)
  distinct : (regs.map (·.name)).Nodup

section Recorded

variable {segment : Segment} {old regs : List ShareMemoryModuleReg}

theorem sizes_eq_of_perm (perm : (registrations old).Perm (registrations regs)) :
    sizes old = sizes regs := by
  have sums := (perm.map (·.2.toNat)).sum_eq
  simpa [registrations, sizes, Function.comp_def] using sums

private theorem nodup_registrations (distinct : (regs.map (·.name)).Nodup) : (registrations regs).Nodup := by
  refine List.Nodup.of_map (·.1) ?_
  simpa [registrations, Function.comp_def] using distinct

theorem eq_nil_of_sizes (sized : ∀ reg ∈ regs, 1 ≤ reg.zSize) (zero : sizes regs = 0) : regs = [] := by
  cases regs with
  | nil => rfl
  | cons reg rest =>
    have positive : (1 : UInt64).toNat ≤ reg.zSize.toNat :=
      UInt64.le_iff_toNat_le.mp (sized reg List.mem_cons_self)
    rw [sizes_cons] at zero
    exact absurd zero (Nat.ne_of_gt (Nat.lt_of_lt_of_le positive (Nat.le_add_right _ _)))

private theorem findModule_eq_none {fmt : ShareMemoryCenterDataFmt} :
    findModule fmt name = none ↔ name ∉ fmt.directory.map (·.1) := by
  simp [findModule, ShareMemoryCenterDataFmt.directory]

namespace Recorded

theorem names (recorded : Recorded segment regs) :
    (segment.fmt.directory.map (·.1)).Perm (regs.map (·.name)) := by
  have mapped := recorded.directory.map (·.1)
  simpa [registrations, Function.comp_def] using mapped

theorem modulesCount (recorded : Recorded segment regs) : segment.fmt.modulesCount = regs.length := by
  have lengths := recorded.directory.length_eq
  simpa [ShareMemoryCenterDataFmt.directory, registrations] using lengths

theorem dataLength (recorded : Recorded segment regs) :
    segment.fmt.dataLength.toNat = sizeofDataFmt + sizes regs := by
  have sums := (recorded.directory.map (·.2.toNat)).sum_eq
  rw [recorded.laid.packed.limit_eq]
  simpa [ShareMemoryCenterDataFmt.directory, registrations, sizes, Function.comp_def,
    ShareMemoryModule.block] using sums

private theorem findModule_isNone (recorded : Recorded segment old) (name : CString) :
    (findModule segment.fmt name).isNone = decide (name ∉ old.map (·.name)) := by
  rw [Bool.eq_iff_iff, Option.isNone_iff_eq_none, decide_eq_true_iff, findModule_eq_none, recorded.names.mem_iff]

theorem registrations_missing (recorded : Recorded segment old) (distinct : (regs.map (·.name)).Nodup)
    (upgrade : Upgrade old regs) :
    (segment.fmt.directory ++ registrations (segment.missing regs)).Perm (registrations regs) := by
  let kept := regs.filter fun reg => reg.name ∈ old.map (·.name)
  have missing : segment.missing regs = regs.filter fun reg => !(decide (reg.name ∈ old.map (·.name))) := by
    refine List.filter_congr fun reg _ => ?_
    rw [recorded.findModule_isNone, decide_not]
  have parts : (registrations kept ++ registrations (segment.missing regs)).Perm (registrations regs) := by
    rw [missing, registrations, registrations, ← List.map_append]
    exact (List.filter_append_perm _ regs).map _
  -- what was recorded and what is kept have the same names and sizes, each of them once
  have same : (registrations old).Perm (registrations kept) := by
    refine (List.perm_ext_iff_of_nodup (nodup_registrations recorded.distinct) ?_).mpr fun entry => ⟨?_, ?_⟩
    · exact nodup_registrations (distinct.sublist (List.filter_sublist.map _))
    · intro wasThere
      obtain ⟨reg, member, rfl⟩ := List.mem_map.mp (upgrade.superset entry wasThere)
      obtain ⟨before, memberBefore, equal⟩ := List.mem_map.mp wasThere
      refine List.mem_map_of_mem (List.mem_filter.mpr ⟨member, ?_⟩)
      simpa using ⟨before, memberBefore, congrArg Prod.fst equal⟩
    · intro stays
      obtain ⟨reg, member, rfl⟩ := List.mem_map.mp stays
      obtain ⟨inRegs, named⟩ := List.mem_filter.mp member
      obtain ⟨before, memberBefore, sameName⟩ := List.mem_map.mp (of_decide_eq_true named)
      have again := upgrade.superset _ (List.mem_map_of_mem memberBefore)
      obtain ⟨newer, inRegsToo, equal⟩ := List.mem_map.mp again
      have identical : newer = reg := by
        have first := findReg_of_mem distinct inRegsToo
        have second := findReg_of_mem distinct inRegs
        rw [show newer.name = reg.name from (congrArg Prod.fst equal).trans sameName] at first
        exact Option.some.inj (first.symm.trans second)
      rw [← identical, equal]
      exact List.mem_map_of_mem memberBefore
  exact ((recorded.directory.trans same).append_right _).trans parts

theorem sizes_missing (recorded : Recorded segment old) (distinct : (regs.map (·.name)).Nodup)
    (upgrade : Upgrade old regs) : sizes old + sizes (segment.missing regs) = sizes regs := by
  have parts :=
    (recorded.directory.symm.append_right _).trans (recorded.registrations_missing distinct upgrade)
  rw [registrations, registrations, ← List.map_append] at parts
  rw [← sizes_append]
  exact sizes_eq_of_perm parts

theorem length_missing (recorded : Recorded segment old) (distinct : (regs.map (·.name)).Nodup)
    (upgrade : Upgrade old regs) : old.length + (segment.missing regs).length = regs.length := by
  have parts := (recorded.registrations_missing distinct upgrade).length_eq
  rw [List.length_append, recorded.directory.length_eq] at parts
  simpa [registrations] using parts

section

variable (recorded : Recorded segment regs)

include recorded

theorem index_unique (insideFirst : i < segment.fmt.modulesCount)
    (insideSecond : j < segment.fmt.modulesCount)
    (same : (segment.fmt.modules i).szName = (segment.fmt.modules j).szName) : i = j := by
  have nodup := recorded.names.symm.nodup recorded.distinct
  rw [ShareMemoryCenterDataFmt.directory, ShareMemoryCenterDataFmt.entries, List.map_map, List.map_map] at nodup
  exact List.inj_on_of_nodup_map nodup (List.mem_range.mpr insideFirst) (List.mem_range.mpr insideSecond) same

theorem exists_index (member : name ∈ regs.map (·.name)) :
    ∃ i < segment.fmt.modulesCount, (segment.fmt.modules i).szName = name := by
  simpa [ShareMemoryCenterDataFmt.directory, ShareMemoryCenterDataFmt.entries] using
    recorded.names.symm.subset member

theorem mem_names (inside : i < segment.fmt.modulesCount) :
    (segment.fmt.modules i).szName ∈ regs.map (·.name) := by
  refine recorded.names.subset ?_
  simpa [ShareMemoryCenterDataFmt.directory, ShareMemoryCenterDataFmt.entries] using ⟨i, inside, rfl⟩

theorem findModule_index (inside : i < segment.fmt.modulesCount) :
    findModule segment.fmt (segment.fmt.modules i).szName = some (segment.fmt.modules i) := by
  have distinct := recorded.names.symm.nodup recorded.distinct
  rw [ShareMemoryCenterDataFmt.directory, List.map_map] at distinct
  exact Record.find?_key distinct (List.mem_map_of_mem (List.mem_range.mpr inside))

theorem zSize_eq {reg : ShareMemoryModuleReg} (member : reg ∈ regs)
    (inside : i < segment.fmt.modulesCount) (named : (segment.fmt.modules i).szName = reg.name) :
    (segment.fmt.modules i).zSize = reg.zSize := by
  have entry : (reg.name, reg.zSize) ∈ segment.fmt.directory :=
    recorded.directory.symm.subset (List.mem_map_of_mem member)
  obtain ⟨mod, inEntries, equal⟩ := List.mem_map.mp entry
  obtain ⟨j, inRange, rfl⟩ := List.mem_map.mp inEntries
  obtain ⟨sameName, sameSize⟩ := Prod.mk.inj equal
  rw [recorded.index_unique inside (List.mem_range.mp inRange) (named.trans sameName.symm), sameSize]

theorem sameLayout (same : SameLayout segment next) : Recorded next regs :=
  ⟨same.wellLaid recorded.laid, same.directory ▸ recorded.directory, recorded.distinct⟩

end

section Grow

variable {center : ShareMemoryCenter} {next : Segment} (recorded : Recorded segment old)

include recorded

variable (upgrade : Upgrade old center.vecModules)

include upgrade

theorem grow
    (total : center.total.toNat = sizeofDataFmt + sizes center.vecModules) (room : center.total ≤ segment.size) :
    ∃ next, appendRegModules center.vecModules center.total segment = .ok next ∧
      Grown center.total segment (segment.missing center.vecModules) next := by
  have sum := recorded.sizes_missing center.distinct upgrade
  have length := recorded.length_missing center.distinct upgrade
  have dataLength := recorded.dataLength
  have modulesCount := recorded.modulesCount
  have count := upgrade.count
  have short : ∀ reg ∈ center.vecModules, reg.name.1.length < 32 :=
    fun reg member => Nat.lt_succ_of_le (upgrade.short reg member)
  exact appendLoop_all center.registered center.distinct short (by omega) (by omega) room

theorem missing_eq_nil (same : segment.fmt.dataLength.toNat = sizeofDataFmt + sizes center.vecModules) :
    segment.missing center.vecModules = [] := by
  have dataLength := recorded.dataLength
  have sum := recorded.sizes_missing center.distinct upgrade
  refine eq_nil_of_sizes (fun reg member => upgrade.sized reg (List.mem_filter.mp member).1) ?_
  omega

theorem grows (total : center.total.toNat = sizeofDataFmt + sizes center.vecModules)
    (different : segment.fmt.dataLength ≠ center.total) :
    segment.fmt.dataLength < center.total ∧ segment.fmt.modulesCount < center.vecModules.length := by
  have dataLength := recorded.dataLength
  have sum := recorded.sizes_missing center.distinct upgrade
  have length := recorded.length_missing center.distinct upgrade
  have count := recorded.modulesCount
  rw [Ne, ← UInt64.toNat_inj] at different
  have some_missing : segment.missing center.vecModules ≠ [] := by
    intro none_missing
    rw [none_missing, sizes_nil] at sum
    omega
  have positive := List.length_pos_iff.mpr some_missing
  rw [UInt64.lt_iff_toNat_lt]
  omega

theorem grown (grown : Grown center.total segment (segment.missing center.vecModules) next) :
    Recorded next center.vecModules where
  laid := grown.wellLaid recorded.laid
  directory := by
    have uncut : (segment.missing center.vecModules).map (fun reg => (reg.name.cut, reg.zSize)) =
        registrations (segment.missing center.vecModules) := by
      refine List.map_congr_left fun reg member => ?_
      rw [CString.cut_of_short (Nat.lt_succ_of_le (upgrade.short reg (List.mem_filter.mp member).1))]
    rw [grown.directory, uncut]
    exact recorded.registrations_missing center.distinct upgrade
  distinct := center.distinct

end Grow

end Recorded

end Recorded

end Playground.Shm
