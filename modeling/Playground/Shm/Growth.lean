import Playground.Record.Keyed
import Playground.Shm.ShareMemoryCenter

/-! How the segment grows. -/

namespace Playground.Shm

open Framing Layout

/-- The room that the modules ask for. -/
def sizes (regs : List ShareMemoryModuleReg) : Nat := (regs.map (·.zSize.toNat)).sum

@[simp] theorem sizes_nil : sizes [] = 0 := rfl

@[simp] theorem sizes_cons (reg : ShareMemoryModuleReg) (regs : List ShareMemoryModuleReg) :
    sizes (reg :: regs) = reg.zSize.toNat + sizes regs := rfl

@[simp] theorem sizes_append (regs more : List ShareMemoryModuleReg) :
    sizes (regs ++ more) = sizes regs + sizes more := by
  simp [sizes]

theorem findReg_of_mem {regs : List ShareMemoryModuleReg} (distinct : (regs.map (·.name)).Nodup)
    {reg : ShareMemoryModuleReg} (member : reg ∈ regs) : findReg regs reg.name = some reg :=
  Record.find?_key distinct member

theorem findReg_some {reg : ShareMemoryModuleReg}
    (found : findReg regs name = some reg) : reg ∈ regs ∧ reg.name = name :=
  ⟨List.mem_of_find?_eq_some found, by simpa using List.find?_some found⟩

section Append

variable (segment : Segment) (reg : ShareMemoryModuleReg)

theorem append_modules_lt (old : i < segment.fmt.modulesCount) :
    (segment.append reg).fmt.modules i = segment.fmt.modules i :=
  Function.update_of_ne (Nat.ne_of_lt old) ..

theorem append_modules_gt (new : segment.fmt.modulesCount < i) :
    (segment.append reg).fmt.modules i = segment.fmt.modules i :=
  Function.update_of_ne (Nat.ne_of_gt new) ..

@[simp] theorem append_modules_self :
    (segment.append reg).fmt.modules segment.fmt.modulesCount = segment.entry reg :=
  Function.update_self ..

@[simp] theorem entries_append :
    (segment.append reg).fmt.entries = segment.fmt.entries ++ [segment.entry reg] := by
  have count : (segment.append reg).fmt.modulesCount = segment.fmt.modulesCount + 1 := rfl
  unfold ShareMemoryCenterDataFmt.entries
  rw [count, List.range_succ, List.map_append, List.map_singleton, append_modules_self]
  congr 1
  refine List.map_congr_left fun i member => ?_
  exact append_modules_lt segment reg (List.mem_range.mp member)

@[simp] theorem entries_length (fmt : ShareMemoryCenterDataFmt) :
    fmt.entries.length = fmt.modulesCount := by
  simp [ShareMemoryCenterDataFmt.entries]

theorem CString.cut_of_short {name : CString} (short : name.1.length < 32) : name.cut = name :=
  Subtype.ext (List.take_of_length_le (by omega))

theorem findModule_append_of_some
    (found : findModule segment.fmt name = some mod) : findModule (segment.append reg).fmt name = some mod := by
  unfold findModule at found ⊢
  rw [entries_append, List.find?_append, found, Option.some_or]

theorem findModule_append_of_none (absent : findModule segment.fmt name = none) :
    findModule (segment.append reg).fmt name =
      if reg.name.cut = name then some (segment.entry reg) else none := by
  unfold findModule at absent ⊢
  rw [entries_append, List.find?_append, absent, Option.none_or]
  by_cases same : reg.name.cut = name <;> simp [Segment.entry, same]

end Append

/-- The segment has room for the module, which has no entry yet. -/
structure Admits (total : UInt64) (segment : Segment) (reg : ShareMemoryModuleReg) : Prop where
  absent : findModule segment.fmt reg.name = none
  fits : segment.fmt.dataLength.toNat + reg.zSize.toNat ≤ total.toNat
  count : segment.fmt.modulesCount < recoveryshmMaxMoudles
  inside : segment.fmt.dataLength.toNat + reg.zSize.toNat ≤ segment.size.toNat

/-- Entries are appended one after the other, each within the total. -/
inductive Grown (total : UInt64) : Segment → List ShareMemoryModuleReg → Segment → Prop where
  | nil {segment : Segment} : Grown total segment [] segment
  | cons {segment : Segment} (admits : Admits total segment reg)
      (rest : Grown total (segment.append reg) added next) : Grown total segment (reg :: added) next

theorem Admits.dataLength {segment : Segment} {reg : ShareMemoryModuleReg}
    (admits : Admits total segment reg) :
    (segment.append reg).fmt.dataLength.toNat = segment.fmt.dataLength.toNat + reg.zSize.toNat := by
  have bound := total.toNat_lt
  have fits := admits.fits
  simp only [Segment.append, UInt64.toNat_add]
  omega

section Loop

variable {regs todo : List ShareMemoryModuleReg} {total : UInt64} {segment next : Segment}

theorem addModule_cases {reg : ShareMemoryModuleReg} {result : Int × Segment}
    (registered : findReg regs reg.name = some reg) (absent : findModule segment.fmt reg.name = none)
    (added : addModule regs total segment reg.name = .ok result) :
    result.2 = segment ∨ Admits total segment reg ∧ result.2 = segment.append reg := by
  unfold addModule at added
  rw [registered] at added
  simp only at added
  split at added
  · cases added
    exact .inl rfl
  · rename_i fits
    split at added
    · cases added
      exact .inl rfl
    · rename_i count
      split at added
      · cases added
      · rename_i inside
        cases added
        -- within the segment, the sum does not wrap around
        have bound := segment.size.toNat_lt
        have exact_sum : (reg.zSize + segment.fmt.dataLength).toNat =
            segment.fmt.dataLength.toNat + reg.zSize.toNat := by
          rw [UInt64.toNat_add]
          omega
        have sum_le := UInt64.le_iff_toNat_le.mp (UInt64.not_lt.mp fits)
        exact .inr ⟨⟨absent, exact_sum ▸ sum_le, Nat.lt_of_not_le count, Nat.le_of_not_lt inside⟩, rfl⟩

theorem addModule_of_admits {reg : ShareMemoryModuleReg} (registered : findReg regs reg.name = some reg)
    (admits : Admits total segment reg) :
    addModule regs total segment reg.name = .ok (0, segment.append reg) := by
  have fits := admits.fits
  have bound := total.toNat_lt
  have exact_sum :
      (reg.zSize + segment.fmt.dataLength).toNat = reg.zSize.toNat + segment.fmt.dataLength.toNat := by
    rw [UInt64.toNat_add]
    omega
  have under : ¬ reg.zSize + segment.fmt.dataLength > total := by
    refine UInt64.not_lt.mpr (UInt64.le_iff_toNat_le.mpr ?_)
    omega
  have free : ¬ segment.fmt.modulesCount ≥ recoveryshmMaxMoudles := Nat.not_le.mpr admits.count
  unfold addModule
  rw [registered]
  simp only [if_neg under, if_neg free, if_neg (Nat.not_lt.mpr admits.inside)]

theorem appendLoop_grown (registered : ∀ reg ∈ todo, findReg regs reg.name = some reg)
    (ran : appendLoop regs total todo segment = .ok next) :
    ∃ added, added.Sublist todo ∧ Grown total segment added next := by
  induction todo generalizing segment with
  | nil =>
    cases ran
    exact ⟨[], .slnil, .nil⟩
  | cons reg rest ih =>
    have later : ∀ reg ∈ rest, findReg regs reg.name = some reg :=
      fun reg member => registered reg (List.mem_cons_of_mem _ member)
    unfold appendLoop at ran
    split at ran
    · obtain ⟨added, sublist, grown⟩ := ih later ran
      exact ⟨added, sublist.cons _, grown⟩
    · rename_i absent
      cases step : addModule regs total segment reg.name with
      | error death =>
        rw [step] at ran
        cases ran
      | ok result =>
        rw [step] at ran
        obtain ⟨added, sublist, grown⟩ := ih later ran
        rcases addModule_cases (registered reg List.mem_cons_self) (by simpa using absent) step with
          same | ⟨admits, appended⟩
        · rw [same] at grown
          exact ⟨added, sublist.cons _, grown⟩
        · rw [appended] at grown
          exact ⟨reg :: added, sublist.cons_cons _, .cons admits grown⟩

theorem appendLoop_ok (small : ∀ reg ∈ regs, reg.zSize.toNat < 2 ^ 63) (limit : total.toNat < 2 ^ 63)
    (room : total ≤ segment.size) (inside : segment.fmt.dataLength.toNat < 2 ^ 63) :
    ∃ next, appendLoop regs total todo segment = .ok next := by
  induction todo generalizing segment with
  | nil => exact ⟨segment, rfl⟩
  | cons reg rest ih =>
    unfold appendLoop
    split
    · exact ih room inside
    · suffices step : ∃ result, addModule regs total segment reg.name = .ok result ∧
          total ≤ result.2.size ∧ result.2.fmt.dataLength.toNat < 2 ^ 63 by
        obtain ⟨result, added, roomAfter, insideAfter⟩ := step
        rw [added]
        exact ih roomAfter insideAfter
      unfold addModule
      split
      · exact ⟨_, rfl, room, inside⟩
      · rename_i found registered
        have member := small found (findReg_some registered).1
        split
        · exact ⟨_, rfl, room, inside⟩
        · rename_i fits
          have sum_le := UInt64.le_iff_toNat_le.mp (UInt64.not_lt.mp fits)
          have total_le := UInt64.le_iff_toNat_le.mp room
          have exact_sum : (found.zSize + segment.fmt.dataLength).toNat =
              found.zSize.toNat + segment.fmt.dataLength.toNat := by
            rw [UInt64.toNat_add]
            omega
          split
          · exact ⟨_, rfl, room, inside⟩
          · rw [if_neg (by omega)]
            refine ⟨_, rfl, room, ?_⟩
            simp only [Segment.append, UInt64.toNat_add]
            omega

/-- The modules that have no entry yet. -/
def Segment.missing (segment : Segment) (regs : List ShareMemoryModuleReg) : List ShareMemoryModuleReg :=
  regs.filter fun reg => (findModule segment.fmt reg.name).isNone

private theorem missing_append {reg : ShareMemoryModuleReg} (short : reg.name.1.length < 32)
    (others : reg.name ∉ todo.map (·.name)) :
    (segment.append reg).missing todo = segment.missing todo := by
  refine List.filter_congr fun other member => ?_
  have different : reg.name ≠ other.name := fun same => others (same ▸ List.mem_map_of_mem member)
  cases found : findModule segment.fmt other.name with
  | some mod => rw [findModule_append_of_some segment reg found]
  | none => rw [findModule_append_of_none segment reg found, CString.cut_of_short short, if_neg different]

theorem appendLoop_all (registered : ∀ reg ∈ todo, findReg regs reg.name = some reg)
    (distinct : (todo.map (·.name)).Nodup) (short : ∀ reg ∈ todo, reg.name.1.length < 32)
    (fits : segment.fmt.dataLength.toNat + sizes (segment.missing todo) ≤ total.toNat)
    (count : segment.fmt.modulesCount + (segment.missing todo).length ≤ recoveryshmMaxMoudles)
    (room : total ≤ segment.size) :
    ∃ next, appendLoop regs total todo segment = .ok next ∧ Grown total segment (segment.missing todo) next := by
  induction todo generalizing segment with
  | nil => exact ⟨segment, rfl, .nil⟩
  | cons reg rest ih =>
    have later : ∀ reg ∈ rest, findReg regs reg.name = some reg :=
      fun reg member => registered reg (List.mem_cons_of_mem _ member)
    have shortRest : ∀ reg ∈ rest, reg.name.1.length < 32 :=
      fun reg member => short reg (List.mem_cons_of_mem _ member)
    rw [List.map_cons, List.nodup_cons] at distinct
    unfold appendLoop
    cases found : findModule segment.fmt reg.name with
    | some mod =>
      have same : segment.missing (reg :: rest) = segment.missing rest := by simp [Segment.missing, found]
      rw [same] at fits count ⊢
      exact ih later distinct.2 shortRest fits count room
    | none =>
      have own := short reg List.mem_cons_self
      have missing : segment.missing (reg :: rest) = reg :: segment.missing rest := by
        simp [Segment.missing, found]
      have unchanged : (segment.append reg).missing rest = segment.missing rest :=
        missing_append own distinct.1
      rw [missing, sizes_cons] at fits
      rw [missing, List.length_cons] at count
      have total_le := UInt64.le_iff_toNat_le.mp room
      have admits : Admits total segment reg := ⟨found, by omega, by omega, by omega⟩
      have added := addModule_of_admits (registered reg List.mem_cons_self) admits
      have dataLength := admits.dataLength
      have countAfter : (segment.append reg).fmt.modulesCount = segment.fmt.modulesCount + 1 := rfl
      have fitsRest : (segment.append reg).fmt.dataLength.toNat + sizes ((segment.append reg).missing rest) ≤
          total.toNat := by
        rw [unchanged, dataLength]
        omega
      have countRest : (segment.append reg).fmt.modulesCount + ((segment.append reg).missing rest).length ≤
          recoveryshmMaxMoudles := by
        rw [unchanged, countAfter]
        omega
      obtain ⟨next, ran, grown⟩ := ih later distinct.2 shortRest fitsRest countRest room
      rw [unchanged] at grown
      rw [added, missing]
      exact ⟨next, ran, .cons admits grown⟩

end Loop

section Grown

variable {total : UInt64} {segment next : Segment} {added : List ShareMemoryModuleReg}

section

variable (grown : Grown total segment added next)

include grown

theorem Grown.dataLength :
    next.fmt.dataLength.toNat = segment.fmt.dataLength.toNat + sizes added := by
  induction grown with
  | nil => rfl
  | cons admits rest ih =>
    rw [ih, admits.dataLength, sizes_cons, Nat.add_assoc]

theorem Grown.dataLength_le (initial : segment.fmt.dataLength ≤ total) :
    next.fmt.dataLength ≤ total := by
  induction grown with
  | nil => exact initial
  | cons admits rest ih =>
    refine ih (UInt64.le_iff_toNat_le.mpr ?_)
    rw [admits.dataLength]
    exact admits.fits

theorem Grown.modulesCount : next.fmt.modulesCount = segment.fmt.modulesCount + added.length := by
  induction grown with
  | nil => rfl
  | cons admits rest ih =>
    rw [ih, List.length_cons]
    simp only [Segment.append]
    omega

theorem Grown.modulesCount_le (initial : segment.fmt.modulesCount ≤ recoveryshmMaxMoudles) :
    next.fmt.modulesCount ≤ recoveryshmMaxMoudles := by
  induction grown with
  | nil => exact initial
  | cons admits rest ih => exact ih admits.count

theorem Grown.modules_lt (old : i < segment.fmt.modulesCount) :
    next.fmt.modules i = segment.fmt.modules i := by
  induction grown with
  | nil => rfl
  | cons admits rest ih => exact (ih (Nat.lt_succ_of_lt old)).trans (append_modules_lt _ _ old)

theorem Grown.modules_ge (free : next.fmt.modulesCount ≤ i) :
    next.fmt.modules i = segment.fmt.modules i := by
  induction grown with
  | nil => rfl
  | cons admits rest ih =>
    refine (ih free).trans (append_modules_gt _ _ ?_)
    have count := rest.modulesCount
    simp only [Segment.append] at count
    omega

end

/-- The names and sizes of the entries. -/
def ShareMemoryCenterDataFmt.directory (fmt : ShareMemoryCenterDataFmt) : List (CString × UInt64) :=
  fmt.entries.map fun mod => (mod.szName, mod.zSize)

theorem Grown.directory (grown : Grown total segment added next) :
    next.fmt.directory = segment.fmt.directory ++ added.map fun reg => (reg.name.cut, reg.zSize) := by
  induction grown with
  | nil => simp
  | cons admits rest ih =>
    rw [ih]
    simp [ShareMemoryCenterDataFmt.directory, Segment.entry]

theorem Grown.data_lt (grown : Grown total segment added next)
    (old : place < segment.fmt.dataLength.toNat) : next.data place = segment.data place := by
  induction grown with
  | nil => rfl
  | cons admits rest ih =>
    refine (ih (by rw [admits.dataLength]; omega)).trans (fill_outside (.inl old))

theorem Grown.fresh (grown : Grown total segment added next) (new : segment.fmt.modulesCount ≤ i)
    (inside : i < next.fmt.modulesCount) :
    read next.data (next.fmt.modules i).block = List.replicate (next.fmt.modules i).zSize.toNat 0 ∧
      (next.fmt.modules i).chInited = (segment.fmt.modules i).chInited := by
  induction grown with
  | nil => omega
  | @cons reg added next segment admits rest ih =>
    rcases Nat.eq_or_lt_of_le new with rfl | later
    · have here := rest.modules_lt (show segment.fmt.modulesCount < (segment.append reg).fmt.modulesCount from
        Nat.lt_succ_self _)
      rw [append_modules_self] at here
      rw [here]
      refine ⟨?_, rfl⟩
      have kept : read next.data (segment.entry reg).block =
          read (segment.append reg).data (segment.entry reg).block := by
        refine read_congr fun place _ upto => rest.data_lt ?_
        rw [admits.dataLength]
        exact upto
      exact kept.trans read_fill_self
    · obtain ⟨zeros, marked⟩ := ih later inside
      exact ⟨zeros, marked.trans (congrArg _ (append_modules_gt segment reg later))⟩

end Grown

end Playground.Shm
