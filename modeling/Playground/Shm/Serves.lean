import Playground.Shm.Recorded

/-! Which modules are served when `Init` returns 0: those whose entry has their size. -/

namespace Playground.Shm

open Framing Layout

/-- Where the data of a module lie. -/
def ShareMemoryModule.region (mod : ShareMemoryModule) : UInt64 × UInt64 := (mod.dataOffset, mod.zSize)

def Attachment.region (call : Attachment) : UInt64 × UInt64 := (call.dataOffset, call.zSize)

/-- The module has an entry of its size, and `OnAttach` was called once, with the region of this entry. -/
def Outcome.Serves (outcome : Outcome) (reg : ShareMemoryModuleReg) : Prop :=
  ∃ after mod, outcome.segment = some after ∧ findModule after.fmt reg.name = some mod ∧ mod.zSize = reg.zSize ∧
    (reg.notifier.isSome → (outcome.calls.filter (·.name = reg.name)).map (·.region) = [mod.region])

/-- The regions of all entries of a name. -/
def ShareMemoryCenterDataFmt.regions (fmt : ShareMemoryCenterDataFmt) (name : CString) :
    List (UInt64 × UInt64) :=
  (fmt.entries.filter (·.szName = name)).map (·.region)

/-- The first region has the size of the module, and it is the only one if there is a notifier. -/
def Suits (reg : ShareMemoryModuleReg) : List (UInt64 × UInt64) → Prop
  | [] => True
  | region :: rest => region.2 = reg.zSize ∧ (reg.notifier.isSome → rest = [])

/-- The header as it is before the modules are added; `grows` tells whether any will be. -/
structure ShareMemoryCenter.RoomFor (center : ShareMemoryCenter) (segment : Segment) (grows : Prop) : Prop where
  short : ∀ reg ∈ center.vecModules, reg.name.1.length ≤ 31
  suits : ∀ reg ∈ center.vecModules, Suits reg (segment.fmt.regions reg.name)
  room : segment.missing center.vecModules = [] ∨ grows ∧
    segment.fmt.modulesCount + (segment.missing center.vecModules).length ≤ recoveryshmMaxMoudles ∧
    segment.fmt.dataLength.toNat + sizes (segment.missing center.vecModules) ≤ center.total.toNat

/-- The segment can take all the modules: an old one grows only if its data do not end at the total. -/
def ShareMemoryCenter.Accommodates (center : ShareMemoryCenter) : Option Segment → AttachAnswer → Prop
  | _, .absent (some (size, data)) => center.RoomFor ((rawSegment size data).clear center.total) True
  | some old, .attached size behind _ =>
    center.RoomFor (old.survive size behind) (old.fmt.dataLength ≠ center.total)
  | _, _ => False

section Regions

variable {regs : List ShareMemoryModuleReg} {segment next : Segment} {name : CString}

theorem regions_eq (segment : Segment) (name : CString) : segment.fmt.regions name =
    ((List.range segment.fmt.modulesCount).filter fun i => (segment.fmt.modules i).szName = name).map
      fun i => (segment.fmt.modules i).region := by
  rw [ShareMemoryCenterDataFmt.regions, ShareMemoryCenterDataFmt.entries, List.filter_map, List.map_map]
  rfl

theorem findModule_region (fmt : ShareMemoryCenterDataFmt) (name : CString) :
    (findModule fmt name).map (·.region) = (fmt.regions name).head? := by
  rw [ShareMemoryCenterDataFmt.regions, List.head?_map, List.head?_filter]
  rfl

theorem SameLayout.regions (same : SameLayout segment next) (name : CString) :
    next.fmt.regions name = segment.fmt.regions name := by
  rw [regions_eq, regions_eq, same.modulesCount]
  simp only [same.szName, ShareMemoryModule.region, same.dataOffset, same.zSize]

theorem Attached.regions {indices : List Nat} {calls : List Attachment}
    (attached : Attached regs indices segment ret next calls) (zero : ret = 0)
    (notified : ((findReg regs name).bind (·.notifier)).isSome) :
    (calls.filter (·.name = name)).map (·.region) =
      (indices.filter fun i => (segment.fmt.modules i).szName = name).map
        fun i => (segment.fmt.modules i).region := by
  induction attached with
  | done => rfl
  | unknown => cases zero
  | @silent i rest ret next calls segment _ silent _ ih =>
    have same := sameLayout_inited segment i
    have other : (segment.fmt.modules i).szName ≠ name := by
      rintro rfl
      rw [Segment.notifier] at silent
      simp [silent] at notified
    rw [ih zero, List.filter_cons_of_neg (by simpa using other)]
    simp only [same.szName, ShareMemoryModule.region, same.dataOffset, same.zSize]
  | failed => cases zero
  | @attached i onAttach rest ret next calls segment _ _ _ ih =>
    have same := (sameLayout_attach segment i onAttach).trans (sameLayout_inited _ i)
    have called : (segment.attachment i).name = (segment.fmt.modules i).szName := rfl
    have region : (segment.attachment i).region = (segment.fmt.modules i).region := rfl
    have tail := ih zero
    simp only [same.szName, ShareMemoryModule.region, same.dataOffset, same.zSize] at tail
    by_cases isNamed : (segment.fmt.modules i).szName = name
    · simp [called, region, isNamed, tail, ShareMemoryModule.region]
    · simp [called, isNamed, tail, ShareMemoryModule.region]

theorem Grown.regions {added : List ShareMemoryModuleReg} (grown : Grown total segment added next)
    (name : CString) : ∃ fresh, next.fmt.regions name = segment.fmt.regions name ++ fresh ∧
      fresh.map (·.2) = (added.filter (·.name.cut = name)).map (·.zSize) := by
  induction grown with
  | nil => exact ⟨[], (List.append_nil _).symm, rfl⟩
  | @cons reg added next segment admits rest ih =>
    obtain ⟨fresh, whole, fresh_sizes⟩ := ih
    have first : (segment.append reg).fmt.regions name = segment.fmt.regions name ++
        ([segment.entry reg].filter (·.szName = name)).map (·.region) := by
      rw [ShareMemoryCenterDataFmt.regions, entries_append, List.filter_append, List.map_append]
      rfl
    refine ⟨([segment.entry reg].filter (·.szName = name)).map (·.region) ++ fresh, ?_, ?_⟩
    · rw [whole, first, List.append_assoc]
    · by_cases isNamed : reg.name.cut = name <;>
        simp [Segment.entry, ShareMemoryModule.region, isNamed, fresh_sizes]

end Regions

section Final

variable {center : ShareMemoryCenter} {segment : Segment} {reg : ShareMemoryModuleReg}

theorem served_serves (zero : (center.served segment).ret = 0) (member : reg ∈ center.vecModules) :
    (center.served segment).Serves reg ↔
      segment.fmt.regions reg.name ≠ [] ∧ Suits reg (segment.fmt.regions reg.name) := by
  obtain ⟨after, is_after, attached⟩ := center.served_attached segment
  have kept := attached.sameLayout.regions reg.name
  have calls : reg.notifier.isSome → ((center.served segment).calls.filter (·.name = reg.name)).map (·.region) =
      segment.fmt.regions reg.name := by
    intro notified
    rw [regions_eq]
    refine attached.regions zero ?_
    rw [findReg_of_mem center.distinct member]
    exact notified
  constructor
  · rintro ⟨_, mod, isAfter, found, size, once⟩
    cases is_after.symm.trans isAfter
    have head := findModule_region after.fmt reg.name
    rw [found, kept] at head
    obtain ⟨rest, whole⟩ := List.head?_eq_some_iff.mp head.symm
    rw [whole]
    refine ⟨nofun, size, fun notified => ?_⟩
    have alone := (calls notified).symm.trans (once notified)
    rw [whole] at alone
    exact (List.cons.inj alone).2
  · rintro ⟨some_region, suits⟩
    obtain ⟨region, rest, whole⟩ := List.exists_cons_of_ne_nil some_region
    rw [whole] at suits
    obtain ⟨size, alone⟩ := suits
    have head := findModule_region after.fmt reg.name
    rw [kept, whole] at head
    obtain ⟨mod, found, rfl⟩ := Option.map_eq_some_iff.mp head
    refine ⟨after, mod, is_after, found, size, fun notified => ?_⟩
    rw [calls notified, whole, alone notified]

end Final

section Room

variable {center : ShareMemoryCenter} {regs added : List ShareMemoryModuleReg} {reg : ShareMemoryModuleReg}
  {total : UInt64} {segment next : Segment}

theorem regions_eq_nil {fmt : ShareMemoryCenterDataFmt} :
    fmt.regions name = [] ↔ findModule fmt name = none := by
  rw [← List.head?_eq_none_iff, ← findModule_region, Option.map_eq_none_iff]

theorem mem_missing : reg ∈ segment.missing regs ↔ reg ∈ regs ∧ segment.fmt.regions reg.name = [] := by
  rw [Segment.missing, List.mem_filter, regions_eq_nil, Option.isNone_iff_eq_none]

theorem short_of_regions {name : CString} (found : segment.fmt.regions name ≠ []) : name.1.length ≤ 31 := by
  rw [Ne, regions_eq_nil, ← Ne, Option.ne_none_iff_exists'] at found
  obtain ⟨mod, found⟩ := found
  have named : mod.szName = name := by simpa using List.find?_some found
  exact named ▸ Nat.le_of_lt_succ mod.short

theorem Grown.absent (grown : Grown total segment added next) :
    ∀ reg ∈ added, findModule segment.fmt reg.name = none := by
  induction grown with
  | nil => nofun
  | @cons reg added next segment admits rest ih =>
    refine List.forall_mem_cons.mpr ⟨admits.absent, fun other member => ?_⟩
    cases found : findModule segment.fmt other.name with
    | none => rfl
    | some mod => exact (findModule_append_of_some segment reg found).symm.trans (ih other member)

theorem Grown.limits (grown : Grown total segment added next) (some_added : added ≠ []) :
    next.fmt.modulesCount ≤ recoveryshmMaxMoudles ∧ next.fmt.dataLength.toNat ≤ total.toNat := by
  cases grown with
  | nil => exact absurd rfl some_added
  | @cons reg _ _ _ admits rest =>
    have first : (segment.append reg).fmt.dataLength ≤ total := by
      rw [UInt64.le_iff_toNat_le, admits.dataLength]
      exact admits.fits
    exact ⟨rest.modulesCount_le admits.count, UInt64.le_iff_toNat_le.mp (rest.dataLength_le first)⟩

theorem filter_cut (short : ∀ reg ∈ regs, reg.name.1.length ≤ 31) (sublist : added.Sublist regs)
    (name : CString) :
    added.filter (·.name.cut = name) = added.filter (·.name = name) := by
  refine List.filter_congr fun other member => ?_
  rw [CString.cut_of_short (Nat.lt_succ_of_le (short other (sublist.subset member)))]

theorem ShareMemoryCenter.RoomFor.serves (roomy : center.RoomFor segment grows)
    (grown : Grown center.total segment (segment.missing center.vecModules) next)
    (member : reg ∈ center.vecModules) :
    next.fmt.regions reg.name ≠ [] ∧ Suits reg (next.fmt.regions reg.name) := by
  have sublist : (segment.missing center.vecModules).Sublist center.vecModules := List.filter_sublist
  have distinct := center.distinct.sublist (sublist.map (·.name))
  obtain ⟨fresh, whole, fresh_sizes⟩ := grown.regions reg.name
  rw [filter_cut roomy.short sublist] at fresh_sizes
  by_cases absent : segment.fmt.regions reg.name = []
  · rw [Record.filter_key distinct (mem_missing.mpr ⟨member, absent⟩), List.map_singleton] at fresh_sizes
    obtain ⟨region, alone, size⟩ := List.map_eq_singleton_iff.mp fresh_sizes
    rw [whole, absent, alone, List.nil_append]
    exact ⟨nofun, size, fun _ => rfl⟩
  · have none_added : (segment.missing center.vecModules).filter (·.name = reg.name) = [] := by
      refine List.filter_eq_nil_iff.mpr fun other isMissing same => absent ?_
      exact of_decide_eq_true same ▸ (mem_missing.mp isMissing).2
    rw [none_added, List.map_nil, List.map_eq_nil_iff] at fresh_sizes
    rw [whole, fresh_sizes, List.append_nil]
    exact ⟨absent, roomy.suits reg member⟩

private theorem missing_perm_of_serves (grown : Grown total segment added next)
    (sublist : added.Sublist center.vecModules)
    (serves : ∀ reg ∈ center.vecModules, next.fmt.regions reg.name ≠ []) :
    added.Perm (segment.missing center.vecModules) := by
  have nodup : center.vecModules.Nodup := List.Nodup.of_map _ center.distinct
  have short : ∀ reg ∈ center.vecModules, reg.name.1.length ≤ 31 :=
    fun reg member => short_of_regions (serves reg member)
  refine (List.perm_ext_iff_of_nodup (nodup.sublist sublist) (nodup.sublist List.filter_sublist)).mpr fun reg => ?_
  rw [← Segment.missing, mem_missing, regions_eq_nil]
  refine ⟨fun isAdded => ⟨sublist.subset isAdded, grown.absent reg isAdded⟩, ?_⟩
  rintro ⟨member, absent⟩
  obtain ⟨fresh, whole, fresh_sizes⟩ := grown.regions reg.name
  rw [filter_cut short sublist] at fresh_sizes
  have some_fresh : fresh ≠ [] := by
    have found := serves reg member
    rwa [whole, regions_eq_nil.mpr absent, List.nil_append] at found
  have some_added : added.filter (·.name = reg.name) ≠ [] := by
    intro none_added
    rw [none_added, List.map_nil, List.map_eq_nil_iff] at fresh_sizes
    exact some_fresh fresh_sizes
  obtain ⟨other, isOther⟩ := List.exists_mem_of_ne_nil _ some_added
  obtain ⟨isAdded, sameName⟩ := List.mem_filter.mp isOther
  have identical : other ∈ [reg] := by
    rw [← Record.filter_key center.distinct member]
    exact List.mem_filter.mpr ⟨sublist.subset isAdded, sameName⟩
  exact List.mem_singleton.mp identical ▸ isAdded

theorem roomFor_of_serves (grown : Grown center.total segment added next)
    (sublist : added.Sublist center.vecModules) (grew : added ≠ [] → grows)
    (serves : ∀ reg ∈ center.vecModules, next.fmt.regions reg.name ≠ [] ∧ Suits reg (next.fmt.regions reg.name)) :
    center.RoomFor segment grows where
  short reg member := short_of_regions (serves reg member).1
  suits reg member := by
    obtain ⟨fresh, whole, _⟩ := grown.regions reg.name
    have after := (serves reg member).2
    cases before : segment.fmt.regions reg.name with
    | nil => trivial
    | cons region rest =>
      rw [whole, before] at after
      exact ⟨after.1, fun notified => (List.append_eq_nil_iff.mp (after.2 notified)).1⟩
  room := by
    have perm := missing_perm_of_serves grown sublist fun reg member => (serves reg member).1
    by_cases none_added : added = []
    · rw [none_added] at perm
      exact .inl (List.nil_perm.mp perm)
    · obtain ⟨count, fits⟩ := grown.limits none_added
      have sum : sizes added = sizes (segment.missing center.vecModules) := sizes_eq_of_perm (perm.map _)
      rw [grown.modulesCount, perm.length_eq] at count
      rw [grown.dataLength, sum] at fits
      exact .inr ⟨grew none_added, count, fits⟩

private theorem appendLoop_none_missing (none_missing : segment.missing todo = []) :
    appendLoop regs total todo segment = .ok segment := by
  induction todo with
  | nil => rfl
  | cons reg rest ih =>
    have each := List.filter_eq_nil_iff.mp none_missing
    have found : (findModule segment.fmt reg.name).isSome := by
      simpa [Option.isSome_iff_ne_none] using each reg List.mem_cons_self
    unfold appendLoop
    rw [if_pos found]
    exact ih (List.filter_eq_nil_iff.mpr fun other member => each other (List.mem_cons_of_mem _ member))

theorem ShareMemoryCenter.RoomFor.grown (roomy : center.RoomFor segment grows)
    (room : center.total ≤ segment.size)
    (ran : appendRegModules center.vecModules center.total segment = .ok next) :
    Grown center.total segment (segment.missing center.vecModules) next := by
  rcases roomy.room with none_missing | ⟨_, count, fits⟩
  · have same := (appendLoop_none_missing none_missing).symm.trans ran
    cases same
    rw [none_missing]
    exact .nil
  · have short : ∀ reg ∈ center.vecModules, reg.name.1.length < 32 :=
      fun reg member => Nat.lt_succ_of_le (roomy.short reg member)
    obtain ⟨final, made, grown⟩ := appendLoop_all center.registered center.distinct short fits count room
    have same : final = next := Except.ok.inj (made.symm.trans ran)
    exact same ▸ grown

end Room

/-- When `Init` returns 0, it serves all modules if and only if the segment could take them all. -/
theorem init_serves_iff {center : ShareMemoryCenter} {old : Option Segment} {answer : AttachAnswer}
    {outcome : Outcome} (answers : center.Answers old answer) (ran : center.init old answer = .ok outcome)
    (zero : outcome.ret = 0) :
    (∀ reg ∈ center.vecModules, outcome.Serves reg) ↔ center.Accommodates old answer := by
  have each {segment : Segment} (zero : (center.served segment).ret = 0) :
      (∀ reg ∈ center.vecModules, (center.served segment).Serves reg) ↔ ∀ reg ∈ center.vecModules,
        segment.fmt.regions reg.name ≠ [] ∧ Suits reg (segment.fmt.regions reg.name) :=
    forall₂_congr fun _ member => served_serves zero member
  cases init_cases ran with
  | failed => cases zero
  | uncreated => cases zero
  | created _ room made =>
    obtain ⟨added, sublist, grown⟩ := appendLoop_grown center.registered made
    rw [each zero]
    exact ⟨roomFor_of_serves grown sublist fun _ => trivial,
      fun roomy reg member => roomy.serves (roomy.grown room made) member⟩
  | unchecked => cases zero
  | extended _ less _ made =>
    obtain ⟨added, sublist, grown⟩ := appendLoop_grown center.registered made
    rw [each zero]
    exact ⟨roomFor_of_serves grown sublist fun _ => UInt64.ne_of_lt less,
      fun roomy reg member => roomy.serves (roomy.grown answers.2.1.1 made) member⟩
  | unchanged _ same =>
    rw [each zero]
    refine ⟨roomFor_of_serves .nil (List.nil_sublist _) fun some_added => absurd rfl some_added,
      fun roomy reg member => roomy.serves ?_ member⟩
    rcases roomy.room with none_missing | ⟨grows, _⟩
    · rw [none_missing]
      exact .nil
    · exact absurd same grows

section Decidable

instance (reg : ShareMemoryModuleReg) (regions : List (UInt64 × UInt64)) : Decidable (Suits reg regions) :=
  match regions with
  | [] => inferInstanceAs (Decidable True)
  | region :: rest => inferInstanceAs (Decidable (region.2 = reg.zSize ∧ (reg.notifier.isSome → rest = [])))

instance (center : ShareMemoryCenter) (segment : Segment) (grows : Prop) [Decidable grows] :
    Decidable (center.RoomFor segment grows) :=
  decidable_of_iff ((∀ reg ∈ center.vecModules, reg.name.1.length ≤ 31) ∧
    (∀ reg ∈ center.vecModules, Suits reg (segment.fmt.regions reg.name)) ∧
    (segment.missing center.vecModules = [] ∨ grows ∧
      segment.fmt.modulesCount + (segment.missing center.vecModules).length ≤ recoveryshmMaxMoudles ∧
      segment.fmt.dataLength.toNat + sizes (segment.missing center.vecModules) ≤ center.total.toNat))
    ⟨fun ⟨short, suits, room⟩ => ⟨short, suits, room⟩, fun roomy => ⟨roomy.short, roomy.suits, roomy.room⟩⟩

instance (center : ShareMemoryCenter) (old : Option Segment) (answer : AttachAnswer) :
    Decidable (center.Accommodates old answer) :=
  match old, answer with
  | none, .absent (some (size, data)) =>
    inferInstanceAs (Decidable (center.RoomFor ((rawSegment size data).clear center.total) True))
  | some _, .absent (some (size, data)) =>
    inferInstanceAs (Decidable (center.RoomFor ((rawSegment size data).clear center.total) True))
  | some old, .attached size behind _ =>
    inferInstanceAs (Decidable (center.RoomFor (old.survive size behind) (old.fmt.dataLength ≠ center.total)))
  | none, .attached _ _ _ => isFalse id
  | none, .absent none => isFalse id
  | some _, .absent none => isFalse id
  | none, .failed => isFalse id
  | some _, .failed => isFalse id

end Decidable

/-- A process with these modules calls `Init`. -/
def started (regs : List ShareMemoryModuleReg) (old : Option Segment) (answer : AttachAnswer) :
    Option Outcome :=
  ((registerAll regs).init old answer).toOption

theorem init_of_started (ran : started regs old answer = some outcome) :
    (registerAll regs).init old answer = .ok outcome := by
  unfold started at ran
  cases result : (registerAll regs).init old answer with
  | error death =>
    rw [result] at ran
    cases ran
  | ok made =>
    rw [result] at ran
    cases ran
    rfl

/-- The segment that a process with two modules leaves. -/
def twoModules : Option Segment :=
  (started [quietModule 0 10, quietModule 1 20] none
    (.absent (some (12700, fun _ => 255)))).bind (·.segment)

def threeModules : List ShareMemoryModuleReg :=
  [quietModule 0 10, quietModule 1 20, quietModule 2 5]

def threeOutcome : Outcome :=
  (started threeModules twoModules (.attached 12700 (fun _ => 255) 1)).get (by decide +kernel)

theorem init_serves_iff_three :
    threeOutcome.ret = 0 ∧ ∀ reg ∈ (registerAll threeModules).vecModules, threeOutcome.Serves reg := by
  have ran : (registerAll threeModules).init twoModules (.attached 12700 (fun _ => 255) 1) = .ok threeOutcome :=
    init_of_started (Option.some_get _).symm
  have zero : threeOutcome.ret = 0 := by decide +kernel
  exact ⟨zero, (init_serves_iff (by decide +kernel) ran zero).mpr (by decide +kernel)⟩

private theorem not_serves_of_size {outcome : Outcome} {reg : ShareMemoryModuleReg}
    (other : (outcome.segment.bind fun after => findModule after.fmt reg.name).map (·.zSize) ≠ some reg.zSize) :
    ¬ outcome.Serves reg := by
  rintro ⟨after, mod, is_after, found, size, _⟩
  exact other (by simp [is_after, found, size])

/-- The next process has the two modules with their sizes swapped. -/
def swappedModules :
    List ShareMemoryModuleReg := [quietModule 0 20, quietModule 1 10]

def swappedOutcome : Outcome :=
  (started swappedModules twoModules (.attached 12700 (fun _ => 255) 1)).get (by decide +kernel)

/-- The next process has a third module, and less of the others. -/
def shrunkModules : List ShareMemoryModuleReg :=
  [quietModule 0 10, quietModule 1 15, quietModule 2 6]

def shrunkOutcome : Outcome :=
  (started shrunkModules twoModules (.attached 12700 (fun _ => 255) 1)).get (by decide +kernel)

/-- `Init` returns 0 although a module gets a region of another size, and although one gets none. -/
theorem init_serves_wrong_size :
    ((registerAll swappedModules).init twoModules (.attached 12700 (fun _ => 255) 1) = .ok swappedOutcome ∧
      swappedOutcome.ret = 0 ∧ ¬ swappedOutcome.Serves (quietModule 0 20)) ∧
    (registerAll shrunkModules).init twoModules (.attached 12700 (fun _ => 255) 1) = .ok shrunkOutcome ∧
      shrunkOutcome.ret = 0 ∧ ¬ shrunkOutcome.Serves (quietModule 2 6) := by
  refine ⟨⟨init_of_started (Option.some_get _).symm, by decide +kernel, not_serves_of_size ?_⟩,
    init_of_started (Option.some_get _).symm, by decide +kernel, not_serves_of_size ?_⟩
  · decide +kernel
  · decide +kernel

end Playground.Shm
