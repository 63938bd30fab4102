import Playground.Transition.Steps
import Playground.Shm.Recorded

/-! Processes that start one after the other on a segment, each with the modules of the one before
and perhaps more. -/

namespace Playground.Shm

open Framing Layout Transition

/-- The segment, with the modules of the last process, and the names of those that ever succeeded. -/
structure RestartWorld where
  segment : Option Segment := none
  regs : List ShareMemoryModuleReg := []
  succeeded : List CString := []

/-- A process starts, or stores into the region of a module. -/
inductive RestartEvent where
  | boot (regs : List ShareMemoryModuleReg) (answer : AttachAnswer)
  | store (i : Nat) (bytes : Bytes)

/-- The segment has room for all modules. -/
def ShareMemoryCenter.Fits (center : ShareMemoryCenter) (size : UInt64) : Prop :=
  sizeofDataFmt + sizes center.vecModules ≤ size.toNat

/-- There is a segment if one was created before; `Attach` and `Create` give at least the size that is
asked for. -/
def ShareMemoryCenter.Grants (center : ShareMemoryCenter) : Option Segment → AttachAnswer → Prop
  | none, .absent (some (size, _)) => center.Fits size
  | some before, .attached size _ nattach => center.Fits size ∧ before.size ≤ size ∧ 1 ≤ nattach
  | _, _ => False

/-- The process has the modules of the one before, and the segment has room. -/
structure RestartWorld.Admits (world : RestartWorld) (regs : List ShareMemoryModuleReg) (answer : AttachAnswer) :
    Prop where
  upgrade : Upgrade world.regs (registerAll regs).vecModules
  grants : (registerAll regs).Grants world.segment answer

def RestartWorld.after (world : RestartWorld) (regs : List ShareMemoryModuleReg) (outcome : Outcome) :
    RestartWorld where
  segment := outcome.segment
  regs := (registerAll regs).vecModules
  succeeded := world.succeeded ++
    (outcome.calls.filter fun call => call.Succeeds (registerAll regs).vecModules).map (·.name)

/-- One process after the other. -/
inductive RestartStep : RestartWorld → RestartEvent → RestartWorld → Prop where
  | boot (admits : world.Admits regs answer) (ran : (registerAll regs).init world.segment answer = .ok outcome) :
      RestartStep world (.boot regs answer) (world.after regs outcome)
  | store {segment : Segment} (present : world.segment = some segment) (inside : i < segment.fmt.modulesCount) :
      RestartStep world (.store i bytes) { world with segment := some { segment with
        data := write segment.data (segment.fmt.modules i).block bytes } }

/-- The modules of the last process have their entries, with the marks of those that succeeded. -/
structure Holds (segment : Segment) (regs : List ShareMemoryModuleReg) (succeeded : List CString) : Prop where
  recorded : Recorded segment regs
  unmarked : ∀ i, segment.fmt.modulesCount ≤ i → (segment.fmt.modules i).chInited = 0
  marked : ∀ i < segment.fmt.modulesCount, (segment.fmt.modules i).szName ∈ succeeded →
    (segment.fmt.modules i).chInited = 1
  known : ∀ name ∈ succeeded, name ∈ regs.map (·.name)

/-- The segment that the modules are appended to. -/
inductive Base (center : ShareMemoryCenter) : Option Segment → AttachAnswer → Segment → Prop where
  | created (fits : center.Fits size) :
      Base center none (.absent (some (size, data))) ((rawSegment size data).clear center.total)
  | attached {before : Segment} (fits : center.Fits size) (larger : before.size ≤ size)
      (nattached : 1 ≤ nattach) :
      Base center (some before) (.attached size behind nattach) (before.survive size behind)

section Boot

variable {center : ShareMemoryCenter} {old : List ShareMemoryModuleReg} {succeeded : List CString}
  {before : Option Segment} {answer : AttachAnswer} {base next : Segment}

theorem ShareMemoryCenter.Grants.exists_base (grants : center.Grants before answer) :
    ∃ base, Base center before answer base := by
  unfold ShareMemoryCenter.Grants at grants
  split at grants
  · exact ⟨_, .created grants⟩
  · obtain ⟨fits, larger, nattached⟩ := grants
    exact ⟨_, .attached fits larger nattached⟩
  · cases grants

theorem Base.fits (onto : Base center before answer base) : center.Fits base.size := by
  cases onto with
  | created fits => exact fits
  | attached fits => exact fits

theorem Base.kept {segment : Segment} (onto : Base center before answer base)
    (present : before = some segment) :
    base.fmt = segment.fmt ∧ ∀ place < segment.size.toNat, base.data place = segment.data place := by
  cases onto with
  | created => cases present
  | attached =>
    cases present
    exact ⟨rfl, fun place inside => if_pos inside⟩

theorem Base.init_eq (onto : Base center before answer base) (recorded : Recorded base old)
    (upgrade : Upgrade old center.vecModules)
    (total : center.total.toNat = sizeofDataFmt + sizes center.vecModules) :
    ∃ next, center.init before answer = .ok (center.served next) ∧
      Grown center.total base (base.missing center.vecModules) next := by
  have room : center.total ≤ base.size := by
    rw [UInt64.le_iff_toNat_le, total]
    exact onto.fits
  obtain ⟨next, ran, grown⟩ := recorded.grow upgrade total room
  refine ⟨next, Initialised.init_eq ?_, grown⟩
  cases onto with
  | created fits => exact .created (Nat.le_trans (Nat.le_add_right _ _) fits) room ran
  | @attached size nattach behind segment fits larger nattached =>
    have checked : check nattach (segment.survive size behind) = 0 := by
      have magic : (segment.survive size behind).fmt.magic = shmMagic := recorded.laid.magic
      unfold check
      rw [if_neg (by omega), if_pos magic]
    by_cases same : segment.fmt.dataLength = center.total
    · rw [recorded.missing_eq_nil upgrade (total ▸ congrArg UInt64.toNat same)] at grown
      cases grown
      exact .unchanged checked same
    · obtain ⟨less, fewer⟩ := recorded.grows upgrade total same
      exact .extended checked less fewer ran

theorem holds_clear {size : UInt64} (room : sizeofDataFmt ≤ size.toNat) :
    Holds ((rawSegment size data).clear total) [] [] where
  recorded := ⟨wellLaid_clear room, .nil, .nil⟩
  unmarked _ _ := rfl
  marked _ inside := absurd inside (Nat.not_lt_zero _)
  known := nofun

namespace Holds

theorem survive {segment : Segment} (holds : Holds segment old succeeded)
    (larger : segment.size ≤ size) (behind : Nat → UInt8) : Holds (segment.survive size behind) old succeeded :=
  ⟨⟨holds.recorded.laid.survive larger behind, holds.recorded.directory, holds.recorded.distinct⟩,
    holds.unmarked, holds.marked, holds.known⟩

theorem grown (holds : Holds base old succeeded) (upgrade : Upgrade old center.vecModules)
    (grown : Grown center.total base (base.missing center.vecModules) next) :
    Holds next center.vecModules succeeded where
  recorded := holds.recorded.grown upgrade grown
  unmarked i free := by
    rw [grown.modules_ge free]
    exact holds.unmarked i (Nat.le_trans (by rw [grown.modulesCount]; omega) free)
  marked i inside success := by
    -- a name that succeeded is one of the old entries
    obtain ⟨j, insideOld, named⟩ := holds.recorded.exists_index (holds.known _ success)
    have kept := grown.modules_lt insideOld
    have insideNew : j < next.fmt.modulesCount := by
      rw [grown.modulesCount]
      omega
    have same : i = j :=
      (holds.recorded.grown upgrade grown).index_unique inside insideNew (by rw [kept, named])
    subst same
    rw [kept] at success ⊢
    exact holds.marked i insideOld success
  known name success := by
    obtain ⟨reg, member, rfl⟩ := List.mem_map.mp (holds.known name success)
    obtain ⟨newer, memberNew, equal⟩ := List.mem_map.mp (upgrade.superset _ (List.mem_map_of_mem member))
    rw [← (Prod.mk.inj equal).1]
    exact List.mem_map_of_mem memberNew

theorem attached {segment : Segment} {calls : List Attachment} (holds : Holds segment regs succeeded)
    (attached : Attached regs (List.range segment.fmt.modulesCount) segment ret after calls) :
    Holds after regs (succeeded ++ (calls.filter fun call => call.Succeeds regs).map (·.name)) where
  recorded := holds.recorded.sameLayout attached.sameLayout
  unmarked i free := by
    rw [attached.sameLayout.modulesCount] at free
    rw [attached.unmarked (by simpa using free)]
    exact holds.unmarked i free
  marked i inside success := by
    rw [attached.sameLayout.modulesCount] at inside
    rw [attached.sameLayout.szName] at success
    rcases List.mem_append.mp success with earlier | now
    · exact attached.marked (holds.marked i inside earlier)
    · obtain ⟨call, member, named⟩ := List.mem_map.mp now
      obtain ⟨called, succeeds⟩ := List.mem_filter.mp member
      obtain ⟨j, inRange, sameName, mark⟩ := attached.marks called (of_decide_eq_true succeeds)
      rw [holds.recorded.index_unique inside (List.mem_range.mp inRange) (named.symm.trans sameName.symm)]
      exact mark
  known name success := by
    rcases List.mem_append.mp success with earlier | now
    · exact holds.known name earlier
    · obtain ⟨call, member, rfl⟩ := List.mem_map.mp now
      obtain ⟨called, succeeds⟩ := List.mem_filter.mp member
      obtain ⟨j, inRange, sameName, _⟩ := attached.marks called (of_decide_eq_true succeeds)
      rw [← sameName]
      exact holds.recorded.mem_names (List.mem_range.mp inRange)

theorem store {segment : Segment} (holds : Holds segment old succeeded) (data : Nat → UInt8) :
    Holds { segment with data } old succeeded := by
  have laid := holds.recorded.laid
  exact ⟨⟨⟨laid.magic, laid.count, laid.packed, laid.inside⟩, holds.recorded.directory, holds.recorded.distinct⟩,
    holds.unmarked, holds.marked, holds.known⟩

end Holds

end Boot

/-- What holds between two processes. -/
def RestartWorld.Inv (world : RestartWorld) : Prop :=
  match world.segment with
  | none => world.regs = [] ∧ world.succeeded = []
  | some segment => Holds segment world.regs world.succeeded

section Run

variable {world next : RestartWorld} {regs : List ShareMemoryModuleReg} {answer : AttachAnswer}

theorem Base.holds (onto : Base center world.segment answer base)
    (inv : world.Inv) : Holds base world.regs world.succeeded := by
  unfold RestartWorld.Inv at inv
  generalize world.segment = before at onto inv
  cases onto with
  | created fits =>
    rw [inv.1, inv.2]
    exact holds_clear (Nat.le_trans (Nat.le_add_right _ _) fits)
  | attached _ larger _ => exact Holds.survive inv larger _

/-- All that a start does: the missing modules are added to the segment, and all are attached. -/
structure Booted (world : RestartWorld) (regs : List ShareMemoryModuleReg) (answer : AttachAnswer)
    (base grown after : Segment) : Prop where
  onto : Base (registerAll regs) world.segment answer base
  holdsBase : Holds base world.regs world.succeeded
  growth : Grown (registerAll regs).total base (base.missing (registerAll regs).vecModules) grown
  holds : Holds grown (registerAll regs).vecModules world.succeeded
  ran : (registerAll regs).init world.segment answer = .ok ((registerAll regs).served grown)
  is_after : ((registerAll regs).served grown).segment = some after
  attached : Attached (registerAll regs).vecModules (List.range grown.fmt.modulesCount) grown
    ((registerAll regs).served grown).ret after ((registerAll regs).served grown).calls

theorem RestartWorld.Inv.boot (inv : world.Inv) (admits : world.Admits regs answer) :
    ∃ base grown after, Booted world regs answer base grown after := by
  obtain ⟨base, onto⟩ := admits.grants.exists_base
  have holds := onto.holds inv
  have bounded : sizeofDataFmt + sizes (registerAll regs).vecModules < 2 ^ 64 :=
    Nat.lt_of_le_of_lt onto.fits base.size.toNat_lt
  obtain ⟨grown, ran, growth⟩ := onto.init_eq holds.recorded admits.upgrade (registerAll_total bounded)
  obtain ⟨after, is_after, attached⟩ := (registerAll regs).served_attached grown
  exact ⟨base, grown, after, onto, holds, growth, holds.grown admits.upgrade growth, ran, is_after, attached⟩

theorem RestartStep.inv (step : RestartStep world event next) (inv : world.Inv) : next.Inv := by
  cases step with
  | @boot world regs answer outcome admits ran =>
    obtain ⟨base, grown, after, booted⟩ := inv.boot admits
    rw [booted.ran] at ran
    cases ran
    simp only [RestartWorld.Inv, RestartWorld.after, booted.is_after]
    exact booted.holds.attached booted.attached
  | @store world i bytes segment present inside =>
    simp only [RestartWorld.Inv, present] at inv ⊢
    exact inv.store _

end Run

/-- What the start of a process gives to one of its modules, which finds its region as in `found`. -/
structure Handed (world : RestartWorld) (outcome : Outcome) (after : Segment) (reg : ShareMemoryModuleReg)
    (mod : ShareMemoryModule) (found : Attachment) : Prop where
  entry : findModule after.fmt reg.name = some mod
  region : found.name = reg.name ∧ found.dataOffset = mod.dataOffset ∧ found.zSize = reg.zSize ∧
    mod.zSize = reg.zSize
  /-- A module that was there has its place and its bytes, and is marked if it succeeded before. -/
  kept : reg.name ∈ world.regs.map (·.name) → ∃ before old, world.segment = some before ∧
    findModule before.fmt reg.name = some old ∧ mod.dataOffset = old.dataOffset ∧ mod.zSize = old.zSize ∧
    found.data = read before.data old.block ∧ (reg.name ∈ world.succeeded → found.chInited = 1)
  fresh : reg.name ∉ world.regs.map (·.name) →
    found.chInited = 0 ∧ found.data = List.replicate reg.zSize.toNat 0
  /-- `OnAttach` is called once with this region, unless another one failed before. -/
  calls : outcome.calls.filter (·.name = reg.name) = [found] ∧ reg.notifier.isSome ∨
    outcome.calls.filter (·.name = reg.name) = [] ∧ (reg.notifier.isSome → outcome.ret ≠ 0) ∧
      read after.data mod.block = found.data

section Handed

variable {regs : List ShareMemoryModuleReg} {segment after : Segment} {ret : Int} {calls : List Attachment}

variable (recorded : Recorded segment regs)

include recorded

theorem Recorded.range_filter (inside : i < segment.fmt.modulesCount) :
    (List.range segment.fmt.modulesCount).filter
      (fun j => (segment.fmt.modules j).szName = (segment.fmt.modules i).szName) = [i] := by
  have distinct : ((List.range segment.fmt.modulesCount).map fun j => (segment.fmt.modules j).szName).Nodup := by
    refine List.Nodup.map_on (fun j insideFirst k insideSecond same => ?_) List.nodup_range
    exact recorded.index_unique (List.mem_range.mp insideFirst) (List.mem_range.mp insideSecond) same
  exact Record.filter_key distinct (List.mem_range.mpr inside)

theorem Recorded.expected_filter (inside : i < segment.fmt.modulesCount) :
    (segment.expected regs (List.range segment.fmt.modulesCount)).filter
        (·.name = (segment.fmt.modules i).szName) =
      if (segment.notifier regs i).isSome then [segment.attachment i] else [] := by
  have named :
      (fun call : Attachment => decide (call.name = (segment.fmt.modules i).szName)) ∘ segment.attachment =
      fun j => decide ((segment.fmt.modules j).szName = (segment.fmt.modules i).szName) := rfl
  rw [Segment.expected, List.filter_map, named, List.filter_comm, recorded.range_filter inside]
  by_cases notified : (segment.notifier regs i).isSome <;> simp [notified]

theorem Recorded.calls_filter
    (attached : Attached regs (List.range segment.fmt.modulesCount) segment ret after calls)
    (inside : i < segment.fmt.modulesCount) :
    calls.filter (·.name = (segment.fmt.modules i).szName) = [segment.attachment i] ∧
        (segment.notifier regs i).isSome ∨
      calls.filter (·.name = (segment.fmt.modules i).szName) = [] ∧
        ((segment.notifier regs i).isSome → ret ≠ 0) := by
  have separate := recorded.laid.separate
  have starts := (attached.calls_isPrefix separate).filter (·.name = (segment.fmt.modules i).szName)
  have expected := recorded.expected_filter inside
  rw [expected] at starts
  by_cases notified : (segment.notifier regs i).isSome
  · rw [if_pos notified] at starts expected
    rcases List.prefix_cons_iff.mp starts with none_called | ⟨tail, called, rest⟩
    · refine .inr ⟨none_called, fun _ zero => ?_⟩
      rw [(attached.calls_of_zero separate zero).2, expected] at none_called
      cases none_called
    · rw [List.prefix_nil.mp rest] at called
      exact .inl ⟨called, notified⟩
  · rw [if_neg notified] at starts
    exact .inr ⟨List.prefix_nil.mp starts, fun some => absurd some notified⟩

theorem Recorded.read_uncalled
    (attached : Attached regs (List.range segment.fmt.modulesCount) segment ret after calls)
    (inside : i < segment.fmt.modulesCount)
    (uncalled : calls.filter (·.name = (segment.fmt.modules i).szName) = []) :
    read after.data (segment.fmt.modules i).block = read segment.data (segment.fmt.modules i).block := by
  refine attached.read_apart fun j member called => ?_
  obtain ⟨call, isCall, named⟩ := called
  refine recorded.laid.apart inside (List.mem_range.mp member) ?_
  rintro rfl
  exact absurd (decide_eq_true named) (List.filter_eq_nil_iff.mp uncalled call isCall)

end Handed

theorem RestartWorld.Inv.segment {world : RestartWorld} (inv : world.Inv)
    (named : name ∈ world.regs.map (·.name)) :
    ∃ before, world.segment = some before ∧ Holds before world.regs world.succeeded := by
  unfold RestartWorld.Inv at inv
  cases present : world.segment with
  | none =>
    rw [present] at inv
    rw [inv.1] at named
    cases named
  | some before =>
    rw [present] at inv
    exact ⟨before, rfl, inv⟩

namespace Booted

variable {world : RestartWorld} {regs : List ShareMemoryModuleReg} {answer : AttachAnswer}
  {base grown after : Segment} {reg : ShareMemoryModuleReg} {i : Nat}

variable (booted : Booted world regs answer base grown after)

include booted

private theorem attachment_kept {before : Segment}
    (present : world.segment = some before) (laid : before.WellLaid) (inside : i < before.fmt.modulesCount) :
    grown.fmt.modules i = before.fmt.modules i ∧ grown.attachment i = before.attachment i := by
  obtain ⟨sameFmt, sameData⟩ := booted.onto.kept present
  have insideBase : i < base.fmt.modulesCount := sameFmt ▸ inside
  have entry : grown.fmt.modules i = before.fmt.modules i := by rw [booted.growth.modules_lt insideBase, sameFmt]
  have bytes : read grown.data (before.fmt.modules i).block = read before.data (before.fmt.modules i).block := by
    refine read_congr fun place _ upto => ?_
    have short : place < before.fmt.dataLength.toNat := Nat.lt_of_lt_of_le upto (laid.bounds inside).2
    have within := UInt64.le_iff_toNat_le.mp laid.inside
    rw [booted.growth.data_lt (sameFmt ▸ short), sameData place (by omega)]
  refine ⟨entry, ?_⟩
  unfold Segment.attachment
  rw [entry]
  exact congrArg _ bytes

private theorem kept (inv : world.Inv) (inside : i < grown.fmt.modulesCount)
    (named : (grown.fmt.modules i).szName = reg.name) (wasThere : reg.name ∈ world.regs.map (·.name)) :
    ∃ before, world.segment = some before ∧ findModule before.fmt reg.name = some (before.fmt.modules i) ∧
      grown.fmt.modules i = before.fmt.modules i ∧ grown.attachment i = before.attachment i ∧
      (reg.name ∈ world.succeeded → (before.fmt.modules i).chInited = 1) := by
  obtain ⟨before, present, holdsBefore⟩ := inv.segment wasThere
  obtain ⟨j, insideBefore, namedBefore⟩ := holdsBefore.recorded.exists_index wasThere
  obtain ⟨entry, found⟩ := booted.attachment_kept present holdsBefore.recorded.laid insideBefore
  have insideGrown : j < grown.fmt.modulesCount := by
    rw [booted.growth.modulesCount, (booted.onto.kept present).1]
    omega
  have index : i = j :=
    booted.holds.recorded.index_unique inside insideGrown (by rw [named, entry, namedBefore])
  subst index
  have oldEntry := holdsBefore.recorded.findModule_index insideBefore
  rw [namedBefore] at oldEntry
  exact ⟨before, present, oldEntry, entry, found, fun success =>
    holdsBefore.marked i insideBefore (namedBefore ▸ success)⟩

private theorem fresh (inside : i < grown.fmt.modulesCount)
    (named : (grown.fmt.modules i).szName = reg.name) (isNew : reg.name ∉ world.regs.map (·.name)) :
    (grown.attachment i).chInited = 0 ∧
      (grown.attachment i).data = List.replicate (grown.fmt.modules i).zSize.toNat 0 := by
  have behind : base.fmt.modulesCount ≤ i := by
    refine Nat.le_of_not_lt fun insideBase => isNew ?_
    rw [← named, booted.growth.modules_lt insideBase]
    exact booted.holdsBase.recorded.mem_names insideBase
  obtain ⟨zeros, mark⟩ := booted.growth.fresh behind inside
  exact ⟨mark.trans (booted.holdsBase.unmarked i behind), zeros⟩

private theorem notifier_eq (member : reg ∈ (registerAll regs).vecModules)
    (named : (grown.fmt.modules i).szName = reg.name) :
    grown.notifier (registerAll regs).vecModules i = reg.notifier := by
  unfold Segment.notifier
  rw [named, findReg_of_mem booted.holds.recorded.distinct member]
  rfl

private theorem handed (inv : world.Inv) (member : reg ∈ (registerAll regs).vecModules) :
    ∃ mod found, Handed world ((registerAll regs).served grown) after reg mod found := by
  have recorded := booted.holds.recorded
  have same := booted.attached.sameLayout
  obtain ⟨i, inside, named⟩ := recorded.exists_index (List.mem_map_of_mem member)
  have size := recorded.zSize_eq member inside named
  refine ⟨after.fmt.modules i, grown.attachment i, ?_, ?_, ?_, ?_, ?_⟩
  · have entry := (recorded.sameLayout same).findModule_index (same.modulesCount ▸ inside)
    rwa [same.szName, named] at entry
  · exact ⟨named, (same.dataOffset i).symm, size, (same.zSize i).trans size⟩
  · intro wasThere
    obtain ⟨before, present, old, entry, found, mark⟩ := booted.kept inv inside named wasThere
    refine ⟨before, _, present, old, ?_, ?_, congrArg _ found, fun success => ?_⟩
    · rw [same.dataOffset, entry]
    · rw [same.zSize, entry]
    · rw [found]
      exact mark success
  · intro isNew
    rw [← size]
    exact booted.fresh inside named isNew
  · have called := recorded.calls_filter booted.attached inside
    rw [named, booted.notifier_eq member named] at called
    rcases called with once | ⟨uncalled, fails⟩
    · exact .inl once
    · refine .inr ⟨uncalled, fails, ?_⟩
      rw [same.block]
      exact recorded.read_uncalled booted.attached inside (named.symm ▸ uncalled)

end Booted

/-- However often processes started, each with the modules of the one before, the next one does not
abort. `Init` succeeds if no `OnAttach` fails, and every module finds its region: the old ones as
they left it, the new ones with zeros. -/
theorem restart_keeps_modules {events : List RestartEvent} {world : RestartWorld}
    {regs : List ShareMemoryModuleReg} {answer : AttachAnswer} (run : Steps RestartStep {} events world)
    (admits : world.Admits regs answer) :
    ∃ outcome after, (registerAll regs).init world.segment answer = .ok outcome ∧ outcome.segment = some after ∧
      (outcome.ret = 0 ↔ ∀ call ∈ outcome.calls, call.Succeeds (registerAll regs).vecModules) ∧
      ∀ reg ∈ (registerAll regs).vecModules, ∃ mod found, Handed world outcome after reg mod found := by
  have inv : world.Inv := run.invariant RestartStep.inv ⟨rfl, rfl⟩
  obtain ⟨base, grown, after, booted⟩ := inv.boot admits
  refine ⟨_, after, booted.ran, booted.is_after, booted.attached.ret_eq_zero fun i member => ?_,
    fun reg member => booted.handed inv member⟩
  -- every entry is of a registered module
  obtain ⟨reg, isReg, named⟩ := List.mem_map.mp (booted.holds.recorded.mem_names (List.mem_range.mp member))
  rw [← named, findReg_of_mem booted.holds.recorded.distinct isReg]
  nofun

instance (old regs : List ShareMemoryModuleReg) : Decidable (Upgrade old regs) :=
  decidable_of_iff ((∀ reg ∈ registrations old, reg ∈ registrations regs) ∧ (∀ reg ∈ regs, reg.name.1.length ≤ 31) ∧
    (∀ reg ∈ regs, 1 ≤ reg.zSize) ∧ regs.length ≤ recoveryshmMaxMoudles)
    ⟨fun ⟨superset, short, sized, count⟩ => ⟨superset, short, sized, count⟩,
      fun upgrade => ⟨upgrade.superset, upgrade.short, upgrade.sized, upgrade.count⟩⟩

instance (center : ShareMemoryCenter) (size : UInt64) : Decidable (center.Fits size) :=
  inferInstanceAs (Decidable (_ ≤ _))

instance (center : ShareMemoryCenter) (before : Option Segment) (answer : AttachAnswer) :
    Decidable (center.Grants before answer) :=
  match before, answer with
  | none, .absent (some (size, _)) => inferInstanceAs (Decidable (center.Fits size))
  | some before, .attached size _ nattach =>
    inferInstanceAs (Decidable (center.Fits size ∧ before.size ≤ size ∧ 1 ≤ nattach))
  | none, .absent none => isFalse id
  | none, .attached _ _ _ => isFalse id
  | none, .failed => isFalse id
  | some _, .absent _ => isFalse id
  | some _, .failed => isFalse id

instance (world : RestartWorld) (regs : List ShareMemoryModuleReg) (answer : AttachAnswer) :
    Decidable (world.Admits regs answer) :=
  decidable_of_iff
    (Upgrade world.regs (registerAll regs).vecModules ∧ (registerAll regs).Grants world.segment answer)
    ⟨fun ⟨upgrade, grants⟩ => ⟨upgrade, grants⟩, fun admits => ⟨admits.upgrade, admits.grants⟩⟩

def restartStep (world : RestartWorld) : RestartEvent → Option RestartWorld
  | .boot regs answer =>
    if world.Admits regs answer then
      ((registerAll regs).init world.segment answer).toOption.map (world.after regs)
    else none
  | .store i bytes =>
    (world.segment.filter fun segment => i < segment.fmt.modulesCount).map fun segment =>
      { world with segment := some { segment with
        data := write segment.data (segment.fmt.modules i).block bytes } }

theorem RestartStep.of_restartStep
    (stepped : restartStep world event = some next) : RestartStep world event next := by
  cases event with
  | boot regs answer =>
    simp only [restartStep] at stepped
    split at stepped
    · rename_i admits
      obtain ⟨outcome, ran, rfl⟩ := Option.map_eq_some_iff.mp stepped
      cases started : (registerAll regs).init world.segment answer with
      | error death =>
        rw [started] at ran
        cases ran
      | ok result =>
        rw [started] at ran
        cases ran
        exact .boot admits started
    · cases stepped
  | store i bytes =>
    obtain ⟨segment, present, rfl⟩ := Option.map_eq_some_iff.mp stepped
    obtain ⟨isSegment, inside⟩ := Option.filter_eq_some_iff.mp present
    exact .store isSegment (of_decide_eq_true inside)

/-- A process creates the segment and stores into its module. -/
def firstProcess : List RestartEvent :=
  [.boot [quietModule 0 4] (.absent (some (12600, fun _ => 255))), .store 0 [1, 2]]

def firstWorld : RestartWorld := (runAll restartStep {} firstProcess).get (by decide +kernel)

/-- The next process has another module, which it registers before the old one. -/
def secondModules :
    List ShareMemoryModuleReg := [quietModule 1 3, quietModule 0 4]

theorem restart_keeps_modules_second :
    (((registerAll secondModules).init firstWorld.segment (.attached 12600 (fun _ => 255) 1)).toOption.map
        fun outcome => outcome.calls.map fun call => (call.name.1, call.dataOffset, call.chInited, call.data)) =
      some [([65], 12578, 1, [1, 2, 0, 0]), ([66], 12582, 0, [0, 0, 0])] ∧
    ∃ outcome after, (registerAll secondModules).init firstWorld.segment (.attached 12600 (fun _ => 255) 1) =
        .ok outcome ∧ outcome.segment = some after ∧
      (outcome.ret = 0 ↔ ∀ call ∈ outcome.calls, call.Succeeds (registerAll secondModules).vecModules) ∧
      ∀ reg ∈ (registerAll secondModules).vecModules,
        ∃ mod found, Handed firstWorld outcome after reg mod found := by
  have run : Steps (restartStep · · = some ·) {} firstProcess firstWorld :=
    steps_of_runAll (Option.some_get _).symm
  exact ⟨by decide +kernel, restart_keeps_modules (run.mono RestartStep.of_restartStep) (by decide +kernel)⟩

end Playground.Shm
