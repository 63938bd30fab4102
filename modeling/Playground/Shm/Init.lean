import Playground.Record.Fill
import Playground.Shm.Attach

/-! `Init` as a whole. -/

namespace Playground.Shm

open Framing Layout

/-- The regions lie one behind the other, between the header and the recorded end of the data. -/
structure Segment.WellLaid (segment : Segment) : Prop where
  magic : segment.fmt.magic = shmMagic
  count : segment.fmt.modulesCount ≤ recoveryshmMaxMoudles
  packed : Packed sizeofDataFmt (segment.fmt.entries.map (·.block)) segment.fmt.dataLength.toNat
  inside : segment.fmt.dataLength ≤ segment.size

section WellLaid

variable {segment next : Segment} {total : UInt64}

theorem Admits.wellLaid (admits : Admits total segment reg) (laid : segment.WellLaid) :
    (segment.append reg).WellLaid where
  magic := laid.magic
  count := admits.count
  packed := by
    rw [entries_append, List.map_append, admits.dataLength]
    exact laid.packed.append reg.zSize.toNat
  inside := by
    rw [UInt64.le_iff_toNat_le, admits.dataLength]
    exact admits.inside

theorem Grown.wellLaid (grown : Grown total segment added next)
    (laid : segment.WellLaid) : next.WellLaid := by
  induction grown with
  | nil => exact laid
  | cons admits rest ih => exact ih (admits.wellLaid laid)

theorem SameLayout.wellLaid (same : SameLayout segment next) (laid : segment.WellLaid) : next.WellLaid where
  magic := same.magic.trans laid.magic
  count := same.modulesCount ▸ laid.count
  packed := by
    rw [same.blocks, same.dataLength]
    exact laid.packed
  inside := by
    rw [same.dataLength, same.size]
    exact laid.inside

theorem Segment.WellLaid.survive (laid : segment.WellLaid) {size : UInt64} (larger : segment.size ≤ size)
    (behind : Nat → UInt8) : (segment.survive size behind).WellLaid :=
  ⟨laid.magic, laid.count, laid.packed, UInt64.le_trans laid.inside larger⟩

theorem wellLaid_clear (room : sizeofDataFmt ≤ segment.size.toNat) : (segment.clear total).WellLaid where
  magic := rfl
  count := Nat.zero_le _
  packed := rfl
  inside := UInt64.le_iff_toNat_le.mpr room

theorem Segment.WellLaid.separate (laid : segment.WellLaid) :
    Separate segment (List.range segment.fmt.modulesCount) := by
  have blocks := laid.packed.pairwise
  rw [ShareMemoryCenterDataFmt.entries, List.map_map, List.pairwise_map] at blocks
  refine List.Pairwise.imp₂ (fun i j before less => ?_) blocks List.pairwise_lt_range
  exact ⟨Nat.ne_of_gt less, .inr before⟩

theorem Segment.WellLaid.bounds (laid : segment.WellLaid) (inside : i < segment.fmt.modulesCount) :
    sizeofDataFmt ≤ (segment.fmt.modules i).block.start ∧
      (segment.fmt.modules i).block.stop ≤ segment.fmt.dataLength.toNat := by
  refine laid.packed.bounds (List.mem_map_of_mem ?_)
  exact List.mem_map_of_mem (List.mem_range.mpr inside)

theorem Segment.WellLaid.apart (laid : segment.WellLaid) (insideFirst : i < segment.fmt.modulesCount)
    (insideSecond : j < segment.fmt.modulesCount) (different : i ≠ j) :
    (segment.fmt.modules i).block.Apart (segment.fmt.modules j).block := by
  have separate := List.pairwise_iff_getElem.mp laid.separate
  rcases Nat.lt_or_gt_of_ne different with before | behind
  · have pair := separate i j (by simpa using insideFirst) (by simpa using insideSecond) before
    simpa using pair.2.symm
  · have pair := separate j i (by simpa using insideSecond) (by simpa using insideFirst) behind
    simpa using pair.2

end WellLaid

/-- The size that `Init` asks for. -/
abbrev ShareMemoryCenter.total (center : ShareMemoryCenter) : UInt64 :=
  center.zTotalSize + UInt64.ofNat sizeofDataFmt

def ShareMemoryCenter.refused (center : ShareMemoryCenter) (segment : Option Segment) : Outcome :=
  { ret := -1, center := { center with zTotalSize := center.total, attached := false }, segment, calls := [] }

def ShareMemoryCenter.served (center : ShareMemoryCenter) (segment : Segment) : Outcome :=
  { center with zTotalSize := center.total }.attachAll segment

/-- A segment that was just created, with whatever it holds. -/
def rawSegment (size : UInt64) (data : Nat → UInt8) : Segment :=
  { fmt := { magic := [], dataLength := 0, modulesCount := 0, modules := fun _ => zeroModule }, data, size }

/-- At least the size asked for, the old bytes, and that this process is attached. -/
def ShareMemoryCenter.Answers (center : ShareMemoryCenter) (old : Option Segment) : AttachAnswer → Prop
  | .failed => True
  | .absent none => True
  | .absent (some (size, _)) => center.total ≤ size
  | .attached size _ nattach =>
    old.isSome ∧ (center.total ≤ size ∧ 1 ≤ nattach) ∧ ∀ before ∈ old, before.size ≤ size

instance (center : ShareMemoryCenter) (old : Option Segment) (answer : AttachAnswer) :
    Decidable (center.Answers old answer) :=
  match answer with
  | .failed => inferInstanceAs (Decidable True)
  | .absent none => inferInstanceAs (Decidable True)
  | .absent (some (size, _)) => inferInstanceAs (Decidable (center.total ≤ size))
  | .attached size _ nattach => inferInstanceAs (Decidable
      (old.isSome ∧ (center.total ≤ size ∧ 1 ≤ nattach) ∧ ∀ before ∈ old, before.size ≤ size))

/-- The ways that `Init` can take. -/
inductive Initialised (center : ShareMemoryCenter) : Option Segment → AttachAnswer → Outcome → Prop where
  | failed : Initialised center old .failed (center.refused old)
  | uncreated : Initialised center old (.absent none) (center.refused none)
  | created (roomHeader : sizeofDataFmt ≤ size.toNat) (room : center.total ≤ size)
      (ran : appendRegModules center.vecModules center.total ((rawSegment size data).clear center.total) =
        .ok next) :
      Initialised center old (.absent (some (size, data))) (center.served next)
  | unchecked {old : Segment} (bad : check nattach (old.survive size behind) ≠ 0) :
      Initialised center (some old) (.attached size behind nattach)
        (center.refused (some (old.survive size behind)))
  | extended {old : Segment} (checked : check nattach (old.survive size behind) = 0)
      (less : old.fmt.dataLength < center.total) (fewer : old.fmt.modulesCount < center.vecModules.length)
      (ran : appendRegModules center.vecModules center.total (old.survive size behind) = .ok next) :
      Initialised center (some old) (.attached size behind nattach) (center.served next)
  | unchanged {old : Segment} (checked : check nattach (old.survive size behind) = 0)
      (same : old.fmt.dataLength = center.total) :
      Initialised center (some old) (.attached size behind nattach) (center.served (old.survive size behind))

section Init

variable {center : ShareMemoryCenter} {old : Option Segment} {answer : AttachAnswer} {outcome : Outcome}

variable {segment : Segment}

theorem init_cases (ran : center.init old answer = .ok outcome) :
    Initialised center old answer outcome := by
  unfold ShareMemoryCenter.init at ran
  split at ran
  · cases ran
    exact .failed
  · cases ran
    exact .uncreated
  · obtain ⟨next, made, rfl⟩ := Record.map_eq_ok.mp ran
    unfold initRegModules at made
    split at made
    · cases made
    · rename_i room
      obtain ⟨roomHeader, roomTotal⟩ := not_or.mp room
      exact .created (Nat.le_of_not_lt roomHeader) (UInt64.not_lt.mp roomTotal) made
  · cases ran
  · simp only at ran
    split at ran
    · rename_i bad
      cases ran
      exact .unchecked bad
    · rename_i checked
      split at ran
      · split at ran
        · rename_i grows
          obtain ⟨next, made, rfl⟩ := Record.map_eq_ok.mp ran
          exact .extended (not_not.mp checked) grows.1 grows.2 made
        · cases ran
      · rename_i same
        cases ran
        exact .unchanged (not_not.mp checked) (not_not.mp same)

theorem Initialised.init_eq (started : Initialised center old answer outcome) :
    center.init old answer = .ok outcome := by
  cases started with
  | failed => rfl
  | uncreated => rfl
  | @created size data next old roomHeader room ran =>
    have fits : ¬ (size.toNat < sizeofDataFmt ∨ size < center.total) :=
      not_or.mpr ⟨Nat.not_lt.mpr roomHeader, UInt64.not_lt.mpr room⟩
    have made : initRegModules center.vecModules center.total (rawSegment size data) = .ok next :=
      (if_neg fits).trans ran
    exact Record.map_eq_ok.mpr ⟨next, made, rfl⟩
  | unchecked bad => exact if_pos bad
  | extended checked less fewer ran =>
    refine (if_neg (not_not.mpr checked)).trans
      ((if_pos (UInt64.ne_of_lt less)).trans ((if_pos ⟨less, fewer⟩).trans ?_))
    exact Record.map_eq_ok.mpr ⟨_, ran, rfl⟩
  | unchanged checked same => exact (if_neg (not_not.mpr checked)).trans (if_neg (not_not.mpr same))

theorem ShareMemoryCenter.registered (center : ShareMemoryCenter) :
    ∀ reg ∈ center.vecModules, findReg center.vecModules reg.name = some reg :=
  fun _ member => findReg_of_mem center.distinct member

theorem ShareMemoryCenter.served_attached (center : ShareMemoryCenter) (segment : Segment) :
    ∃ next, (center.served segment).segment = some next ∧
      Attached center.vecModules (List.range segment.fmt.modulesCount) segment (center.served segment).ret next
        (center.served segment).calls :=
  ⟨_, rfl, attachLoop_attached _ _ _⟩

theorem Initialised.center_eq (started : Initialised center old answer outcome) :
    outcome.center = { center with zTotalSize := center.total, attached := outcome.center.attached } := by
  cases started <;> rfl

theorem Initialised.fmt_eq (started : Initialised center old answer outcome)
    (out : outcome.center.attached = false)
    (present : outcome.segment = some segment) :
    ∃ before, old = some before ∧ segment.fmt = before.fmt := by
  cases started with
  | failed => exact ⟨segment, present, rfl⟩
  | uncreated => cases present
  | created => cases out
  | unchecked =>
    cases present
    exact ⟨_, rfl, rfl⟩
  | extended => cases out
  | unchanged => cases out

private theorem served_wellLaid {next : Segment} (laid : segment.WellLaid)
    (present : (center.served segment).segment = some next) : next.WellLaid := by
  obtain ⟨after, is_after, attached⟩ := center.served_attached segment
  rw [is_after] at present
  cases present
  exact attached.sameLayout.wellLaid laid

theorem Initialised.wellLaid (started : Initialised center old answer outcome)
    (answers : center.Answers old answer)
    (laid : ∀ before, old = some before → before.WellLaid)
    (present : outcome.segment = some segment) : segment.WellLaid := by
  cases started with
  | failed => exact laid segment present
  | uncreated => cases present
  | created roomHeader _ ran =>
    obtain ⟨added, _, grown⟩ := appendLoop_grown center.registered ran
    exact served_wellLaid (grown.wellLaid (wellLaid_clear roomHeader)) present
  | @unchecked nattach size behind before _ =>
    cases present
    exact (laid before rfl).survive (answers.2.2 before rfl) behind
  | @extended nattach size behind next before _ _ _ ran =>
    obtain ⟨added, _, grown⟩ := appendLoop_grown center.registered ran
    exact served_wellLaid (grown.wellLaid ((laid before rfl).survive (answers.2.2 before rfl) behind)) present
  | @unchanged nattach size behind before _ _ =>
    exact served_wellLaid ((laid before rfl).survive (answers.2.2 before rfl) behind) present

private theorem served_dataLength_le {next : Segment} (within : segment.fmt.dataLength ≤ center.total)
    (present : (center.served segment).segment = some next) : next.fmt.dataLength ≤ center.total := by
  obtain ⟨after, is_after, attached⟩ := center.served_attached segment
  rw [is_after] at present
  cases present
  rw [attached.sameLayout.dataLength]
  exact within

theorem Initialised.dataLength_le (started : Initialised center old answer outcome)
    (header : UInt64.ofNat sizeofDataFmt ≤ center.total) (isAttached : outcome.center.attached = true)
    (present : outcome.segment = some segment) : segment.fmt.dataLength ≤ center.total := by
  cases started with
  | failed => cases isAttached
  | uncreated => cases present
  | created _ _ ran =>
    obtain ⟨added, _, grown⟩ := appendLoop_grown center.registered ran
    exact served_dataLength_le (grown.dataLength_le header) present
  | unchecked => cases isAttached
  | extended _ less _ ran =>
    obtain ⟨added, _, grown⟩ := appendLoop_grown center.registered ran
    exact served_dataLength_le (grown.dataLength_le (UInt64.le_of_lt less)) present
  | @unchanged nattach size behind before _ same =>
    have within : (before.survive size behind).fmt.dataLength ≤ center.total := UInt64.le_of_eq same
    exact served_dataLength_le within present

/-- As long as the total does not wrap around, nothing is written behind the end of the segment. -/
theorem init_not_fault (answers : center.Answers old answer)
    (small : ∀ reg ∈ center.vecModules, reg.zSize.toNat < 2 ^ 63)
    (exact_total : center.total.toNat = center.zTotalSize.toNat + sizeofDataFmt)
    (limit : center.total.toNat < 2 ^ 63)
    (short : ∀ before, old = some before → before.fmt.dataLength.toNat < 2 ^ 63) :
    center.init old answer ≠ .error .fault := by
  unfold ShareMemoryCenter.init
  split
  · nofun
  · nofun
  · rename_i size data
    have room := UInt64.le_iff_toNat_le.mp answers
    have fits : ¬ (size.toNat < sizeofDataFmt ∨ size < center.total) := by
      rw [UInt64.lt_iff_toNat_lt]
      omega
    have header : (UInt64.ofNat sizeofDataFmt).toNat < 2 ^ 63 := by decide
    have wide : center.total ≤ ((rawSegment size data).clear center.total).size := answers
    obtain ⟨next, ran⟩ : ∃ next, appendRegModules center.vecModules center.total
        ((rawSegment size data).clear center.total) = .ok next := appendLoop_ok small limit wide header
    have made : initRegModules center.vecModules center.total (rawSegment size data) = .ok next :=
      (if_neg fits).trans ran
    change (initRegModules center.vecModules center.total (rawSegment size data)).map _ ≠ _
    rw [made]
    nofun
  · cases answers.1
  · rename_i size behind nattach before
    have wide : center.total ≤ (before.survive size behind).size := answers.2.1.1
    obtain ⟨next, made⟩ : ∃ next, appendRegModules center.vecModules center.total (before.survive size behind) =
        .ok next := appendLoop_ok small limit wide (short before rfl)
    simp only
    split
    · nofun
    · split
      · split
        · rw [made]
          nofun
        · nofun
      · nofun

end Init

private theorem letter_ne_zero (letter : Nat) : UInt8.ofNat (65 + letter % 26) ≠ 0 := by
  have bounded : letter % 26 < 26 := Nat.mod_lt _ (by decide)
  intro zero
  have value : (65 + letter % 26) % 2 ^ 8 = 0 := congrArg UInt8.toNat zero
  omega

/-- The name that is one letter of the alphabet. -/
def letterName (letter : Nat) : CString :=
  ⟨[UInt8.ofNat (65 + letter % 26)], fun zero => letter_ne_zero letter (List.mem_singleton.mp zero).symm⟩

end Playground.Shm
