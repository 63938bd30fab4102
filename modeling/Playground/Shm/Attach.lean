import Playground.Shm.Growth

/-! The loop of `AttachAllModules`. -/

namespace Playground.Shm

open Framing Layout

/-- The segments differ in the marks and the bytes only. -/
structure SameLayout (segment next : Segment) : Prop where
  magic : next.fmt.magic = segment.fmt.magic
  dataLength : next.fmt.dataLength = segment.fmt.dataLength
  modulesCount : next.fmt.modulesCount = segment.fmt.modulesCount
  size : next.size = segment.size
  modules (i : Nat) : ∃ chInited, next.fmt.modules i = { segment.fmt.modules i with chInited }

namespace SameLayout

variable {segment middle next : Segment}

theorem refl (segment : Segment) : SameLayout segment segment :=
  ⟨rfl, rfl, rfl, rfl, fun i => ⟨(segment.fmt.modules i).chInited, rfl⟩⟩

theorem trans (first : SameLayout segment middle) (second : SameLayout middle next) :
    SameLayout segment next where
  magic := second.magic.trans first.magic
  dataLength := second.dataLength.trans first.dataLength
  modulesCount := second.modulesCount.trans first.modulesCount
  size := second.size.trans first.size
  modules i := by
    obtain ⟨_, before⟩ := first.modules i
    obtain ⟨chInited, after⟩ := second.modules i
    exact ⟨chInited, by rw [after, before]⟩

variable (same : SameLayout segment next)

include same

theorem szName (i : Nat) : (next.fmt.modules i).szName = (segment.fmt.modules i).szName := by
  obtain ⟨_, eq⟩ := same.modules i
  rw [eq]

theorem dataOffset (i : Nat) :
    (next.fmt.modules i).dataOffset = (segment.fmt.modules i).dataOffset := by
  obtain ⟨_, eq⟩ := same.modules i
  rw [eq]

theorem zSize (i : Nat) : (next.fmt.modules i).zSize = (segment.fmt.modules i).zSize := by
  obtain ⟨_, eq⟩ := same.modules i
  rw [eq]

theorem block (i : Nat) : (next.fmt.modules i).block = (segment.fmt.modules i).block := by
  obtain ⟨_, eq⟩ := same.modules i
  rw [eq]
  rfl

theorem blocks : next.fmt.entries.map (·.block) = segment.fmt.entries.map (·.block) := by
  unfold ShareMemoryCenterDataFmt.entries
  rw [same.modulesCount, List.map_map, List.map_map]
  exact List.map_congr_left fun i _ => same.block i

theorem directory : next.fmt.directory = segment.fmt.directory := by
  unfold ShareMemoryCenterDataFmt.directory ShareMemoryCenterDataFmt.entries
  rw [same.modulesCount, List.map_map, List.map_map]
  refine List.map_congr_left fun i _ => ?_
  simp [same.szName i, same.zSize i]

end SameLayout

theorem sameLayout_inited (segment : Segment) (i : Nat) : SameLayout segment (segment.inited i) where
  magic := rfl
  dataLength := rfl
  modulesCount := rfl
  size := rfl
  modules j := by
    by_cases same : j = i
    · subst same
      exact ⟨1, Function.update_self ..⟩
    · exact ⟨(segment.fmt.modules j).chInited, Function.update_of_ne same ..⟩

/-- The step of the loop for an entry: what `OnAttach` returns, and the segment that it leaves. -/
def Segment.attach (segment : Segment) (i : Nat) (onAttach : Notifier) : Int × Segment :=
  let call := segment.attachment i
  let result := onAttach call.data call.zSize call.chInited
  (result.1, { segment with data := write segment.data (segment.fmt.modules i).block result.2 })

theorem sameLayout_attach (segment : Segment) (i : Nat) (onAttach : Notifier) :
    SameLayout segment (segment.attach i onAttach).2 :=
  ⟨rfl, rfl, rfl, rfl, fun i => ⟨(segment.fmt.modules i).chInited, rfl⟩⟩

/-- The notifier registered under the name of an entry. -/
def Segment.notifier (segment : Segment) (regs : List ShareMemoryModuleReg) (i : Nat) : Option Notifier :=
  (findReg regs (segment.fmt.modules i).szName).bind (·.notifier)

/-- The calls that the loop makes, and its result. -/
inductive Attached (regs : List ShareMemoryModuleReg) :
    List Nat → Segment → Int → Segment → List Attachment → Prop where
  | done {segment : Segment} : Attached regs [] segment 0 segment []
  | unknown {segment : Segment} (absent : findReg regs (segment.fmt.modules i).szName = none) :
      Attached regs (i :: rest) segment (-1) segment []
  | silent {segment : Segment} (known : findReg regs (segment.fmt.modules i).szName ≠ none)
      (silent : segment.notifier regs i = none)
      (later : Attached regs rest (segment.inited i) ret next calls) :
      Attached regs (i :: rest) segment ret next calls
  | failed {segment : Segment} (notifier : segment.notifier regs i = some onAttach)
      (fails : (segment.attach i onAttach).1 ≠ 0) :
      Attached regs (i :: rest) segment (-1) (segment.attach i onAttach).2 [segment.attachment i]
  | attached {segment : Segment} (notifier : segment.notifier regs i = some onAttach)
      (succeeds : (segment.attach i onAttach).1 = 0)
      (later : Attached regs rest ((segment.attach i onAttach).2.inited i) ret next calls) :
      Attached regs (i :: rest) segment ret next (segment.attachment i :: calls)

theorem attachLoop_attached (regs : List ShareMemoryModuleReg) (indices : List Nat) (segment : Segment) :
    Attached regs indices segment (attachLoop regs indices segment).1 (attachLoop regs indices segment).2.1
      (attachLoop regs indices segment).2.2 := by
  induction indices generalizing segment with
  | nil => exact .done
  | cons i rest ih =>
    unfold attachLoop
    cases found : findReg regs (segment.fmt.modules i).szName with
    | none => exact .unknown found
    | some reg =>
      cases notified : reg.notifier with
      | none =>
        have silent : segment.notifier regs i = none := by simp [Segment.notifier, found, notified]
        simp only [notified]
        exact .silent (by simp [found]) silent (ih _)
      | some onAttach =>
        have notifier : segment.notifier regs i = some onAttach := by
          simp [Segment.notifier, found, notified]
        simp only [notified]
        split
        · rename_i fails
          exact .failed notifier fails
        · rename_i succeeds
          exact .attached notifier (not_not.mp succeeds) (ih _)

section Marks

variable {regs : List ShareMemoryModuleReg} {segment : Segment} {i j : Nat}

@[simp] theorem inited_modules_self (segment : Segment) (i : Nat) :
    (segment.inited i).fmt.modules i = { segment.fmt.modules i with chInited := 1 } :=
  Function.update_self ..

theorem inited_modules_ne (different : j ≠ i) : (segment.inited i).fmt.modules j = segment.fmt.modules j :=
  Function.update_of_ne different ..

theorem inited_marked (before : (segment.fmt.modules j).chInited = 1) :
    ((segment.inited i).fmt.modules j).chInited = 1 := by
  by_cases same : j = i
  · subst same
    simp
  · rw [inited_modules_ne same, before]

/-- The registered `OnAttach` accepts the call. -/
def Attachment.Succeeds (regs : List ShareMemoryModuleReg) (call : Attachment) : Prop :=
  ∃ onAttach ∈ (findReg regs call.name).bind (·.notifier), (onAttach call.data call.zSize call.chInited).1 = 0

instance (regs : List ShareMemoryModuleReg) (call : Attachment) : Decidable (call.Succeeds regs) :=
  inferInstanceAs (Decidable (∃ onAttach ∈ (findReg regs call.name).bind (·.notifier),
    (onAttach call.data call.zSize call.chInited).1 = 0))

theorem succeeds_attachment (notifier : segment.notifier regs i = some onAttach) :
    (segment.attachment i).Succeeds regs ↔ (segment.attach i onAttach).1 = 0 := by
  constructor
  · rintro ⟨_, called, zero⟩
    cases notifier.symm.trans called
    exact zero
  · exact fun zero => ⟨onAttach, notifier, zero⟩

end Marks

section Expected

variable {regs : List ShareMemoryModuleReg} {indices : List Nat} {segment next : Segment}

private theorem notifier_eq (same : SameLayout segment next) (i : Nat) :
    next.notifier regs i = segment.notifier regs i := by
  unfold Segment.notifier
  rw [same.szName]

theorem attachment_inited (different : j ≠ i) :
    (segment.inited i).attachment j = segment.attachment j := by
  unfold Segment.attachment
  rw [inited_modules_ne different]
  rfl

private theorem attachment_attach (apart : (segment.fmt.modules j).block.Apart (segment.fmt.modules i).block) :
    (segment.attach i onAttach).2.attachment j = segment.attachment j := by
  unfold Segment.attachment
  exact congrArg _ (read_write_apart apart)

/-- The entries are different, and their regions apart. -/
def Separate (segment : Segment) : List Nat → Prop :=
  List.Pairwise fun i j => j ≠ i ∧ (segment.fmt.modules j).block.Apart (segment.fmt.modules i).block

theorem separate_congr (same : SameLayout segment next) (separate : Separate segment indices) :
    Separate next indices := by
  refine List.Pairwise.imp (fun pair => ?_) separate
  rw [same.block, same.block]
  exact pair

/-- The calls that are due for the entries. -/
def Segment.expected (segment : Segment) (regs : List ShareMemoryModuleReg) (indices : List Nat) :
    List Attachment :=
  (indices.filter fun i => (segment.notifier regs i).isSome).map segment.attachment

theorem expected_congr (same : SameLayout segment next)
    (stable : ∀ i ∈ indices, next.attachment i = segment.attachment i) :
    next.expected regs indices = segment.expected regs indices := by
  unfold Segment.expected
  rw [List.filter_congr fun i _ => by rw [notifier_eq same i]]
  exact List.map_congr_left fun i member => stable i (List.mem_filter.mp member).1

theorem expected_inited (separate : Separate segment (i :: rest)) :
    (segment.inited i).expected regs rest = segment.expected regs rest :=
  expected_congr (sameLayout_inited segment i) fun _ member =>
    attachment_inited ((List.pairwise_cons.mp separate).1 _ member).1

theorem expected_attach (separate : Separate segment (i :: rest)) :
    ((segment.attach i onAttach).2.inited i).expected regs rest = segment.expected regs rest := by
  have same := sameLayout_attach segment i onAttach
  have first := (List.pairwise_cons.mp separate).1
  refine expected_congr (same.trans (sameLayout_inited _ i)) fun j member => ?_
  rw [attachment_inited (first j member).1, attachment_attach (first j member).2]

end Expected

namespace Attached

variable {regs : List ShareMemoryModuleReg} {indices : List Nat} {segment next : Segment} {ret : Int}
  {calls : List Attachment}

variable (attached : Attached regs indices segment ret next calls)

include attached

theorem sameLayout : SameLayout segment next := by
  induction attached with
  | done => exact .refl _
  | unknown => exact .refl _
  | silent _ _ _ ih => exact (sameLayout_inited _ _).trans ih
  | failed => exact sameLayout_attach _ _ _
  | attached _ _ _ ih => exact ((sameLayout_attach _ _ _).trans (sameLayout_inited _ _)).trans ih

theorem read_apart {block : Block}
    (apart : ∀ i ∈ indices, (∃ call ∈ calls, call.name = (segment.fmt.modules i).szName) →
      block.Apart (segment.fmt.modules i).block) :
    read next.data block = read segment.data block := by
  induction attached with
  | done => rfl
  | unknown => rfl
  | @silent i rest ret next calls segment _ _ _ ih =>
    have same := sameLayout_inited segment i
    refine ih fun j member called => ?_
    rw [same.szName] at called
    rw [same.block]
    exact apart j (List.mem_cons_of_mem _ member) called
  | @failed i onAttach rest segment =>
    exact read_write_apart (apart i List.mem_cons_self ⟨_, List.mem_cons_self, rfl⟩)
  | @attached i onAttach rest ret next calls segment _ _ _ ih =>
    have same := (sameLayout_attach segment i onAttach).trans (sameLayout_inited _ i)
    refine (ih fun j member called => ?_).trans ?_
    · obtain ⟨call, later, name⟩ := called
      rw [same.szName] at name
      rw [same.block]
      exact apart j (List.mem_cons_of_mem _ member) ⟨call, List.mem_cons_of_mem _ later, name⟩
    · exact read_write_apart (apart i List.mem_cons_self ⟨_, List.mem_cons_self, rfl⟩)

theorem marked (before : (segment.fmt.modules i).chInited = 1) : (next.fmt.modules i).chInited = 1 := by
  induction attached with
  | done => exact before
  | unknown => exact before
  | silent _ _ _ ih => exact ih (inited_marked before)
  | failed => exact before
  | attached _ _ _ ih => exact ih (inited_marked before)

theorem unmarked (other : i ∉ indices) :
    (next.fmt.modules i).chInited = (segment.fmt.modules i).chInited := by
  induction attached with
  | done => rfl
  | unknown => rfl
  | silent _ _ _ ih =>
    rw [List.mem_cons, not_or] at other
    exact (ih other.2).trans (congrArg _ (inited_modules_ne other.1))
  | failed => rfl
  | attached _ _ _ ih =>
    rw [List.mem_cons, not_or] at other
    exact (ih other.2).trans (congrArg _ (inited_modules_ne other.1))

theorem marks {call : Attachment} (called : call ∈ calls) (succeeds : call.Succeeds regs) :
    ∃ i ∈ indices, (segment.fmt.modules i).szName = call.name ∧ (next.fmt.modules i).chInited = 1 := by
  induction attached with
  | done => cases called
  | unknown => cases called
  | @silent i rest ret next calls segment _ _ _ ih =>
    obtain ⟨j, member, name, mark⟩ := ih called
    exact ⟨j, List.mem_cons_of_mem _ member, (sameLayout_inited segment i).szName j ▸ name, mark⟩
  | @failed i onAttach rest segment notifier fails =>
    cases List.mem_singleton.mp called
    exact absurd ((succeeds_attachment notifier).mp succeeds) fails
  | @attached i onAttach rest ret next calls segment notifier _ later ih =>
    rcases List.mem_cons.mp called with rfl | tail
    · refine ⟨i, List.mem_cons_self, rfl, later.marked ?_⟩
      rw [inited_modules_self]
    · obtain ⟨j, member, name, mark⟩ := ih tail
      have same := (sameLayout_attach segment i onAttach).trans (sameLayout_inited _ i)
      exact ⟨j, List.mem_cons_of_mem _ member, same.szName j ▸ name, mark⟩

theorem ret_eq_zero (known : ∀ i ∈ indices, findReg regs (segment.fmt.modules i).szName ≠ none) :
    ret = 0 ↔ ∀ call ∈ calls, call.Succeeds regs := by
  induction attached with
  | done => simp
  | unknown absent => exact absurd absent (known _ List.mem_cons_self)
  | @silent i rest ret next calls segment _ _ _ ih =>
    refine ih fun j member => ?_
    rw [(sameLayout_inited segment i).szName]
    exact known j (List.mem_cons_of_mem _ member)
  | failed notifier fails =>
    simp only [List.mem_singleton, forall_eq, succeeds_attachment notifier]
    exact ⟨nofun, fun succeeds => absurd succeeds fails⟩
  | @attached i onAttach rest ret next calls segment notifier succeeds _ ih =>
    have same := (sameLayout_attach segment i onAttach).trans (sameLayout_inited _ i)
    have tail := ih fun j member => by
      rw [same.szName]
      exact known j (List.mem_cons_of_mem _ member)
    rw [tail, List.forall_mem_cons, succeeds_attachment notifier]
    exact ⟨fun rest => ⟨succeeds, rest⟩, And.right⟩

theorem calls_isPrefix
    (separate : Separate segment indices) : calls <+: segment.expected regs indices := by
  induction attached with
  | done => exact List.prefix_refl _
  | unknown => exact List.nil_prefix
  | @silent i rest ret next calls segment known silent later ih =>
    have tail := ih (separate_congr (sameLayout_inited segment i) (List.pairwise_cons.mp separate).2)
    rw [expected_inited separate] at tail
    simpa [Segment.expected, silent] using tail
  | @failed i onAttach rest segment notifier fails =>
    simp [Segment.expected, notifier]
  | @attached i onAttach rest ret next calls segment notifier succeeds later ih =>
    have same := (sameLayout_attach segment i onAttach).trans (sameLayout_inited _ i)
    have tail := ih (separate_congr same (List.pairwise_cons.mp separate).2)
    rw [expected_attach separate] at tail
    have whole : segment.expected regs (i :: rest) = segment.attachment i :: segment.expected regs rest := by
      simp [Segment.expected, notifier]
    rw [whole]
    exact (List.prefix_cons_inj _).mpr tail

theorem calls_of_zero (separate : Separate segment indices) (zero : ret = 0) :
    (∀ i ∈ indices, findReg regs (segment.fmt.modules i).szName ≠ none) ∧
      calls = segment.expected regs indices := by
  induction attached with
  | done => exact ⟨nofun, rfl⟩
  | unknown => cases zero
  | @silent i rest ret next calls segment known silent later ih =>
    have same := sameLayout_inited segment i
    obtain ⟨knownRest, whole⟩ := ih (separate_congr same (List.pairwise_cons.mp separate).2) zero
    refine ⟨fun j member => ?_, ?_⟩
    · rcases List.mem_cons.mp member with rfl | inRest
      · exact known
      · rw [← same.szName]
        exact knownRest j inRest
    · rw [whole, expected_inited separate]
      simp [Segment.expected, silent]
  | failed => cases zero
  | @attached i onAttach rest ret next calls segment notifier succeeds later ih =>
    have same := (sameLayout_attach segment i onAttach).trans (sameLayout_inited _ i)
    obtain ⟨knownRest, whole⟩ := ih (separate_congr same (List.pairwise_cons.mp separate).2) zero
    refine ⟨fun j member => ?_, ?_⟩
    · rcases List.mem_cons.mp member with rfl | inRest
      · intro absent
        simp [Segment.notifier, absent] at notifier
      · rw [← same.szName]
        exact knownRest j inRest
    · rw [whole, expected_attach separate]
      simp [Segment.expected, notifier]

end Attached

end Playground.Shm
