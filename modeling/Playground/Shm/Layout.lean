import Playground.Transition.Steps
import Playground.Shm.Init

/-! The layout of the segment over a whole history of processes. -/

namespace Playground.Shm

open Framing Layout Transition

/-- The segment and the process that uses it, with what is counted of it. -/
structure ShmWorld where
  center : ShareMemoryCenter := {}
  segment : Option Segment := none
  registered : Nat := 0
  inits : Nat := 0

/-- What happens to the segment: processes start, register, call `Init` and store. -/
inductive ShmEvent where
  | start
  | register (reg : ShareMemoryModuleReg)
  | init (answer : AttachAnswer)
  | store (i : Nat) (bytes : Bytes)

/-- One event. A process that dies takes no step. -/
def shmStep (world : ShmWorld) : ShmEvent → Option ShmWorld
  | .start => some { world with center := {}, inits := 0 }
  | .register reg =>
    let result := world.center.register reg
    some { world with
      center := result.2
      registered := if result.1 = 0 then world.registered + reg.zSize.toNat else world.registered }
  | .init answer =>
    if world.center.Answers world.segment answer then
      match world.center.init world.segment answer with
      | .ok outcome =>
        some { world with center := outcome.center, segment := outcome.segment, inits := world.inits + 1 }
      | .error _ => none
    else none
  | .store i bytes =>
    match world.segment with
    | none => none
    | some segment =>
      if world.center.attached ∧ i < segment.fmt.modulesCount then
        some { world with segment := some { segment with
          data := write segment.data (segment.fmt.modules i).block bytes } }
      else none

/-- One event, with sizes whose sum stays small; the header counts as often as `Init` adds it. -/
def BoundedStep (world : ShmWorld) (event : ShmEvent) (next : ShmWorld) : Prop :=
  shmStep world event = some next ∧ next.registered + sizeofDataFmt * next.inits < 2 ^ 63

section Step

variable {world next : ShmWorld}

theorem shmStep_init (step : shmStep world (.init answer) = some next) :
    world.center.Answers world.segment answer ∧
      ∃ outcome, Initialised world.center world.segment answer outcome ∧
      next = { world with center := outcome.center, segment := outcome.segment, inits := world.inits + 1 } := by
  simp only [shmStep] at step
  split at step
  · rename_i answers
    refine ⟨answers, ?_⟩
    split at step
    · rename_i outcome ran
      exact ⟨outcome, init_cases ran, (Option.some.inj step).symm⟩
    · cases step
  · cases step

theorem shmStep_store (step : shmStep world (.store i bytes) = some next) :
    ∃ segment, world.segment = some segment ∧
      next = { world with segment := some { segment with
        data := write segment.data (segment.fmt.modules i).block bytes } } := by
  simp only [shmStep] at step
  split at step
  · cases step
  · rename_i segment present
    split at step
    · exact ⟨segment, present, (Option.some.inj step).symm⟩
    · cases step

theorem shmStep_register {reg : ShareMemoryModuleReg} (step : shmStep world (.register reg) = some next) :
    next = world ∨ next.center.vecModules = world.center.vecModules ++ [reg] ∧
      next.center.zTotalSize = world.center.zTotalSize + reg.zSize ∧
      next.center.attached = world.center.attached ∧
      next = { world with center := next.center, registered := world.registered + reg.zSize.toNat } := by
  simp only [shmStep, Option.some.injEq] at step
  subst step
  unfold ShareMemoryCenter.register
  split
  · exact .inr ⟨rfl, rfl, rfl, rfl⟩
  · exact .inl rfl

theorem shmStep_wellLaid (step : shmStep world event = some next)
    (laid : ∀ segment, world.segment = some segment → segment.WellLaid) :
    ∀ segment, next.segment = some segment → segment.WellLaid := by
  cases event with
  | start =>
    cases step
    exact laid
  | register reg =>
    rcases shmStep_register step with rfl | ⟨_, _, _, same⟩
    · exact laid
    · rw [same]
      exact laid
  | init answer =>
    obtain ⟨answers, outcome, started, rfl⟩ := shmStep_init step
    exact fun segment present => started.wellLaid answers laid present
  | store i bytes =>
    obtain ⟨segment, present, rfl⟩ := shmStep_store step
    rintro _ ⟨⟩
    have before := laid segment present
    exact ⟨before.magic, before.count, before.packed, before.inside⟩

/-- The sizes add up without overflow, as long as the total is small. -/
structure ShmWorld.Counted (world : ShmWorld) : Prop where
  total : world.center.zTotalSize.toNat = sizes world.center.vecModules + sizeofDataFmt * world.inits
  sum : sizes world.center.vecModules ≤ world.registered
  bound : world.registered + sizeofDataFmt * world.inits < 2 ^ 63
  short : ∀ segment, world.segment = some segment → segment.fmt.dataLength.toNat < 2 ^ 63
  within : ∀ segment, world.segment = some segment → world.center.attached = true →
    segment.fmt.dataLength ≤ world.center.zTotalSize

namespace ShmWorld.Counted

variable {event : ShmEvent}

theorem total_init (counted : world.Counted)
    (fits : world.registered + sizeofDataFmt * (world.inits + 1) < 2 ^ 63) :
    world.center.total.toNat = world.center.zTotalSize.toNat + sizeofDataFmt := by
  have total := counted.total
  have sum := counted.sum
  have header : (UInt64.ofNat sizeofDataFmt).toNat = sizeofDataFmt := by decide
  rw [Nat.mul_add_one] at fits
  rw [ShareMemoryCenter.total, UInt64.toNat_add, header]
  omega

theorem register (counted : world.Counted)
    (step : BoundedStep world (.register reg) next) : next.Counted := by
  obtain ⟨stepped, bound⟩ := step
  rcases shmStep_register stepped with rfl | ⟨vecModules, zTotalSize, attached, same⟩
  · exact counted
  · have sum := counted.sum
    have registered : next.registered = world.registered + reg.zSize.toNat := by rw [same]
    have inits : next.inits = world.inits := by rw [same]
    have segment_eq : next.segment = world.segment := by rw [same]
    have total : next.center.zTotalSize.toNat = world.center.zTotalSize.toNat + reg.zSize.toNat := by
      rw [zTotalSize, UInt64.toNat_add, counted.total]
      rw [registered, inits] at bound
      omega
    refine ⟨?_, ?_, bound, fun segment present => counted.short segment (segment_eq ▸ present), ?_⟩
    · rw [total, counted.total, vecModules, sizes_append, inits]
      simp only [sizes_cons, sizes_nil]
      omega
    · rw [vecModules, sizes_append, registered]
      simp only [sizes_cons, sizes_nil]
      omega
    · intro segment present isAttached
      have before := counted.within segment (segment_eq ▸ present) (attached ▸ isAttached)
      rw [UInt64.le_iff_toNat_le] at before ⊢
      omega

private theorem init (counted : world.Counted) (step : BoundedStep world (.init answer) next) :
    next.Counted := by
  obtain ⟨stepped, bound⟩ := step
  obtain ⟨_, outcome, started, rfl⟩ := shmStep_init stepped
  have exact_total := counted.total_init bound
  have total := counted.total
  have sum := counted.sum
  have vecModules : outcome.center.vecModules = world.center.vecModules := by rw [started.center_eq]
  have zTotalSize : outcome.center.zTotalSize = world.center.total := by rw [started.center_eq]
  have header : UInt64.ofNat sizeofDataFmt ≤ world.center.total := by
    have value : (UInt64.ofNat sizeofDataFmt).toNat = sizeofDataFmt := by decide
    rw [UInt64.le_iff_toNat_le]
    omega
  have within : ∀ segment, outcome.segment = some segment → outcome.center.attached = true →
      segment.fmt.dataLength ≤ outcome.center.zTotalSize := by
    intro segment present isAttached
    rw [zTotalSize]
    exact started.dataLength_le header isAttached present
  simp only [Nat.mul_add_one] at bound
  refine ⟨?_, ?_, bound, ?_, within⟩
  · simp only [vecModules, zTotalSize, Nat.mul_add_one]
    omega
  · simp only [vecModules]
    exact sum
  · intro segment present
    cases attached : outcome.center.attached with
    | false =>
      obtain ⟨before, wasThere, same⟩ := started.fmt_eq attached present
      rw [same]
      exact counted.short before wasThere
    | true =>
      have inside := UInt64.le_iff_toNat_le.mp (within segment present attached)
      rw [zTotalSize] at inside
      omega

theorem step (counted : world.Counted) (stepped : BoundedStep world event next) : next.Counted := by
  cases event with
  | start =>
    obtain ⟨⟨⟩, bound⟩ := stepped
    exact ⟨rfl, Nat.zero_le _, bound, counted.short, nofun⟩
  | register reg => exact counted.register stepped
  | init answer => exact counted.init stepped
  | store i bytes =>
    obtain ⟨segment, present, rfl⟩ := shmStep_store stepped.1
    refine ⟨counted.total, counted.sum, counted.bound, ?_, ?_⟩
    · rintro _ ⟨⟩
      exact counted.short segment present
    · rintro _ ⟨⟩
      exact counted.within segment present

end ShmWorld.Counted

end Step

section Buffers

variable {segment : Segment}

def ModuleBuffer.block (buffer : ModuleBuffer) :
    Block := { start := buffer.pBuffer, size := buffer.iUsed.toNat }

private theorem toInt_toNat_le (size : Nat) : (BitVec.ofNat 32 size).toInt.toNat ≤ size := by
  rw [BitVec.toInt_eq_toNat_cond, BitVec.toNat_ofNat]
  split <;> omega

private theorem getModleBuffer_some {buffer : ModuleBuffer}
    (found : getModleBuffer segment name = some buffer) :
    ∃ i < segment.fmt.modulesCount, (segment.fmt.modules i).szName = name ∧
      buffer.block.start = (segment.fmt.modules i).block.start ∧
      buffer.block.stop ≤ (segment.fmt.modules i).block.stop := by
  obtain ⟨mod, entry, rfl⟩ := Option.map_eq_some_iff.mp found
  obtain ⟨i, inside, rfl⟩ := List.mem_map.mp (List.mem_of_find?_eq_some entry)
  refine ⟨i, List.mem_range.mp inside, by simpa using List.find?_some entry, rfl, ?_⟩
  exact Nat.add_le_add_left (toInt_toNat_le _) _

/-- The regions lie apart, and within the data. -/
structure Segment.LaidOut (segment : Segment) : Prop where
  count : segment.fmt.modulesCount ≤ recoveryshmMaxMoudles
  disjoint : ∀ i j, i < segment.fmt.modulesCount → j < segment.fmt.modulesCount → i ≠ j →
    (segment.fmt.modules i).block.Apart (segment.fmt.modules j).block
  between : ∀ i < segment.fmt.modulesCount, sizeofDataFmt ≤ (segment.fmt.modules i).block.start ∧
    (segment.fmt.modules i).block.stop ≤ segment.fmt.dataLength.toNat
  inside : segment.fmt.dataLength ≤ segment.size
  buffersApart : ∀ name other buffer another, name ≠ other → getModleBuffer segment name = some buffer →
    getModleBuffer segment other = some another → buffer.block.Apart another.block
  buffersInside : ∀ name buffer, getModleBuffer segment name = some buffer →
    sizeofDataFmt ≤ buffer.block.start ∧ buffer.block.stop ≤ segment.size.toNat

theorem Segment.WellLaid.laidOut (laid : segment.WellLaid) : segment.LaidOut where
  count := laid.count
  disjoint _ _ insideFirst insideSecond different := laid.apart insideFirst insideSecond different
  between _ inside := laid.bounds inside
  inside := laid.inside
  buffersApart name other buffer another different first second := by
    obtain ⟨i, insideFirst, rfl, start, stop⟩ := getModleBuffer_some first
    obtain ⟨j, insideSecond, rfl, otherStart, otherStop⟩ := getModleBuffer_some second
    have distinct : i ≠ j := fun same => different (same ▸ rfl)
    rcases laid.apart insideFirst insideSecond distinct with before | behind
    · exact .inl (by omega)
    · exact .inr (by omega)
  buffersInside name buffer found := by
    obtain ⟨i, inside, _, start, stop⟩ := getModleBuffer_some found
    obtain ⟨from_header, upto⟩ := laid.bounds inside
    have end_le := UInt64.le_iff_toNat_le.mp laid.inside
    omega

end Buffers

/-- Over every history of processes the regions are laid out apart and within the segment. As long as
the sizes are small the data end within the total of a process that is attached, and no `Init`
writes behind the end of the segment. -/
theorem regions_laid_out {events : List ShmEvent} {world : ShmWorld}
    (run : Steps (shmStep · · = some ·) {} events world) :
    (∀ segment, world.segment = some segment → segment.LaidOut) ∧
      (Steps BoundedStep {} events world →
        (∀ segment, world.segment = some segment → world.center.attached = true →
          segment.fmt.dataLength ≤ world.center.zTotalSize) ∧
        ∀ answer, world.center.Answers world.segment answer →
          world.registered + sizeofDataFmt * (world.inits + 1) < 2 ^ 63 →
          world.center.init world.segment answer ≠ .error .fault) := by
  have wellLaid : ∀ segment, world.segment = some segment → segment.WellLaid :=
    run.invariant shmStep_wellLaid nofun
  refine ⟨fun segment present => (wellLaid segment present).laidOut, fun bounded => ?_⟩
  have keeps {world next : ShmWorld} {event : ShmEvent} (step : BoundedStep world event next)
      (counted : world.Counted) : next.Counted := counted.step step
  have counted : world.Counted := bounded.invariant keeps ⟨rfl, Nat.le_refl _, by decide, nofun, nofun⟩
  refine ⟨counted.within, fun answer answers fits => ?_⟩
  have exact_total := counted.total_init fits
  have total := counted.total
  have sum := counted.sum
  rw [Nat.mul_add_one] at fits
  refine init_not_fault answers (fun reg member => ?_) exact_total (by omega) counted.short
  have part : reg.zSize.toNat ≤ sizes world.center.vecModules :=
    List.le_sum_of_mem (List.mem_map_of_mem member)
  omega

def boundedStep (world : ShmWorld) (event : ShmEvent) : Option ShmWorld :=
  (shmStep world event).filter fun next => next.registered + sizeofDataFmt * next.inits < 2 ^ 63

theorem BoundedStep.of_boundedStep
    (stepped : boundedStep world event = some next) : BoundedStep world event next := by
  obtain ⟨taken, bound⟩ := Option.filter_eq_some_iff.mp stepped
  exact ⟨taken, by simpa using bound⟩

def plainModule (letter : Nat) (zSize : UInt64) : ShareMemoryModuleReg :=
  { name := letterName letter, zSize, notifier := none }

def upgrade : List ShmEvent :=
  let moduleA := plainModule 0 10
  let moduleB := plainModule 1 20
  let moduleC := plainModule 2 5
  [.start, .register moduleA, .register moduleB, .init (.absent (some (12700, fun _ => 255))), .store 0 [1, 2],
    .start, .register moduleA, .register moduleB, .register moduleC, .init (.attached 12700 (fun _ => 255) 1)]

def upgraded : ShmWorld := (runAll boundedStep {} upgrade).get (by decide +kernel)

theorem regions_laid_out_upgraded :
    upgraded.segment.map (fun segment => segment.fmt.entries.map (·.block)) =
        some [⟨12578, 10⟩, ⟨12588, 20⟩, ⟨12608, 5⟩] ∧
      (∀ segment, upgraded.segment = some segment → segment.LaidOut) ∧
      ∀ segment, upgraded.segment = some segment → upgraded.center.attached = true →
        segment.fmt.dataLength ≤ upgraded.center.zTotalSize := by
  have run : Steps (boundedStep · · = some ·) {} upgrade upgraded :=
    steps_of_runAll (Option.some_get _).symm
  have bounded : Steps BoundedStep {} upgrade upgraded := run.mono BoundedStep.of_boundedStep
  have laid := regions_laid_out (bounded.mono And.left)
  exact ⟨by decide +kernel, laid.1, (laid.2 bounded).1⟩

end Playground.Shm
