import Playground.Ranges.Closed
import Playground.Transition.Steps
import Playground.Channel.ChannelMsgProxy

/-! The handlers that a process subscribes. -/

namespace Playground.Channel

open Ranges Transition

variable {Handler : Type}

namespace Subscriptions

def subscribeScatterMsg (subs : Subscriptions Handler) (ids : List Int) (handler : Handler) :
    Option (Subscriptions Handler) :=
  ids.foldlM (fun subs id => subs.subscribeSingleMsg id handler) subs

end Subscriptions

inductive SubscribeCall (Handler : Type) where
  | single (id : Int) (handler : Handler)
  | scatter (ids : List Int) (handler : Handler)
  | continuous (first last : Int) (handler : Handler)

namespace SubscribeCall

def apply (subs : Subscriptions Handler) : SubscribeCall Handler → Option (Subscriptions Handler)
  | .single id handler => subs.subscribeSingleMsg id handler
  | .scatter ids handler => subs.subscribeScatterMsg ids handler
  | .continuous first last handler => some (subs.subscribeContinuousMsg first last handler).2

def Ordered : SubscribeCall Handler → Prop
  | .continuous first last _ => first ≤ last
  | _ => True

def ofEntry (entry : (Int × Int) × Handler) : SubscribeCall Handler :=
  .continuous entry.1.1 entry.1.2 entry.2

def Caught (subs : Subscriptions Handler) : SubscribeCall Handler → Prop
  | .continuous first last _ =>
    (∃ entry ∈ subs.vecHandlers, first < entry.1.1 ∧ entry.1.2 < last) →
      ∃ entry ∈ subs.vecHandlers, Subscriptions.matchSegment entry.1 first ∨
        Subscriptions.matchSegment entry.1 last
  | _ => True

end SubscribeCall

abbrev Subscribes (start : Subscriptions Handler) (calls : List (SubscribeCall Handler))
    (subs : Subscriptions Handler) : Prop :=
  Steps (fun subs call next => SubscribeCall.apply subs call = some next) start calls subs

namespace Subscriptions

def Apart (one other : (Int × Int) × Handler) : Prop :=
  Disjoint (Set.Icc one.1.1 one.1.2) (Set.Icc other.1.1 other.1.2)

/-- No number has two ranges, so their order makes no difference. -/
structure Unambiguous (subs : Subscriptions Handler) : Prop where
  disjoint : subs.vecHandlers.Pairwise Apart
  atMostOne : ∀ id, subs.mpHandlerMap.find? (·.1 = id) = none →
    subs.vecHandlers.countP (fun entry => matchSegment entry.1 id) ≤ 1
  anyOrder : ∀ other, other.Perm subs.vecHandlers →
    Subscribes {} (other.map SubscribeCall.ofEntry) { vecHandlers := other } ∧
      ∀ id, subs.mpHandlerMap.find? (·.1 = id) = none →
        findHandler { vecHandlers := other } id = subs.findHandler id

variable {subs next : Subscriptions Handler}

theorem matchSegment_iff {segment : Int × Int} {id : Int} :
    matchSegment segment id ↔ id ∈ Set.Icc segment.1 segment.2 := by
  simp [matchSegment]

theorem subscribeContinuousMsg_cases (subs : Subscriptions Handler) (first last : Int) (handler : Handler) :
    (∃ entry ∈ subs.vecHandlers, matchSegment entry.1 first ∨ matchSegment entry.1 last) ∧
        subs.subscribeContinuousMsg first last handler = (-1, subs) ∨
      (∀ entry ∈ subs.vecHandlers, first ∉ Set.Icc entry.1.1 entry.1.2 ∧ last ∉ Set.Icc entry.1.1 entry.1.2) ∧
        subs.subscribeContinuousMsg first last handler =
          (0, { subs with vecHandlers := subs.vecHandlers ++ [((first, last), handler)] }) := by
  unfold subscribeContinuousMsg
  split
  · next hit =>
    obtain ⟨entry, member, inside⟩ := List.any_eq_true.mp hit
    exact .inl ⟨⟨entry, member, Bool.or_eq_true _ _ ▸ inside⟩, rfl⟩
  · next missed =>
    refine .inr ⟨fun entry member => ?_, rfl⟩
    have outside : ¬ (matchSegment entry.1 first || matchSegment entry.1 last) = true :=
      fun inside => missed (List.any_eq_true.mpr ⟨entry, member, inside⟩)
    rw [Bool.or_eq_true, not_or, matchSegment_iff, matchSegment_iff] at outside
    exact outside

private theorem subscribeScatterMsg_vecHandlers
    (subscribed : subs.subscribeScatterMsg ids handler = some next) : next.vecHandlers = subs.vecHandlers := by
  unfold subscribeScatterMsg at subscribed
  induction ids generalizing subs with
  | nil =>
    cases subscribed
    rfl
  | cons id ids ih =>
    rw [List.foldlM_cons] at subscribed
    obtain ⟨middle, single, rest⟩ := Option.bind_eq_some_iff.mp subscribed
    unfold subscribeSingleMsg at single
    split at single
    · cases single
    · cases single
      have kept := ih rest
      exact kept

/-- A call leaves the ranges as they are, or it adds one whose ends lie in none of them. -/
theorem vecHandlers_apply {call : SubscribeCall Handler} (stepped : call.apply subs = some next) :
    next.vecHandlers = subs.vecHandlers ∨
      ∃ first last handler, call = .continuous first last handler ∧
        (∀ entry ∈ subs.vecHandlers,
          first ∉ Set.Icc entry.1.1 entry.1.2 ∧ last ∉ Set.Icc entry.1.1 entry.1.2) ∧
        next.vecHandlers = subs.vecHandlers ++ [((first, last), handler)] := by
  cases call with
  | single id handler =>
    change subs.subscribeSingleMsg id handler = some next at stepped
    unfold subscribeSingleMsg at stepped
    split at stepped
    · cases stepped
    · cases stepped
      exact .inl rfl
  | scatter ids handler => exact .inl (subscribeScatterMsg_vecHandlers stepped)
  | continuous first last handler =>
    cases stepped
    rcases subscribeContinuousMsg_cases subs first last handler with ⟨-, same⟩ | ⟨outside, added⟩
    · rw [same]
      exact .inl rfl
    · rw [added]
      exact .inr ⟨first, last, handler, rfl, outside, rfl⟩

def Inhabited (subs : Subscriptions Handler) : Prop := ∀ entry ∈ subs.vecHandlers, entry.1.1 ≤ entry.1.2

theorem Inhabited.apply {call : SubscribeCall Handler} (inhabited : subs.Inhabited) (ordered : call.Ordered)
    (stepped : call.apply subs = some next) : next.Inhabited := by
  unfold Inhabited
  rcases vecHandlers_apply stepped with same | ⟨first, last, handler, rfl, -, added⟩
  · rw [same]
    exact inhabited
  · rw [added]
    exact List.forall_mem_append.mpr ⟨inhabited, List.forall_mem_singleton.mpr ordered⟩

theorem Inhabited.run (run : Subscribes {} calls subs)
    (ordered : ∀ call ∈ calls, call.Ordered) : subs.Inhabited :=
  (run.restrict ordered).invariant (fun stepped inhabited => inhabited.apply stepped.2 stepped.1) nofun

theorem Apart.symm (apart : Apart one other) : Apart other one :=
  Disjoint.symm apart

private theorem exclusive_of_apart {entries : List ((Int × Int) × Handler)} (apart : entries.Pairwise Apart)
    (id : Int) : Exclusive (fun entry => matchSegment entry.1 id) entries := by
  refine apart.imp fun disjoint both => ?_
  exact Set.disjoint_left.mp disjoint (matchSegment_iff.mp both.1) (matchSegment_iff.mp both.2)

private theorem subscribes_entries {held entries : List ((Int × Int) × Handler)}
    (inhabited : ∀ entry ∈ entries, entry.1.1 ≤ entry.1.2) (apart : (held ++ entries).Pairwise Apart) :
    Subscribes { vecHandlers := held } (entries.map SubscribeCall.ofEntry)
      { vecHandlers := held ++ entries } := by
  induction entries generalizing held with
  | nil =>
    rw [List.append_nil]
    exact .nil
  | cons entry rest ih =>
    obtain ⟨own, later⟩ := List.forall_mem_cons.mp inhabited
    have added : (SubscribeCall.ofEntry entry).apply { vecHandlers := held } =
        some { vecHandlers := held ++ [entry] } := by
      rcases subscribeContinuousMsg_cases { vecHandlers := held } entry.1.1 entry.1.2 entry.2 with
        ⟨⟨other, member, hit⟩, -⟩ | ⟨-, added⟩
      · have disjoint := (List.pairwise_append.mp apart).2.2 other member entry List.mem_cons_self
        rcases hit with hit | hit
        · exact absurd ⟨le_refl _, own⟩ (Set.disjoint_left.mp disjoint (matchSegment_iff.mp hit))
        · exact absurd ⟨own, le_refl _⟩ (Set.disjoint_left.mp disjoint (matchSegment_iff.mp hit))
      · exact congrArg (fun result => some result.2) added
    have split : held ++ entry :: rest = held ++ [entry] ++ rest := List.append_cons held entry rest
    rw [split] at apart ⊢
    exact .cons added (ih later apart)

/-- The ranges have numbers, and none in common. -/
structure Separate (subs : Subscriptions Handler) : Prop where
  inhabited : subs.Inhabited
  apart : subs.vecHandlers.Pairwise Apart

theorem Separate.unambiguous (separate : subs.Separate) : subs.Unambiguous where
  disjoint := separate.apart
  atMostOne id _ := (exclusive_of_apart separate.apart id).countP_le_one
  anyOrder other perm := by
    refine ⟨?_, fun id single => ?_⟩
    · have others : ([] ++ other).Pairwise Apart := (perm.pairwise_iff Apart.symm).mpr separate.apart
      exact subscribes_entries (fun entry member => separate.inhabited entry (perm.mem_iff.mp member)) others
    · simp only [findHandler, single, List.find?_nil]
      rw [(exclusive_of_apart separate.apart id).find?_perm perm]

/-- A call that is caught keeps the ranges apart, and no other does. -/
theorem Separate.apart_apply_iff {call : SubscribeCall Handler} (separate : subs.Separate)
    (ordered : call.Ordered) (stepped : call.apply subs = some next) :
    next.vecHandlers.Pairwise Apart ↔ call.Caught subs := by
  obtain ⟨inhabited, apart⟩ := separate
  cases call with
  | single | scatter =>
    rcases vecHandlers_apply stepped with same | ⟨_, _, _, other, -⟩
    · rw [same]
      exact iff_of_true apart trivial
    · cases other
  | continuous first last handler =>
    cases stepped
    rcases subscribeContinuousMsg_cases subs first last handler with ⟨hit, same⟩ | ⟨outside, added⟩
    · rw [same]
      exact iff_of_true apart fun _ => hit
    · have disjoint (entry : (Int × Int) × Handler) (member : entry ∈ subs.vecHandlers) :
          Apart entry ((first, last), handler) ↔ ¬ (first < entry.1.1 ∧ entry.1.2 < last) := by
        obtain ⟨before, behind⟩ := outside entry member
        unfold Apart
        rw [disjoint_comm, disjoint_Icc_iff ordered (inhabited entry member), and_iff_right before,
          and_iff_right behind]
      rw [added]
      constructor
      · rintro wholly ⟨entry, member, around⟩
        have own := (List.pairwise_append.mp wholly).2.2 entry member _ List.mem_cons_self
        exact absurd around ((disjoint entry member).mp own)
      · intro caught
        refine List.pairwise_append.mpr ⟨apart, List.pairwise_singleton _ _, fun entry member other new => ?_⟩
        obtain rfl := List.mem_singleton.mp new
        refine (disjoint entry member).mpr fun around => ?_
        obtain ⟨hit, member, inside⟩ := caught ⟨entry, member, around⟩
        obtain ⟨before, behind⟩ := outside hit member
        rcases inside with inside | inside
        · exact before (matchSegment_iff.mp inside)
        · exact behind (matchSegment_iff.mp inside)

/-- For every sequence of calls with ordered ranges: after each of them the ranges have no number in
common, and lookups do not depend on the order of the ranges, if and only if each call for a range
around one that is there has an end in another one. -/
theorem ranges_disjoint_iff {calls : List (SubscribeCall Handler)} (ordered : ∀ call ∈ calls, call.Ordered) :
    (∀ before after subs, calls = before ++ after → Subscribes {} before subs → subs.Unambiguous) ↔
      ∀ before call after subs, calls = before ++ call :: after → Subscribes {} before subs →
        call.Caught subs := by
  constructor
  · intro unambiguous before call after subs split run
    have member : call ∈ calls := by simp [split]
    have others : ∀ call ∈ before, call.Ordered := fun other inside => ordered other (by simp [split, inside])
    cases stepped : call.apply subs with
    | none =>
      cases call with
      | single | scatter => trivial
      | continuous => cases stepped
    | some next =>
      have behind : calls = (before ++ [call]) ++ after := by simp [split]
      have final := (unambiguous _ after next behind (run.append (.single stepped))).disjoint
      have initial := (unambiguous before (call :: after) subs split run).disjoint
      have separate : subs.Separate := ⟨Inhabited.run run others, initial⟩
      exact (separate.apart_apply_iff (ordered call member) stepped).mp final
  · intro caught before after subs split run
    have others : ∀ call ∈ before, call.Ordered := fun other inside => ordered other (by simp [split, inside])
    -- the ranges stay apart along the run, since each call is caught where it is made
    have separate : subs.Separate := by
      refine (run.restrict others).invariant_of_guard SubscribeCall.Caught (fun stepped guard held => ?_)
        (fun first call rest middle own steps => ?_) ⟨nofun, List.Pairwise.nil⟩
      · exact ⟨held.inhabited.apply stepped.2 stepped.1, (held.apart_apply_iff stepped.2 stepped.1).mpr guard⟩
      · exact caught first call (rest ++ after) middle (by simp [split, own]) (steps.mono And.left)
    exact separate.unambiguous

def twoRanges : List (SubscribeCall Nat) := [.continuous 1 5 0, .continuous 8 9 1]

theorem ranges_disjoint_two : (∀ call ∈ twoRanges, call.Ordered) ∧
    ∃ subs, Subscribes {} twoRanges subs ∧ subs.vecHandlers = [((1, 5), 0), ((8, 9), 1)] ∧
      subs.Unambiguous := by
  have ordered : ∀ call ∈ twoRanges, call.Ordered := by simp [twoRanges, SubscribeCall.Ordered]
  have run : Subscribes {} twoRanges { vecHandlers := [((1, 5), 0), ((8, 9), 1)] } :=
    steps_of_runAll rfl
  refine ⟨ordered, _, run, rfl, (ranges_disjoint_iff ordered).mpr ?_ _ [] _ (List.append_nil _).symm run⟩
  intro before call after subs split steps
  match before with
  | [] =>
    cases steps
    obtain ⟨rfl, -⟩ := List.cons.inj split
    rintro ⟨entry, member, -⟩
    cases member
  | [first] =>
    obtain ⟨rfl, rest⟩ := List.cons.inj split
    obtain ⟨rfl, -⟩ := List.cons.inj rest
    cases steps with
    | cons stepped rest =>
      cases rest
      cases stepped
      rintro ⟨entry, member, around⟩
      obtain rfl := List.mem_singleton.mp member
      cases around.1
  | first :: second :: before => simp [twoRanges] at split

/-- A range around one that is there is added: the number 4 has two handlers, and which one is found
depends on which range was subscribed first. -/
theorem enclosing_range_added :
    ∃ subs other : Subscriptions Nat,
      Subscribes {} [.continuous 3 5 0, .continuous 1 10 1] subs ∧
        subs.vecHandlers = [((3, 5), 0), ((1, 10), 1)] ∧ ¬ subs.vecHandlers.Pairwise Apart ∧
        subs.vecHandlers.countP (fun entry => matchSegment entry.1 4) = 2 ∧ subs.findHandler 4 = some 0 ∧
        Subscribes {} [.continuous 1 10 1, .continuous 3 5 0] other ∧ other.findHandler 4 = some 1 := by
  refine ⟨_, _, steps_of_runAll rfl, rfl, fun apart => ?_, rfl, rfl, steps_of_runAll rfl, rfl⟩
  have disjoint := (List.pairwise_cons.mp apart).1 _ List.mem_cons_self
  exact Set.disjoint_left.mp disjoint (show (4 : Int) ∈ Set.Icc 3 5 by decide)
    (show (4 : Int) ∈ Set.Icc 1 10 by decide)

end Subscriptions

end Playground.Channel
