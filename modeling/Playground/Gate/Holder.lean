import Playground.Gate.Invariants

/-! Which account holds a slot, and how far the connect events under way agree with it. -/

namespace Playground.Gate

open Framing Component Transition

/-- The slot is in the hands of the account. -/
def Slot.Authenticated (slot : Slot) (uid : UInt64) : Prop := slot.state = .authorized ∧ slot.uid = uid

/-- Nobody but the account can be reached over the slot. -/
def Slot.HeldBy (slot : Slot) (uid : UInt64) : Prop := slot.state = .invalid ∨ slot.Authenticated uid

/-- A connect of the account is on its way over the channel. -/
def Table.Announces (table : Table) (channel : Int) (i : Nat) (uid : UInt64) : Prop :=
  ∃ post ∈ table.posted channel, post.1.event = .connected ∧ post.1.idx = i ∧ post.1.uid = uid

variable {env : Env} {table next : Table} {act : Act} {i : Nat} {uid : UInt64}

theorem authenticated_step (stepped : ActStep env table act next)
    (holds : (table.slots i).Authenticated uid)
    (kept : ∀ reason, act ≠ .remove i reason) : (next.slots i).Authenticated uid := by
  obtain ⟨enabled, rfl⟩ := stepped
  have other : ∀ {j}, ((table.slots j).state = .connected ∨ ¬ table.Live j) → i ≠ j := by
    rintro j state rfl
    rcases state with connected | dead
    · cases connected.symm.trans holds.1
    · exact dead (by simp [Table.Live, holds.1])
  cases act with
  | message | write | closeClient | forward => simpa [Table.apply] using holds
  | accept j client written => simpa [Table.apply, other (.inr enabled.1)] using holds
  | refuse j client written => simpa [Table.apply, other (.inr enabled.1)] using holds
  | authorize j uid area dst written => simpa [Table.apply, other (.inl enabled.1)] using holds
  | await j uid area dst => simpa [Table.apply, other (.inl enabled.1)] using holds
  | remove j reason =>
    have distinct : i ≠ j := by
      rintro rfl
      exact kept reason rfl
    simpa [Table.apply, distinct] using holds

private theorem invalid_step (stepped : ActStep env table act next) (free : (table.slots i).state = .invalid)
    (untaken : ∀ client, act.taken ≠ some (i, client)) : (next.slots i).state = .invalid := by
  obtain ⟨enabled, rfl⟩ := stepped
  have other : ∀ {j}, (table.slots j).state ≠ .invalid → i ≠ j := by
    rintro j live rfl
    exact live free
  cases act with
  | message | write | closeClient | forward => simpa [Table.apply] using free
  | accept j client written =>
    have distinct : i ≠ j := fun same => untaken client (by rw [same]; rfl)
    simpa [Table.apply, distinct] using free
  | refuse j client written =>
    have distinct : i ≠ j := fun same => untaken client (by rw [same]; rfl)
    simpa [Table.apply, distinct] using free
  | authorize j uid area dst written =>
    simpa [Table.apply, other (j := j) (by simp [enabled.1])] using free
  | await j uid area dst => simpa [Table.apply, other (j := j) (by simp [enabled.1])] using free
  | remove j reason => simpa [Table.apply, other (Table.byIdx_some enabled).2.2.2] using free

theorem heldBy_step (stepped : ActStep env table act next) (holds : (table.slots i).HeldBy uid)
    (untaken : ∀ client, act.taken ≠ some (i, client)) : (next.slots i).HeldBy uid := by
  rcases holds with free | holds
  · exact .inl (invalid_step stepped free untaken)
  · by_cases removed : ∃ reason, act = .remove i reason
    · obtain ⟨reason, rfl⟩ := removed
      obtain ⟨_, rfl⟩ := stepped
      exact .inl (by simp [Table.apply])
    · exact .inr (authenticated_step stepped holds fun reason same => removed ⟨reason, same⟩)

section Channel

variable {channel dst : Int}

private theorem mem_post (member : post ∈ (table.post env dst msg data).posted channel) :
    post ∈ table.posted channel ∨ post.1 = msg := by
  unfold Table.post at member
  split at member
  · exact .inl member
  · split at member
    · by_cases same : channel = dst
      · subst same
        simp only [Function.update_self, List.mem_append, List.mem_singleton] at member
        exact member.imp_right fun sent => by rw [sent]
      · exact .inl (by simpa [same] using member)
    · exact .inl member

private theorem mem_report (member : post ∈ (table.report env i event param data).posted channel) :
    post ∈ table.posted channel ∨ post.1 = table.message i event param := by
  have sent := mem_post member
  exact sent

theorem announces_step (stepped : ActStep env table act next) (mapped : table.Mapped)
    (announces : next.Announces channel i uid) :
    table.Announces channel i uid ∨ act.admits = some i ∧ (next.slots i).Authenticated uid := by
  obtain ⟨enabled, rfl⟩ := stepped
  obtain ⟨post, member, connected, idx, account⟩ := announces
  have old : post ∈ table.posted channel → table.Announces channel i uid :=
    fun before => ⟨post, before, connected, idx, account⟩
  cases act with
  | message | write | closeClient | accept | refuse | await => exact .inl (old member)
  | forward j data =>
    rcases mem_report member with before | sent
    · exact .inl (old before)
    · simp [sent, Table.message, GateServerHandler.eventMessage] at connected
  | remove j reason =>
    rcases mem_report (i := j) member with before | sent
    · exact .inl (old before)
    · simp [sent, Table.message, GateServerHandler.eventMessage] at connected
  | authorize j account' area dst written =>
    rcases mem_report (i := j) member with before | sent
    · exact .inl (old before)
    · have own : table.idxOf j = j := mapped.idxOf enabled.2.1
      rw [sent] at idx account
      simp only [Table.message, GateServerHandler.eventMessage, Table.idxOf, Table.writes_slots, Table.writes_map,
        Table.setSlot_slots, Table.setSlot_map, Function.update_self] at idx account
      have same : j = i := own.symm.trans idx
      subst same
      exact .inr ⟨rfl, by simp [Table.apply, Slot.Authenticated, account]⟩

end Channel

namespace StepActs

variable {gate after : GateServerHandler} {ev : Event}

theorem authenticated (acted : StepActs env gate ev acts after)
    (holds : (gate.table.slots i).Authenticated uid)
    (kept : ¬ Removes env gate i ev) : (after.table.slots i).Authenticated uid := by
  have none : ∀ act ∈ acts, ∀ reason, act ≠ .remove i reason :=
    fun act member reason same => kept ((acted.removal i).mp ⟨reason, same ▸ member⟩)
  have keeps : ∀ {table act next}, (ActStep env table act next ∧ ∀ reason, act ≠ .remove i reason) →
      (table.slots i).Authenticated uid → (next.slots i).Authenticated uid :=
    fun stepped holds => authenticated_step stepped.1 holds stepped.2
  exact (acted.steps.restrict none).invariant keeps holds

theorem heldBy (acted : StepActs env gate ev acts after) (holds : (gate.table.slots i).HeldBy uid)
    (untaken : ∀ client, ev = .newConnection client → (gate.countAlive 1).getNextIdx ≠ some i) :
    (after.table.slots i).HeldBy uid := by
  have none : ∀ act ∈ acts, ∀ client, act.taken ≠ some (i, client) := by
    intro act member client taken
    obtain ⟨accepts, _, next⟩ := acted.taken act member i client taken
    exact untaken client accepts next
  have keeps : ∀ {table act next}, (ActStep env table act next ∧ ∀ client, act.taken ≠ some (i, client)) →
      (table.slots i).HeldBy uid → (next.slots i).HeldBy uid :=
    fun stepped holds => heldBy_step stepped.1 holds stepped.2
  exact (acted.steps.restrict none).invariant keeps holds

theorem announces (acted : StepActs env gate ev acts after) (mapped : gate.table.Mapped)
    (announced : after.table.Announces channel i uid) :
    gate.table.Announces channel i uid ∨ (after.table.slots i).Authenticated uid := by
  -- a new event names a slot that this call authenticates, and such a slot it does not remove
  have keeps : ∀ {table act next}, ActStep env table act next ∧ act ∈ acts →
      table.Mapped ∧ (table.Announces channel i uid → gate.table.Announces channel i uid ∨
        (table.slots i).Authenticated uid ∧ ∃ act ∈ acts, act.admits = some i) →
      next.Mapped ∧ (next.Announces channel i uid → gate.table.Announces channel i uid ∨
        (next.slots i).Authenticated uid ∧ ∃ act ∈ acts, act.admits = some i) := by
    intro table act next ⟨stepped, member⟩ ⟨mapped, known⟩
    refine ⟨mapped.step stepped, fun announced => ?_⟩
    rcases announces_step stepped mapped announced with before | ⟨admits, holds⟩
    · rcases known before with old | ⟨holds, admitting⟩
      · exact .inl old
      · refine .inr ⟨authenticated_step stepped holds fun reason removes => ?_, admitting⟩
        obtain ⟨admission, inside, admits⟩ := admitting
        cases (acted.admitted i ⟨reason, removes ▸ member⟩ admission inside).symm.trans admits
    · exact .inr ⟨holds, act, member, admits⟩
  have inside : ∀ act ∈ acts, act ∈ acts := fun _ => id
  have final := (acted.steps.restrict inside).invariant keeps ⟨mapped, .inl⟩
  exact (final.2 announced).imp_right And.left

end StepActs

end Playground.Gate
