import Playground.Cyclic.Window
import Playground.Redis.CallBacks

/-! The cursor of `CheckTimeOut` follows the numbers of the callbacks, and both wrap around. -/

namespace Playground.Redis

open Transition Cyclic

variable {world : RedisWorld}

def Calls.Pending (calls : Calls) (cbid : CallBackId) : Prop := calls.pool cbid ≠ none

/-- The loop up to the counter has called the listener. -/
def Control.follows : Control → Bool
  | .expiring .following _ => true
  | _ => false

/-- A command does not bring the counter to the cursor, nor to zero from inside a listener of the second
loop. -/
def Calls.Roomy (calls : Calls) (event : RedisEvent) : Prop :=
  event.issues → calls.seq + 1 ≠ calls.chk ∧ (calls.control.follows → calls.seq + 1 ≠ 0)

instance (calls : Calls) (event : RedisEvent) : Decidable (calls.Roomy event) := by
  unfold Calls.Roomy
  infer_instance

def RoomyStep (world : RedisWorld) (event : RedisEvent) (next : RedisWorld) : Prop :=
  redisStep world event = some next ∧ world.calls.Roomy event

/-- All callbacks in the pool lie ahead of the cursor. -/
structure Calls.Ahead (calls : Calls) : Prop where
  window : Window calls.chk calls.seq calls.Pending
  checking {left : Nat} : calls.control = .checking .following left →
    calls.chk ≤ calls.seq ∨ ∀ cbid, ¬ calls.Pending cbid
  expiring {left : Nat} : calls.control = .expiring .following left → calls.chk ≤ calls.seq

section Step

variable {calls next : Calls} {wires after : Wires} {event : RedisEvent}

theorem Calls.Ahead.nextSeq (ahead : calls.Ahead)
    (free : RedisAgent.nextSeq calls.pool (2 ^ 32) calls.seq = some vp) : vp = calls.seq := by
  have absent : calls.pool calls.seq = none := not_not.mp ahead.window.not_live
  rw [RedisAgent.nextSeq_of_free (by decide) absent] at free
  exact (Option.some.inj free).symm

theorem pending_of_erase (pending : calls.erase erased cbid ≠ none) :
    cbid ≠ erased ∧ calls.Pending cbid := by
  obtain ⟨entry, present⟩ := Option.ne_none_iff_exists'.mp pending
  obtain ⟨different, before⟩ := Calls.mem_erase present
  exact ⟨different, by simp [Calls.Pending, before]⟩

/-- One step of the cursor in front of the counter: it stays there, or nothing is in the pool. -/
theorem Calls.Ahead.step_inFront (ahead : calls.Ahead) (inFront : calls.chk ≤ calls.seq) :
    calls.chk + 1 ≤ calls.seq ∨ ∀ cbid, ¬ calls.Pending cbid := by
  by_cases reached : calls.chk = calls.seq
  · right
    intro cbid
    have window := ahead.window
    rw [← reached] at window
    exact window.empty cbid
  · left
    bv_omega

theorem CallMoves.ahead (called : CallMoves calls event next) (ahead : calls.Ahead) : next.Ahead := by
  cases called with
  | @replied _ gone control =>
    cases gone <;> exact ⟨ahead.window.mono fun _ pending => (pending_of_erase pending).2, nofun, nofun⟩
  | disconnects => exact ⟨ahead.window, nofun, nofun⟩
  | freed => exact ⟨ahead.window, nofun, nofun⟩
  | polls idle inFront =>
    refine ⟨ahead.window, fun control => .inl (inFront ?_), nofun⟩
    exact (Control.checking.inj control).1
  | passes control absent inFront =>
    refine ⟨ahead.window.advance fun pending => pending absent, fun following => ?_, nofun⟩
    exact ahead.step_inFront (inFront (Control.checking.inj following).1)
  | expires control found inFront =>
    refine ⟨ahead.window, nofun, fun following => inFront ?_⟩
    exact (Control.expiring.inj following).1
  | stays control => exact ⟨ahead.window, nofun, nofun⟩
  | clamps control behind =>
    rcases ahead.checking control with inFront | none
    · exact absurd behind (BitVec.not_lt.mpr inFront)
    · exact ⟨fun cbid pending => absurd pending (none cbid), nofun, nofun⟩
  | @expired branch left control =>
    have window := ahead.window.mono fun cbid (pending : calls.erase calls.chk cbid ≠ none) =>
      (pending_of_erase pending).2
    refine ⟨window.advance fun pending => (pending_of_erase pending).1 rfl, fun following => ?_, nofun⟩
    obtain ⟨rfl, _⟩ := Control.checking.inj following
    rcases ahead.step_inFront (ahead.expiring control) with inFront | none
    · exact .inl inFront
    · exact .inr fun cbid pending => none cbid (pending_of_erase pending).2

theorem Moves.ahead (moves : Moves calls next wires after event) (roomy : calls.Roomy event)
    (ahead : calls.Ahead) : next.Ahead := by
  cases moves with
  | rests same => exact same ▸ ahead
  | issues sent time issues allowed number address free called =>
    subst called
    obtain ⟨apart, nonzero⟩ := roomy issues
    have cbid := ahead.nextSeq free
    refine ⟨?_, fun control => ?_, fun control => ?_⟩
    · rw [cbid]
      refine ahead.window.allocate apart fun number pending => ?_
      by_cases new : number = calls.seq
      · exact .inl new
      · exact .inr (by simpa [Calls.Pending, new] using pending)
    · simp only at control
      rw [control] at allowed
      cases allowed
    · have inFront := ahead.expiring control
      have listener : calls.control = .expiring .following _ := control
      have grown := toNat_succ (nonzero (by simp [listener, Control.follows]))
      simp only [cbid]
      bv_omega
  | refuses vp free called =>
    obtain rfl := ahead.nextSeq free
    exact called ▸ ahead
  | executes _ _ _ _ same => exact same ▸ ahead
  | drops _ _ _ _ same => exact same ▸ ahead
  | hands sent reply entry idle takes found present called =>
    subst called
    exact ⟨ahead.window, nofun, nofun⟩
  | loses sent entry listener control takes present consumes called =>
    subst called
    rcases consumes with rfl | rfl <;> exact ⟨ahead.window, nofun, nofun⟩
  | selects sent reply entry idle takes found present called =>
    subst called
    refine ⟨ahead.window.mono fun _ pending => (pending_of_erase pending).2, ?_, ?_⟩
    · exact fun control => by simp [idle] at control
    · exact fun control => by simp [idle] at control
  | moves called => exact called.ahead ahead

def Control.left : Control → Nat
  | .checking _ left => left
  | .expiring _ left => left
  | _ => 0

/-- The callback is neither handed over nor passed; all up to it satisfy what is asked of them. -/
structure Calls.Awaits (calls : Calls) (cbid : CallBackId) (entry : RedisAgentCallBack)
    (old : RedisAgentCallBack → Prop) : Prop where
  present : calls.pool cbid = some entry
  unconsumed : calls.consuming ≠ some cbid
  front {number : CallBackId} {other : RedisAgentCallBack} : calls.pool number = some other →
    distance calls.chk number ≤ distance calls.chk cbid → old other

variable {cbid : CallBackId} {entry : RedisAgentCallBack} {old : RedisAgentCallBack → Prop}

theorem Calls.Awaits.nonempty (awaits : calls.Awaits cbid entry old) : calls.Pending cbid := by
  simp [Calls.Pending, awaits.present]

theorem Calls.Awaits.keep (awaits : calls.Awaits cbid entry old) (chk : next.chk = calls.chk)
    (present : next.pool cbid = calls.pool cbid) (unconsumed : next.consuming ≠ some cbid)
    (pool : ∀ {number other}, next.pool number = some other →
      distance calls.chk number ≤ distance calls.chk cbid →
      calls.pool number = some other) : next.Awaits cbid entry old where
  present := present.trans awaits.present
  unconsumed := unconsumed
  front found near := by
    rw [chk] at near
    exact awaits.front (pool found near) near

theorem Calls.Awaits.advance (awaits : calls.Awaits cbid entry old) (other : cbid ≠ calls.chk)
    (chk : next.chk = calls.chk + 1) (present : next.pool cbid = calls.pool cbid)
    (unconsumed : next.consuming ≠ some cbid) (absent : next.pool calls.chk = none)
    (pool : ∀ {number other}, next.pool number = some other → calls.pool number = some other) :
    next.Awaits cbid entry old where
  present := present.trans awaits.present
  unconsumed := unconsumed
  front {number found} := by
    intro here near
    have different : number ≠ calls.chk := by
      rintro rfl
      rw [absent] at here
      cases here
    have nearer := distance_advance different
    have nearerToo := distance_advance other
    rw [chk] at near
    exact awaits.front (pool here) (by omega)

/-- The callback is handed over with the timeout flag, or a reply came in or a connection went. -/
def Calls.HandedOver (calls : Calls) (cb : Buffer) (events : List RedisEvent) : Prop :=
  ∃ handed ∈ calls.handed, handed.cb = cb ∧
    (handed.reply = none ∧ handed.timeout ∨ ∃ event ∈ events, event.delivers)

theorem Calls.Awaits.handedOver (awaits : calls.Awaits cbid entry old) {reply : Option (Nat × RedisReply)}
    (present : calls.pool cbid = some found) (delivers : event.delivers)
    (handed : next.handed = calls.handed ++ [{ cb := found.cb, reply }]) : next.HandedOver entry.cb [event] := by
  obtain rfl : found = entry := Option.some.inj (present.symm.trans awaits.present)
  refine ⟨{ cb := found.cb, reply }, ?_, rfl, .inr ⟨event, List.mem_cons_self, delivers⟩⟩
  rw [handed]
  exact List.mem_append_right _ List.mem_cons_self

/-- Rounds that were enough to reach a number are still enough. -/
def Calls.Nearer (calls next : Calls) (event : RedisEvent) (cbid : CallBackId) : Prop :=
  ∀ later, distance calls.chk cbid < calls.control.left + event.rounds + later →
    distance next.chk cbid < next.control.left + later

theorem Calls.Nearer.of_chk (chk : next.chk = calls.chk)
    (left : calls.control.left + event.rounds ≤ next.control.left) : calls.Nearer next event cbid := by
  intro later enough
  rw [chk]
  omega

theorem Calls.Nearer.of_advance (other : cbid ≠ calls.chk) (chk : next.chk = calls.chk + 1)
    (left : next.control.left = calls.control.left - 1) (none : event.rounds = 0) :
    calls.Nearer next event cbid := by
  intro later enough
  have nearer := distance_advance other
  rw [chk, left]
  omega

/-- A step that leaves pool and cursor alone. -/
theorem Calls.Awaits.waits (awaits : calls.Awaits cbid entry old) (pool : next.pool = calls.pool)
    (chk : next.chk = calls.chk) (unconsumed : next.consuming ≠ some cbid)
    (left : calls.control.left + event.rounds ≤ next.control.left) :
    next.Awaits cbid entry old ∧ calls.Nearer next event cbid :=
  ⟨awaits.keep chk (congrFun pool cbid) unconsumed fun found _ => pool ▸ found, .of_chk chk left⟩

theorem CallMoves.awaits (called : CallMoves calls event next) (ahead : calls.Ahead)
    (awaits : calls.Awaits cbid entry old)
    (aged : ∀ {now : Int} {other}, event = .check now → old other → (other.time + 5).toNat < now) :
    next.HandedOver entry.cb [event] ∨ next.Awaits cbid entry old ∧ calls.Nearer next event cbid := by
  have pending := awaits.nonempty
  have unconsumed := awaits.unconsumed
  cases called with
  | @replied erased gone control =>
    have other : cbid ≠ erased := fun same => unconsumed (by simp [Calls.consuming, control, same])
    refine .inr ⟨awaits.keep rfl (Function.update_of_ne other ..) ?_ fun found _ => ?_, ?_⟩
    · cases gone <;> simp [Calls.consuming, Control.behind]
    · exact (Calls.mem_erase found).2
    · exact .of_chk rfl (by simp [control, Control.left, RedisEvent.rounds])
  | disconnects idle cause =>
    refine .inr (awaits.waits rfl rfl (by simp [Calls.consuming]) ?_)
    simp [idle, Control.left, RedisEvent.rounds_of_disconnects cause]
  | freed control =>
    refine .inr (awaits.waits rfl rfl (by simp [Calls.consuming]) ?_)
    simp [control, Control.left, RedisEvent.rounds]
  | polls idle inFront =>
    refine .inr (awaits.waits rfl rfl (by simp [Calls.consuming]) ?_)
    simp [idle, Control.left, RedisEvent.rounds]
  | passes control absent inFront =>
    have other : cbid ≠ calls.chk := fun same => pending (same ▸ absent)
    refine .inr ⟨awaits.advance other rfl rfl (by simp [Calls.consuming]) absent id, ?_⟩
    exact .of_advance other rfl (by simp [control, Control.left]) rfl
  | expires control found inFront =>
    by_cases reached : cbid = calls.chk
    · have same := awaits.present
      rw [reached, found] at same
      cases same
      exact .inl ⟨_, List.mem_append_right _ List.mem_cons_self, rfl, .inl ⟨rfl, rfl⟩⟩
    · refine .inr (awaits.waits rfl rfl (fun consumed => reached (Option.some.inj consumed).symm) ?_)
      simp [control, Control.left, RedisEvent.rounds]
  | stays control why =>
    rcases why with none | ⟨first, found, young⟩
    · refine .inr (awaits.waits rfl rfl (by simp [Calls.consuming]) ?_)
      simp [control, none, Control.left, RedisEvent.rounds]
    · exact absurd (aged rfl (awaits.front found (by simp))) young
  | clamps control behind =>
    rcases ahead.checking control with inFront | none
    · exact absurd behind (BitVec.not_lt.mpr inFront)
    · exact absurd pending (none cbid)
  | expired control =>
    have other : cbid ≠ calls.chk := fun same => unconsumed (by simp [Calls.consuming, control, same])
    refine .inr ⟨awaits.advance other rfl (Function.update_of_ne other ..) (by simp [Calls.consuming])
      (Function.update_self ..) fun found => (Calls.mem_erase found).2, ?_⟩
    exact .of_advance other rfl (by simp [control, Control.left]) rfl

/-- A callback that waits is handed over, or the cursor has come nearer. -/
theorem Moves.awaits (moves : Moves calls next wires after event) (ahead : calls.Ahead)
    (awaits : calls.Awaits cbid entry old)
    (aged : ∀ {now : Int} {other}, event = .check now → old other → (other.time + 5).toNat < now) :
    next.HandedOver entry.cb [event] ∨ next.Awaits cbid entry old ∧ calls.Nearer next event cbid := by
  have still (same : next = calls) (none : event.rounds = 0) :
      next.HandedOver entry.cb [event] ∨ next.Awaits cbid entry old ∧ calls.Nearer next event cbid :=
    .inr ⟨same ▸ awaits, .of_chk (by rw [same]) (by rw [same, none]; exact Nat.le_refl _)⟩
  cases moves with
  | rests same _ quiet => exact still same quiet
  | issues sent time issues allowed number address free called =>
    have absent : calls.pool calls.seq = none := not_not.mp ahead.window.not_live
    have other : cbid ≠ calls.seq := fun same => awaits.nonempty (same ▸ absent)
    rw [ahead.nextSeq free] at called
    subst called
    refine .inr ⟨awaits.keep rfl (Function.update_of_ne other ..) awaits.unconsumed fun found near => ?_, ?_⟩
    · rename_i at_cbid entry
      -- the new number lies behind the awaited one
      have old : at_cbid ≠ calls.seq := by
        rintro rfl
        exact Nat.not_le.mpr (ahead.window cbid awaits.nonempty) near
      simpa [old] using found
    · exact .of_chk rfl (by rw [RedisEvent.rounds_of_issues issues]; exact Nat.le_refl _)
  | refuses vp free called _ quiet =>
    obtain rfl := ahead.nextSeq free
    exact still called quiet
  | executes _ _ _ _ same => exact still same rfl
  | drops _ delivers _ _ same => exact still same (RedisEvent.rounds_of_delivers delivers)
  | hands sent reply found idle _ _ present called =>
    subst called
    by_cases own : sent.cbid = cbid
    · exact .inl (awaits.handedOver (own ▸ present) rfl rfl)
    · refine .inr (awaits.waits rfl rfl (fun consumed => own (Option.some.inj consumed)) ?_)
      simp [idle, Control.left, RedisEvent.rounds]
  | loses sent found listener control _ present consumes called =>
    subst called
    by_cases own : sent.cbid = cbid
    · exact .inl (awaits.handedOver (own ▸ present) rfl rfl)
    · refine .inr (awaits.waits rfl rfl ?_ (by simp [control, Control.left, RedisEvent.rounds]))
      rcases consumes with rfl | rfl <;> exact fun consumed => own (Option.some.inj consumed)
  | selects sent reply found idle _ _ present called =>
    subst called
    by_cases own : sent.cbid = cbid
    · exact .inl (awaits.handedOver (own ▸ present) rfl rfl)
    · have kept := Function.update_of_ne (Ne.symm own) none calls.pool
      refine .inr ⟨awaits.keep rfl kept awaits.unconsumed fun found _ => (Calls.mem_erase found).2, ?_⟩
      exact .of_chk rfl (by simp [RedisEvent.rounds])
  | moves called => exact called.awaits ahead awaits aged

theorem Moves.handed_mono (moves : Moves calls next wires after event) : calls.handed ⊆ next.handed := by
  cases moves with
  | rests called | issues _ _ _ _ _ _ _ called | refuses _ _ called | executes _ _ _ _ called | drops _ _ _ _ called =>
    exact called ▸ List.Subset.refl _
  | hands _ _ _ _ _ _ _ called | selects _ _ _ _ _ _ _ called | loses _ _ _ _ _ _ _ called =>
    exact called ▸ List.subset_append_left _ _
  | moves called =>
    cases called with
    | expires => exact List.subset_append_left _ _
    | _ => exact List.Subset.refl _

theorem Calls.HandedOver.mono (handedOver : calls.HandedOver cb events)
    (handed : calls.handed ⊆ next.handed) (grows : events ⊆ more) : next.HandedOver cb more := by
  obtain ⟨one, member, same, timeout | ⟨event, among, delivers⟩⟩ := handedOver
  · exact ⟨one, handed member, same, .inl timeout⟩
  · exact ⟨one, handed member, same, .inr ⟨event, grows among, delivers⟩⟩

end Step

private theorem ahead_start (addrList : List RedisAddr) (store : Store) :
    (RedisWorld.start addrList store).calls.Ahead where
  window _ pending := absurd rfl pending
  checking := nofun
  expiring := nofun

theorem RoomyStep.ahead {next : RedisWorld} (step : RoomyStep world event next)
    (ahead : world.calls.Ahead) : next.calls.Ahead :=
  (redisStep_moves step.1).ahead step.2 ahead

private theorem run_ahead {final : RedisWorld}
    (run : Steps RoomyStep (.start addrList store) events final) : final.calls.Ahead :=
  run.invariant RoomyStep.ahead (ahead_start addrList store)

private theorem run_handed_mono {final : RedisWorld}
    (run : Steps RoomyStep world events final) : world.calls.handed ⊆ final.calls.handed := by
  induction run with
  | nil => exact List.Subset.refl _
  | cons first rest ih => exact List.Subset.trans (redisStep_moves first.1).handed_mono ih

/-- A callback is reached if the calls of `Polling` ask for enough rounds, and nothing before it
is too young. -/
theorem run_reaches {final : RedisWorld} {events : List RedisEvent}
    {entry : RedisAgentCallBack} (run : Steps RoomyStep world events final)
    (ahead : world.calls.Ahead) (idle : final.control = .idle) (awaits : world.calls.Awaits cbid entry old)
    (aged : ∀ (now : Int) other, .check now ∈ events → old other → (other.time + 5).toNat < now)
    (enough : distance world.calls.chk cbid < world.control.left + (events.map RedisEvent.rounds).sum) :
    final.calls.HandedOver entry.cb events := by
  induction run with
  | nil => simp [idle, Control.left] at enough
  | @cons world event next events final first rest ih =>
    have moves := redisStep_moves first.1
    have agedFirst {now : Int} {other : RedisAgentCallBack} (same : event = .check now) :=
      aged now other (same ▸ List.mem_cons_self)
    rcases moves.awaits ahead awaits agedFirst with handedOver | ⟨still, nearer⟩
    · refine handedOver.mono (run_handed_mono rest) ?_
      exact List.cons_subset_cons _ (List.nil_subset _)
    · have agedRest (now : Int) (other : RedisAgentCallBack) (member : RedisEvent.check now ∈ events) :=
        aged now other (List.mem_cons_of_mem _ member)
      rw [List.map_cons, List.sum_cons, ← Nat.add_assoc] at enough
      have found := ih (first.ahead ahead) idle still agedRest (nearer _ enough)
      exact found.mono (List.Subset.refl _) (List.subset_cons_self _ _)

/-- In every run in which commands leave the cursor its room, all callbacks in the pool lie ahead of
the cursor, up to the number given out next. So a callback whose predecessors are all older than
five seconds is handed over with the timeout flag, unless replies come in or connections go, as soon as
the calls of `Polling` ask for more rounds than it is away from the cursor. -/
theorem pending_ahead_of_cursor {addrList : List RedisAddr} {store : Store} {events : List RedisEvent}
    (run : Steps RoomyStep (.start addrList store) events world) :
    Window world.agent.chkTimeOut world.agent.callBackSeq (world.agent.callBackPool · ≠ none) ∧
      ∀ later final cbid entry, world.control = .idle → Steps RoomyStep world later final →
        final.control = .idle → world.agent.callBackPool cbid = some entry →
        (∀ number other (now : Int), world.agent.callBackPool number = some other →
          distance world.agent.chkTimeOut number ≤ distance world.agent.chkTimeOut cbid →
          .check now ∈ later → (other.time + 5).toNat < now) →
        distance world.agent.chkTimeOut cbid < (later.map RedisEvent.rounds).sum →
        final.calls.HandedOver entry.cb later := by
  have ahead := run_ahead run
  refine ⟨ahead.window, ?_⟩
  intro later final cbid entry idle rest idleFinal present aged enough
  have awaits : world.calls.Awaits cbid entry fun other =>
      ∀ now : Int, .check now ∈ later → (other.time + 5).toNat < now := by
    refine ⟨present, ?_, fun found near now => aged _ _ now found near⟩
    simp [Calls.consuming, RedisWorld.calls, idle]
  refine run_reaches rest ahead idleFinal awaits (fun now other member old => old now member) ?_
  have none : world.control.left = 0 := by rw [idle]; rfl
  rw [none, Nat.zero_add]
  exact enough

def oneConnection : RedisWorld :=
  .start [{ dbidx := 0 }] fun _ _ => none

def cursorFirst : List RedisEvent :=
  let call : Call := { pick := 0, now := 0, taken := true }
  [.connect 0 true call, .execute 0 true, .reply 0 0, .polling 3, .check 0, .check 0, .check 0, .check 0,
    .command [1] (.get [7]) call, .command [2] (.get [7]) call, .command [3] (.get [7]) call,
    .command [4] (.get [7]) call, .polling 1, .check 100, .check 100]

def cursorFirstWorld : RedisWorld :=
  (runAll (guarded (·.calls.Roomy ·) redisStep) oneConnection cursorFirst).get (by decide +kernel)

private theorem cursorFirst_run : Steps RoomyStep oneConnection cursorFirst cursorFirstWorld :=
  steps_of_guarded (Option.some_get _).symm

theorem pending_ahead_of_cursor_first :
    cursorFirstWorld.agent.callBackSeq = 6 ∧ cursorFirstWorld.agent.chkTimeOut = 9 ∧
      (cursorFirstWorld.agent.callBackPool 5).isSome ∧
      Window cursorFirstWorld.agent.chkTimeOut cursorFirstWorld.agent.callBackSeq
        (cursorFirstWorld.agent.callBackPool · ≠ none) :=
  ⟨by decide +kernel, by decide +kernel, by decide +kernel,
    (pending_ahead_of_cursor cursorFirst_run).1⟩

/-- Four commands are issued before the cursor moves: it goes on behind them. -/
def commandsFirst : List RedisEvent :=
  let call (now : Int) : Call := { pick := 0, now, taken := true }
  [.connect 0 true (call 0), .execute 0 true, .reply 0 0,
    .command [1] (.get [7]) (call 0), .command [2] (.get [7]) (call 0), .command [3] (.get [7]) (call 0),
    .command [4] (.get [7]) (call 10), .polling 10, .check 100, .expired, .check 100, .check 100]

def commandsFirstWorld : RedisWorld :=
  (runAll redisStep oneConnection commandsFirst).get (by decide +kernel)

/-- The last of the commands is timed out, and the cursor has left the others behind. -/
theorem cursor_skips_pending :
    Steps (redisStep · · = some ·) oneConnection commandsFirst commandsFirstWorld ∧
      commandsFirstWorld.handed.map (·.cb.address) = [0, 4] ∧
      commandsFirstWorld.agent.chkTimeOut = commandsFirstWorld.agent.callBackSeq ∧
      ([2, 3, 4].filterMap commandsFirstWorld.agent.callBackPool).map (·.cb.address) = [1, 2, 3] ∧
      ¬ Window commandsFirstWorld.agent.chkTimeOut commandsFirstWorld.agent.callBackSeq
        (commandsFirstWorld.agent.callBackPool · ≠ none) := by
  have reached : commandsFirstWorld.agent.chkTimeOut = commandsFirstWorld.agent.callBackSeq := by decide +kernel
  refine ⟨steps_of_runAll (Option.some_get _).symm, by decide +kernel, reached, by decide +kernel, ?_⟩
  intro window
  rw [reached] at window
  exact window.empty 2 (by decide +kernel)

end Playground.Redis
