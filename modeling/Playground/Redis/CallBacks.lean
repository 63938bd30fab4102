import Playground.Redis.World

/-! Each callback buffer is handed over at most once, with the reply to its own command or with the
timeout flag. -/

namespace Playground.Redis

open Transition

theorem RedisAgent.nextSeq_of_free
    (enough : 0 < fuel) (free : pool seq = none) : nextSeq pool fuel seq = some seq := by
  cases fuel with
  | zero => contradiction
  | succ fuel => simp [nextSeq, free]

/-- The commands on their way are commands that went out, under the number of their place. -/
structure Wires.Numbered (wires : Wires) : Prop where
  issued {place : Nat} {sent : Sent} : wires.issued[place]? = some sent →
    sent.number = place ∧ sent.cb.address = place ∧ sent.cbid.toNat = place + 1
  streams {conn : Nat} {sent : Sent} : sent ∈ wires.streams conn → sent ∈ wires.issued
  answers {conn : Nat} {sent : Sent} {reply : RedisReply} : (sent, reply) ∈ wires.answers conn →
    sent ∈ wires.issued ∧ (sent, reply) ∈ wires.executed

namespace Wires.Numbered

variable {wires : Wires} {sent other : Sent} {conn : Nat} (numbered : wires.Numbered)

include numbered

theorem address (member : sent ∈ wires.issued) :
    sent.cb.address = sent.number ∧ sent.cbid.toNat = sent.number + 1 ∧ sent.number < wires.issued.length := by
  obtain ⟨place, found⟩ := List.mem_iff_getElem?.mp member
  obtain ⟨number, address, cbid⟩ := numbered.issued found
  have bound := (List.getElem?_eq_some_iff.mp found).1
  omega

theorem eq_of_number (member : sent ∈ wires.issued)
    (memberOther : other ∈ wires.issued) (same : sent.number = other.number) : sent = other := by
  obtain ⟨place, found⟩ := List.mem_iff_getElem?.mp member
  obtain ⟨placeOther, foundOther⟩ := List.mem_iff_getElem?.mp memberOther
  have number := (numbered.issued found).1
  have numberOther := (numbered.issued foundOther).1
  have places : place = placeOther := by omega
  subst places
  exact Option.some.inj (found.symm.trans foundOther)

theorem eq_of_cbid (member : sent ∈ wires.issued)
    (memberOther : other ∈ wires.issued) (same : sent.cbid = other.cbid) : sent = other := by
  have cbid := (numbered.address member).2.1
  have cbidOther := (numbered.address memberOther).2.1
  rw [same] at cbid
  exact numbered.eq_of_number member memberOther (by omega)

theorem issue (number : sent.number = wires.issued.length)
    (address : sent.cb.address = sent.number) (cbid : sent.cbid.toNat = wires.issued.length + 1) :
    (wires.issue sent).Numbered where
  issued {place found} := by
    intro at_place
    rcases Nat.lt_trichotomy place wires.issued.length with old | new | outside
    · rw [Wires.issue, List.getElem?_append_left old] at at_place
      exact numbered.issued at_place
    · subst new
      have same : sent = found := by simpa [Wires.issue] using at_place
      subst same
      exact ⟨number, address.trans number, cbid⟩
    · have bound := (List.getElem?_eq_some_iff.mp at_place).1
      simp only [Wires.issue, List.length_append, List.length_singleton] at bound
      omega
  streams {at_conn found} := by
    intro member
    by_cases same : at_conn = sent.conn
    · subst same
      have either : found ∈ wires.streams sent.conn ∨ found = sent := by simpa [Wires.issue] using member
      rcases either with old | rfl
      · exact List.mem_append_left _ (numbered.streams old)
      · exact List.mem_append_right _ List.mem_cons_self
    · have old : found ∈ wires.streams at_conn := by simpa [Wires.issue, same] using member
      exact List.mem_append_left _ (numbered.streams old)
  answers member :=
    have ⟨issued, executed⟩ := numbered.answers member
    ⟨List.mem_append_left _ issued, executed⟩

theorem execute (head : wires.streams conn = sent :: rest)
    (reply : RedisReply) : (wires.execute conn sent rest reply).Numbered where
  issued := numbered.issued
  streams {at_conn found} := by
    intro member
    by_cases same : at_conn = conn
    · subst same
      have behind : found ∈ rest := by simpa [Wires.execute] using member
      exact numbered.streams (head ▸ List.mem_cons_of_mem _ behind)
    · exact numbered.streams (by simpa [Wires.execute, same] using member)
  answers {at_conn found answer} := by
    intro member
    have old (before : (found, answer) ∈ wires.answers at_conn) :
        found ∈ wires.issued ∧ (found, answer) ∈ wires.executed ++ [(sent, reply)] :=
      ⟨(numbered.answers before).1, List.mem_append_left _ (numbered.answers before).2⟩
    by_cases same : at_conn = conn
    · subst same
      have either : (found, answer) ∈ wires.answers at_conn ∨ found = sent ∧ answer = reply := by
        simpa [Wires.execute] using member
      rcases either with before | ⟨rfl, rfl⟩
      · exact old before
      · exact ⟨numbered.streams (head ▸ List.mem_cons_self), List.mem_append_right _ List.mem_cons_self⟩
    · exact old (by simpa [Wires.execute, same] using member)

theorem takes (takes : wires.Takes conn sent after) : after.Numbered where
  issued at_place := numbered.issued (takes.issued ▸ at_place)
  streams member := takes.issued ▸ numbered.streams ((takes.streams _).subset member)
  answers member := by
    rw [takes.issued, takes.executed]
    exact numbered.answers ((takes.answers _).subset member)

theorem pending (takes : wires.Takes conn sent after) : sent ∈ wires.issued := by
  rcases takes.pending with waiting | ⟨reply, answered⟩
  · exact numbered.streams waiting
  · exact (numbered.answers answered).1

end Wires.Numbered

def Calls.consuming (calls : Calls) : Option CallBackId :=
  match calls.control with
  | .replying cbid _ => some cbid
  | .expiring _ _ => some calls.chk
  | .crashed cbid => some cbid
  | _ => none

/-- The callbacks in the pool are those of commands that went out, each under its number. -/
structure Calls.Numbered (calls : Calls) (wires : Wires) : Prop where
  seq : calls.seq.toNat = wires.issued.length + 1
  pool {cbid : CallBackId} {entry : RedisAgentCallBack} : calls.pool cbid = some entry →
    ∃ sent ∈ wires.issued, sent.cbid = cbid ∧ sent.cb = entry.cb

/-- The buffer of the command, with the timeout flag or with the reply to the command. -/
def Handed.Answers (handed : Handed) (sent : Sent) (executed : List (Sent × RedisReply)) : Prop :=
  handed.cb = sent.cb ∧
    (handed.reply = none ∧ handed.timeout ∨
      ¬ handed.timeout ∧ ∃ reply, handed.reply = some (sent.number, reply) ∧ (sent, reply) ∈ executed)

/-- The buffer of the command, with neither. -/
def Handed.Lost (handed : Handed) (sent : Sent) : Prop :=
  handed = { cb := sent.cb, reply := none }

def Handed.Belongs (handed : Handed) (sent : Sent) (executed : List (Sent × RedisReply)) : Prop :=
  handed.Answers sent executed ∨ handed.Lost sent

/-- No buffer is handed over twice: those handed over are out of the pool or with the listener. -/
structure Calls.Delivered (calls : Calls) (wires : Wires) : Prop where
  once : (calls.handed.map (·.cb.address)).Nodup
  own : ∀ handed ∈ calls.handed, ∃ sent ∈ wires.issued, handed.Belongs sent wires.executed
  consumed {handed : Handed} {cbid : CallBackId} {entry : RedisAgentCallBack} : handed ∈ calls.handed →
    calls.pool cbid = some entry → entry.cb.address = handed.cb.address → calls.consuming = some cbid

section Step

variable {calls next : Calls} {wires after : Wires}

section

variable (numbered : calls.Numbered wires)

include numbered

theorem Calls.Numbered.pool_seq (wired : wires.Numbered) : calls.pool calls.seq = none := by
  by_contra taken
  obtain ⟨entry, present⟩ := Option.ne_none_iff_exists'.mp taken
  obtain ⟨sent, member, cbid, _⟩ := numbered.pool present
  have seq := numbered.seq
  obtain ⟨_, number, bound⟩ := wired.address member
  rw [cbid] at number
  omega

theorem Calls.Numbered.nextSeq (wired : wires.Numbered)
    (free : RedisAgent.nextSeq calls.pool (2 ^ 32) calls.seq = some vp) : vp = calls.seq := by
  rw [RedisAgent.nextSeq_of_free (by decide) (numbered.pool_seq wired)] at free
  exact (Option.some.inj free).symm

theorem Calls.Numbered.keep (seq : next.seq = calls.seq)
    (pool : ∀ {cbid entry}, next.pool cbid = some entry → calls.pool cbid = some entry)
    (issued : after.issued = wires.issued) : next.Numbered after where
  seq := by rw [seq, issued, numbered.seq]
  pool present := issued ▸ numbered.pool (pool present)

theorem Calls.Numbered.issue {sent : Sent}
    (cbid : sent.cbid = calls.seq) (room : wires.issued.length + 1 < 2 ^ 32 - 1) :
    Calls.Numbered { calls with
      seq := sent.cbid + 1
      pool := Function.update calls.pool sent.cbid (some { cb := sent.cb, time }) } (wires.issue sent) where
  seq := by
    have seq := numbered.seq
    simp only [cbid, Wires.issue, List.length_append, List.length_singleton]
    bv_omega
  pool {at_cbid entry} := by
    intro present
    by_cases same : at_cbid = sent.cbid
    · subst same
      simp only [Function.update_self, Option.some.injEq] at present
      exact ⟨sent, List.mem_append_right _ List.mem_cons_self, rfl, by rw [← present]⟩
    · simp only [Function.update_of_ne same] at present
      obtain ⟨found, member, facts⟩ := numbered.pool present
      exact ⟨found, List.mem_append_left _ member, facts⟩

end

theorem Calls.mem_erase
    (present : calls.erase erased cbid = some entry) : cbid ≠ erased ∧ calls.pool cbid = some entry := by
  by_cases same : cbid = erased
  · simp [Calls.erase, same] at present
  · exact ⟨same, by simpa [Calls.erase, same] using present⟩

theorem Calls.Numbered.cbid_of_address (numbered : calls.Numbered wires) (wired : wires.Numbered)
    {entry entryOther : RedisAgentCallBack} (present : calls.pool cbid = some entry)
    (presentOther : calls.pool other = some entryOther) (same : entry.cb.address = entryOther.cb.address) :
    cbid = other := by
  obtain ⟨sent, member, rfl, cb⟩ := numbered.pool present
  obtain ⟨sentOther, memberOther, rfl, cbOther⟩ := numbered.pool presentOther
  have address := (wired.address member).1
  have addressOther := (wired.address memberOther).1
  rw [wired.eq_of_number member memberOther (by rw [← address, ← addressOther, cb, cbOther, same])]

theorem Handed.Belongs.cb {handed : Handed} (belongs : handed.Belongs sent executed) :
    handed.cb = sent.cb := by
  rcases belongs with answers | lost
  · exact answers.1
  · rw [lost]

theorem Handed.Belongs.mono {handed : Handed}
    (belongs : handed.Belongs sent executed) (grows : executed ⊆ more) : handed.Belongs sent more := by
  obtain ⟨cb, timeout | ⟨inTime, reply, replied, member⟩⟩ | lost := belongs
  · exact .inl ⟨cb, .inl timeout⟩
  · exact .inl ⟨cb, .inr ⟨inTime, reply, replied, grows member⟩⟩
  · exact .inr lost

theorem Calls.Delivered.keep (delivered : calls.Delivered wires) (handed : next.handed = calls.handed)
    (pool : ∀ {cbid entry}, next.pool cbid = some entry →
      (∀ handed ∈ calls.handed, entry.cb.address ≠ handed.cb.address) ∨
        calls.pool cbid = some entry ∧ (calls.consuming = some cbid → next.consuming = some cbid))
    (issued : wires.issued ⊆ after.issued) (executed : wires.executed ⊆ after.executed) :
    next.Delivered after where
  once := handed ▸ delivered.once
  own one member := by
    rw [handed] at member
    obtain ⟨sent, sentMember, answers⟩ := delivered.own one member
    exact ⟨sent, issued sentMember, answers.mono executed⟩
  consumed {one cbid entry} := by
    intro member present same
    rw [handed] at member
    rcases pool present with fresh | ⟨before, kept⟩
    · exact absurd same (fresh one member)
    · exact kept (delivered.consumed member before same)

theorem Calls.Delivered.hand (delivered : calls.Delivered wires) (numbered : calls.Numbered wires)
    (wired : wires.Numbered) {one : Handed} {entry : RedisAgentCallBack}
    (idle : calls.consuming = none) (present : calls.pool cbid = some entry) (cb : one.cb = entry.cb)
    (own : ∃ sent ∈ wires.issued, one.Belongs sent wires.executed)
    (handed : next.handed = calls.handed ++ [one])
    (pool : ∀ {cbid entry}, next.pool cbid = some entry → calls.pool cbid = some entry)
    (leaves : next.consuming = some cbid ∨ next.pool cbid = none)
    (issued : after.issued = wires.issued) (executed : after.executed = wires.executed) :
    next.Delivered after where
  once := by
    rw [handed, List.map_append, List.nodup_append]
    refine ⟨delivered.once, List.nodup_singleton _, ?_⟩
    rintro address before _ new rfl
    obtain ⟨earlier, member, rfl⟩ := List.mem_map.mp before
    have same : earlier.cb.address = one.cb.address := by simpa using new
    have busy := delivered.consumed member present (by rw [same, cb])
    rw [idle] at busy
    cases busy
  own found member := by
    rw [handed, List.mem_append, List.mem_singleton] at member
    rw [issued, executed]
    rcases member with earlier | rfl
    · exact delivered.own found earlier
    · exact own
  consumed {found at_cbid at_entry} := by
    intro member still same
    rw [handed, List.mem_append, List.mem_singleton] at member
    rcases member with earlier | rfl
    · have busy := delivered.consumed earlier (pool still) same
      rw [idle] at busy
      cases busy
    · have here := numbered.cbid_of_address wired (pool still) present (same.trans (by rw [cb]))
      subst here
      rcases leaves with listener | gone
      · exact listener
      · rw [gone] at still
        cases still

theorem CallMoves.seq_eq (called : CallMoves calls event next) : next.seq = calls.seq := by
  cases called <;> rfl

theorem CallMoves.pool_mono (called : CallMoves calls event next)
    (present : next.pool cbid = some entry) : calls.pool cbid = some entry := by
  cases called with
  | replied => exact (Calls.mem_erase present).2
  | expired => exact (Calls.mem_erase present).2
  | _ => exact present

theorem CallMoves.delivered (called : CallMoves calls event next)
    (wired : wires.Numbered) (numbered : calls.Numbered wires) (delivered : calls.Delivered wires) :
    next.Delivered wires := by
  -- the listener is left only with the callback that is erased
  have keep (handed : next.handed = calls.handed)
      (kept : ∀ {cbid entry}, next.pool cbid = some entry → calls.consuming = some cbid →
        next.consuming = some cbid) : next.Delivered wires :=
    delivered.keep handed (fun present => .inr ⟨called.pool_mono present, kept present⟩)
      (List.Subset.refl _) (List.Subset.refl _)
  cases called with
  | replied control | expired control =>
    refine keep rfl fun present listener => ?_
    have different := (Calls.mem_erase present).1
    simp only [Calls.consuming, control, Option.some.injEq] at listener
    exact absurd listener.symm different
  | expires control found =>
    obtain ⟨sent, member, _, cb⟩ := numbered.pool found
    refine delivered.hand numbered wired ?_ found rfl ⟨sent, member, .inl ⟨cb.symm, .inl ⟨rfl, rfl⟩⟩⟩ rfl id
      (.inl rfl) rfl rfl
    simp [Calls.consuming, control]
  | disconnects control | freed control | polls control | passes control | stays control | clamps control =>
    exact keep rfl fun _ listener => by simp [Calls.consuming, control] at listener

/-- What holds of the calls and the wires as long as the numbers do not wrap around. -/
structure CallsSound (calls : Calls) (wires : Wires) : Prop where
  wired : wires.Numbered
  numbered : calls.Numbered wires
  delivered : calls.Delivered wires

section

variable {sent : Sent} (sound : CallsSound calls wires) (takes : wires.Takes conn sent after)
  (present : calls.pool sent.cbid = some entry)

include sound takes present

theorem CallsSound.cb_eq : entry.cb = sent.cb := by
  obtain ⟨one, member, cbid, cb⟩ := sound.numbered.pool present
  obtain rfl := sound.wired.eq_of_cbid member (sound.wired.pending takes) cbid
  exact cb.symm

theorem CallsSound.answers (found : (sent, reply) ∈ wires.answers conn) :
    ∃ one ∈ wires.issued, Handed.Belongs { cb := entry.cb, reply := some (sent.number, reply) } one
      wires.executed := by
  obtain ⟨issued, executed⟩ := sound.wired.answers found
  exact ⟨sent, issued, .inl ⟨sound.cb_eq takes present, .inr ⟨nofun, reply, rfl, executed⟩⟩⟩

theorem CallsSound.lost :
    ∃ one ∈ wires.issued, Handed.Belongs { cb := entry.cb, reply := none } one wires.executed :=
  ⟨sent, sound.wired.pending takes, .inr (congrArg (Handed.mk · none false) (sound.cb_eq takes present))⟩

theorem CallsSound.hand {one : Handed} (idle : calls.consuming = none) (cb : one.cb = entry.cb)
    (own : ∃ sent ∈ wires.issued, one.Belongs sent wires.executed) (seq : next.seq = calls.seq)
    (handed : next.handed = calls.handed ++ [one])
    (pool : ∀ {cbid entry}, next.pool cbid = some entry → calls.pool cbid = some entry)
    (leaves : next.consuming = some sent.cbid ∨ next.pool sent.cbid = none) : CallsSound next after where
  wired := sound.wired.takes takes
  numbered := sound.numbered.keep seq pool takes.issued
  delivered := sound.delivered.hand sound.numbered sound.wired idle present cb own handed pool leaves takes.issued
    takes.executed

end

/-- The address of the next command was not handed over yet. -/
theorem CallsSound.handed_lt (sound : CallsSound calls wires) {handed : Handed} (member : handed ∈ calls.handed) :
    handed.cb.address < wires.issued.length := by
  obtain ⟨one, issued, belongs⟩ := sound.delivered.own handed member
  obtain ⟨address, -, bound⟩ := sound.wired.address issued
  rw [belongs.cb, address]
  exact bound

/-- Every step keeps the calls sound. -/
theorem Moves.sound {event : RedisEvent} (moves : Moves calls next wires after event)
    (room : after.issued.length < 2 ^ 32 - 1) (sound : CallsSound calls wires) : CallsSound next after := by
  have ⟨wired, numbered, delivered⟩ := sound
  cases moves with
  | rests same still => exact same ▸ still ▸ sound
  | issues sent time issues allowed number address free called wiredAfter =>
    subst called wiredAfter
    have cbid := numbered.nextSeq wired free
    have place := numbered.seq
    rw [← cbid] at place
    simp only [Wires.issue, List.length_append, List.length_singleton] at room
    refine ⟨wired.issue number address place, numbered.issue cbid room, ?_⟩
    refine delivered.keep rfl ?_ (List.subset_append_left _ _) (List.Subset.refl _)
    intro at_cbid entry present
    by_cases same : at_cbid = sent.cbid
    · refine .inl fun handed member equal => ?_
      have before := sound.handed_lt member
      subst same
      simp only [Function.update_self, Option.some.injEq] at present
      rw [← equal, ← present, address, number] at before
      exact absurd before (Nat.lt_irrefl _)
    · simp only [Function.update_of_ne same] at present
      exact .inr ⟨present, id⟩
  | refuses vp free called still =>
    obtain rfl := numbered.nextSeq wired free
    exact called ▸ still ▸ sound
  | executes sent rest reply head same wiredAfter =>
    subst same wiredAfter
    refine ⟨wired.execute head reply, numbered.keep rfl id rfl, ?_⟩
    exact delivered.keep rfl (fun present => .inr ⟨present, id⟩) (List.Subset.refl _)
      (List.subset_append_left _ _)
  | drops sent delivers takes absent same =>
    subst same
    refine ⟨wired.takes takes, numbered.keep rfl id takes.issued, ?_⟩
    exact delivered.keep rfl (fun present => .inr ⟨present, id⟩) (takes.issued ▸ List.Subset.refl _)
      (takes.executed ▸ List.Subset.refl _)
  | hands sent reply entry idle takes found present called =>
    subst called
    refine sound.hand takes present ?_ rfl (sound.answers takes present found) rfl rfl id (.inl rfl)
    simp [Calls.consuming, idle]
  | selects sent reply entry idle takes found present called =>
    subst called
    refine sound.hand takes present ?_ rfl (sound.answers takes present found) rfl rfl
      (fun present => (Calls.mem_erase present).2) (.inr (Function.update_self ..))
    simp [Calls.consuming, idle]
  | loses sent entry listener control takes present consumes called =>
    subst called
    refine sound.hand takes present ?_ rfl (sound.lost takes present) rfl rfl id (.inl ?_)
    · simp [Calls.consuming, control]
    · rcases consumes with rfl | rfl <;> rfl
  | moves called still =>
    subst still
    exact ⟨wired, numbered.keep called.seq_eq called.pool_mono rfl, called.delivered wired numbered delivered⟩

theorem Moves.issued_mono (moves : Moves calls next wires after event) :
    wires.issued.length ≤ after.issued.length := by
  cases moves with
  | issues _ _ _ _ _ _ _ _ wiredAfter => simp [wiredAfter, Wires.issue]
  | rests _ still | refuses _ _ _ still | moves _ still => rw [still]
  | executes _ _ _ _ _ wiredAfter => rw [wiredAfter, Wires.execute]
  | drops _ _ takes | hands _ _ _ _ takes | selects _ _ _ _ takes | loses _ _ _ _ takes => rw [takes.issued]

end Step

private theorem callsSound_start (addrList : List RedisAddr) (store : Store) :
    CallsSound (RedisWorld.start addrList store).calls (RedisWorld.start addrList store).wires where
  wired := { issued := nofun, streams := nofun, answers := nofun }
  numbered := { seq := rfl, pool := nofun }
  delivered := { once := .nil, own := nofun, consumed := nofun }

theorem run_callsSound {final : RedisWorld}
    (run : Steps (redisStep · · = some ·) (.start addrList store) events final)
    (few : final.issued.length < 2 ^ 32 - 1) : CallsSound final.calls final.wires := by
  have keeps : ∀ {world event next}, redisStep world event = some next →
      (world.wires.issued.length < 2 ^ 32 - 1 → CallsSound world.calls world.wires) →
      (next.wires.issued.length < 2 ^ 32 - 1 → CallsSound next.calls next.wires) := by
    intro world event next stepped sound room
    have moves := redisStep_moves stepped
    exact moves.sound room (sound (Nat.lt_of_le_of_lt moves.issued_mono room))
  exact run.invariant keeps (fun _ => callsSound_start addrList store) few

theorem CallsSound.absent {calls : Calls} {wires : Wires} {sent : Sent} (sound : CallsSound calls wires)
    (idle : calls.control = .idle) (issued : sent ∈ wires.issued)
    (handedOver : sent.cb.address ∈ calls.handed.map (·.cb.address)) : calls.pool sent.cbid = none := by
  by_contra present
  obtain ⟨entry, present⟩ := Option.ne_none_iff_exists'.mp present
  obtain ⟨one, member, cbid, cb⟩ := sound.numbered.pool present
  obtain rfl := sound.wired.eq_of_cbid member issued cbid
  obtain ⟨handed, handedMember, address⟩ := List.mem_map.mp handedOver
  have busy := sound.delivered.consumed handedMember present (by rw [← cb, address])
  simp [Calls.consuming, idle] at busy

/-- What holds of the calls and the wires as long as no connection goes with commands under way: the
client library finds no callback to run without a reply. -/
structure Calls.Steady (calls : Calls) (wires : Wires) : Prop where
  drained {conn : Nat} : calls.control = .freeing conn → wires.streams conn = [] ∧ wires.answers conn = []
  listening {cbid : CallBackId} {conn : Nat} : calls.control ≠ .replying cbid (some conn)
  answered : ∀ handed ∈ calls.handed, handed.reply.isSome ∨ handed.timeout

section Steady

variable {calls next : Calls} {wires after : Wires} {event : RedisEvent}

theorem Calls.Steady.hand (steady : calls.Steady wires) {one : Handed} (free : ∀ conn, next.control ≠ .freeing conn)
    (listening : ∀ cbid conn, next.control ≠ .replying cbid (some conn))
    (handed : next.handed = calls.handed ++ [one]) (answered : one.reply.isSome ∨ one.timeout) :
    next.Steady after where
  drained freeing := absurd freeing (free _)
  listening := listening _ _
  answered found member := by
    rw [handed, List.mem_append, List.mem_singleton] at member
    rcases member with earlier | rfl
    · exact steady.answered found earlier
    · exact answered

theorem CallMoves.steady (called : CallMoves calls event next) (steady : calls.Steady wires)
    (spares : ∀ conn ∈ event.disconnects, wires.streams conn = [] ∧ wires.answers conn = []) :
    next.Steady wires := by
  cases called with
  | @replied cbid gone control =>
    cases gone with
    | none => exact ⟨nofun, nofun, steady.answered⟩
    | some conn => exact absurd control steady.listening
  | disconnects idle cause =>
    refine ⟨fun freeing => ?_, nofun, steady.answered⟩
    cases freeing
    exact spares _ cause
  | expires => exact steady.hand nofun nofun rfl (.inr rfl)
  | _ => exact ⟨nofun, nofun, steady.answered⟩

/-- Every step that spares the commands under way keeps the calls steady. -/
theorem Moves.steady (moves : Moves calls next wires after event) (steady : calls.Steady wires)
    (spares : ∀ conn ∈ event.disconnects, wires.streams conn = [] ∧ wires.answers conn = []) :
    next.Steady after := by
  cases moves with
  | rests same still => exact same ▸ still ▸ steady
  | issues sent time issues allowed number address free called =>
    subst called
    refine ⟨fun freeing => ?_, steady.listening, steady.answered⟩
    simp only at freeing
    rw [freeing] at allowed
    cases allowed
  | refuses vp free called still =>
    subst called still
    exact ⟨steady.drained, steady.listening, steady.answered⟩
  | @executes conn _ sent rest reply head same wired =>
    subst same wired
    refine ⟨fun {gone} freeing => ?_, steady.listening, steady.answered⟩
    have other : gone ≠ conn := by
      rintro rfl
      rw [(steady.drained freeing).1] at head
      cases head
    simpa [Wires.execute, other] using steady.drained freeing
  | drops sent delivers takes absent same =>
    subst same
    refine ⟨fun {gone} freeing => ?_, steady.listening, steady.answered⟩
    have fewer := takes.streams gone
    have fewerAnswers := takes.answers gone
    rw [(steady.drained freeing).1] at fewer
    rw [(steady.drained freeing).2] at fewerAnswers
    exact ⟨List.sublist_nil.mp fewer, List.sublist_nil.mp fewerAnswers⟩
  | hands sent reply entry idle takes found present called =>
    subst called
    refine steady.hand nofun ?_ rfl (.inl rfl)
    simp
  | selects sent reply entry idle takes found present called =>
    subst called
    exact steady.hand (by simp [idle]) (by simp [idle]) rfl (.inl rfl)
  | loses sent entry listener control takes =>
    obtain ⟨streams, answers⟩ := steady.drained control
    rcases takes.pending with waiting | ⟨reply, answered⟩
    · rw [streams] at waiting
      cases waiting
    · rw [answers] at answered
      cases answered
  | moves called still => exact still ▸ called.steady steady spares

end Steady

/-- No connection with commands under way is lost, or fails to come up. -/
def RedisWorld.Spares (world : RedisWorld) (event : RedisEvent) : Prop :=
  ∀ conn ∈ event.disconnects, (world.connections conn).pending = []

instance (world : RedisWorld) (event : RedisEvent) : Decidable (world.Spares event) := by
  unfold RedisWorld.Spares
  infer_instance

def SteadyStep (world : RedisWorld) (event : RedisEvent) (next : RedisWorld) : Prop :=
  redisStep world event = some next ∧ world.Spares event

theorem SteadyStep.steady {world next : RedisWorld} (step : SteadyStep world event next)
    (steady : world.calls.Steady world.wires) : next.calls.Steady next.wires := by
  refine (redisStep_moves step.1).steady steady fun conn cause => ?_
  have none := List.append_eq_nil_iff.mp (step.2 conn cause)
  exact ⟨none.2, List.map_eq_nil_iff.mp none.1⟩

private theorem run_steady {final : RedisWorld} (run : Steps SteadyStep (.start addrList store) events final) :
    final.calls.Steady final.wires :=
  run.invariant SteadyStep.steady ⟨nofun, Control.noConfusion, nofun⟩

/-- However replies, timeouts, lost connections and commands from inside listeners follow each other: a
callback buffer is handed over at most once, and a reply that arrives after that is dropped. If no
connection with commands under way is lost or fails to come up, each buffer is handed over with the
reply to the command it was given to, or with the timeout flag. -/
theorem callback_handed_once {addrList : List RedisAddr} {store : Store} {events : List RedisEvent}
    {final : RedisWorld} (run : Steps (redisStep · · = some ·) (.start addrList store) events final)
    (few : final.issued.length < 2 ^ 32 - 1) :
    (final.handed.map (·.cb.address)).Nodup ∧
      (∀ handed ∈ final.handed, ∃ sent ∈ final.issued,
        handed.Answers sent final.executed ∨ handed.Lost sent) ∧
      (Steps SteadyStep (.start addrList store) events final →
        ∀ handed ∈ final.handed, ∃ sent ∈ final.issued, handed.Answers sent final.executed) ∧
      ∀ conn index sent reply next, (final.connections conn).answers[index]? = some (sent, reply) →
        sent.cb.address ∈ final.handed.map (·.cb.address) →
        redisStep final (.reply conn index) = some next →
        next.handed = final.handed ∧ next.agent = final.agent ∧ next.control = final.control := by
  have sound := run_callsSound run few
  refine ⟨sound.delivered.once, sound.delivered.own, ?_, ?_⟩
  · intro steadyRun handed member
    obtain ⟨sent, issued, answers | lost⟩ := sound.delivered.own handed member
    · exact ⟨sent, issued, answers⟩
    · have answered := (run_steady steadyRun).answered handed member
      rw [lost] at answered
      simp at answered
  · intro conn index sent reply next found handedOver stepped
    have issued := (sound.wired.answers (List.mem_of_getElem? found)).1
    cases idle : final.control with
    | idle =>
      have absent : final.agent.callBackPool sent.cbid = none := sound.absent idle issued handedOver
      simp only [redisStep, idle, found, RedisWorld.onCommand, RedisWorld.setConnection, absent,
        Option.some.injEq] at stepped
      subst stepped
      exact ⟨rfl, rfl, rfl⟩
    | _ => simp [redisStep, idle] at stepped

/-- Commands are issued from inside the listeners of a reply and of a timeout, the reply to the command
that was timed out is on its way, and a connection fails that nothing was sent on. -/
def lateReply : List RedisEvent :=
  let call (now : Int) : Call := { pick := 0, now, taken := true }
  [.connect 0 true (call 0), .execute 0 true, .reply 0 0, .connect 1 false (call 0), .free,
    .command [1] (.get [7]) (call 0), .command [2] (.get [7]) (call 0), .command [3] (.get [7]) (call 0),
    .command [4] (.set [7] [8]) (call 0), .execute 0 true, .execute 0 true, .execute 0 true, .execute 0 true,
    .reply 0 2, .command [5] (.del [7]) (call 100), .replied, .polling 10, .check 100,
    .command [6] (.get [7]) (call 100), .expired, .check 100]

def lateWorld : RedisWorld :=
  (runAll (guarded RedisWorld.Spares redisStep) (.start oneDatabase fun _ _ => none) lateReply).get
    (by decide +kernel)

private theorem lateReply_run : Steps SteadyStep (.start oneDatabase fun _ _ => none) lateReply lateWorld :=
  steps_of_guarded (Option.some_get _).symm

theorem callback_handed_once_late :
    lateWorld.handed.map (·.cb.address) = [0, 3, 4] ∧ lateWorld.issued.length = 7 ∧
      (redisStep lateWorld (.reply 0 2)).map (·.handed) = some lateWorld.handed ∧
      (lateWorld.handed.map (·.cb.address)).Nodup ∧
      ∀ handed ∈ lateWorld.handed, ∃ sent ∈ lateWorld.issued, handed.Answers sent lateWorld.executed := by
  have handedOnce := callback_handed_once (lateReply_run.mono And.left)
    (by decide +kernel : lateWorld.issued.length < 2 ^ 32 - 1)
  exact ⟨by decide +kernel, by decide +kernel, by decide +kernel, handedOnce.1, handedOnce.2.2.1 lateReply_run⟩

/-- A connection is lost while a command is on its way. -/
def lostCommand : List RedisEvent :=
  let call : Call := { pick := 0, now := 0, taken := true }
  [.connect 0 true call, .execute 0 true, .reply 0 0, .command [1] (.get [7]) call, .lose 0, .free]

def lostWorld : RedisWorld :=
  (runAll redisStep (.start oneDatabase fun _ _ => none) lostCommand).get (by decide +kernel)

/-- A connection fails to come up that the SELECT of the other one was sent on. -/
def lostSelect : List RedisEvent :=
  let call : Call := { pick := 1, now := 0, taken := true }
  [.connect 0 true call, .connect 1 false call, .free]

def crashedWorld : RedisWorld :=
  (runAll redisStep (.start oneDatabase fun _ _ => none) lostSelect).get (by decide +kernel)

/-- The listener is given the buffer of the command without a reply and without the timeout flag; and
of the SELECT a reply is read that is not there. -/
theorem callback_without_reply :
    Steps (redisStep · · = some ·) (.start oneDatabase fun _ _ => none) lostCommand lostWorld ∧
      lostWorld.issued.length = 2 ∧
      (∃ handed ∈ lostWorld.handed, handed.cb.bytes = [1] ∧
        ∀ sent, ¬ handed.Answers sent lostWorld.executed) ∧
      Steps (redisStep · · = some ·) (.start oneDatabase fun _ _ => none) lostSelect crashedWorld ∧
      crashedWorld.issued.length = 1 ∧ crashedWorld.control = .crashed 1 := by
  have lost : { cb := { address := 1, bytes := [1] }, reply := none } ∈ lostWorld.handed := by decide +kernel
  refine ⟨steps_of_runAll (Option.some_get _).symm, by decide +kernel, ⟨_, lost, rfl, fun sent answers => ?_⟩,
    steps_of_runAll (Option.some_get _).symm, by decide +kernel, by decide +kernel⟩
  rcases answers.2 with timeout | ⟨_, reply, replied, _⟩
  · cases timeout.2
  · cases replied

end Playground.Redis
