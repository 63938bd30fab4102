import Playground.Datacenter.LastSave

/-! The threads of the `MysqlAgent`: what becomes of the requests however they interleave.
`GetRequest` looks at the queue before it locks it, and `WaitRequest` waits without looking again. -/

namespace Playground.Datacenter

open Framing Transition

/-- Where a worker is in `Working`. -/
inductive Stage where
  | loop
  /-- In `GetRequest`, in front of the test of the queue. -/
  | look
  /-- In `GetRequest`, behind the test. -/
  | take
  | dispatch
  | respond
  /-- In `WaitRequest`, but not waiting yet. -/
  | wait
  | blocked
  /-- Behind `WaitRequest`. -/
  | woken
  | closed
deriving DecidableEq

inductive Caller where
  | idle
  | notify
  | notifyAll
  | join
  /-- Behind the joins of `Stop`. -/
  | stopped
deriving DecidableEq

structure Threads where
  world : MysqlWorld
  worker : List Stage
  caller : Caller := .idle
  close : Bool := false
  /-- The responses that `HandleRsp` was called with. -/
  handled : List MysqlOpResponse := []

inductive ThreadEvent where
  | request (req : MysqlRequest)
  /-- `Notify` wakes a worker, if one is blocked. -/
  | notify (woken : Option Nat)
  | polling (procNumPerTick : Int)
  | stop
  | notifyAll
  | joined
  | work (i : Nat)
  /-- A worker wakes up without a notification. -/
  | spurious (i : Nat)

def Threads.start (tableMetas : List MysqlMeta) (maxReqQueueSize : Int) (workers : Nat)
    (database : Database) : Threads where
  world := .start tableMetas maxReqQueueSize workers database
  worker := List.replicate workers .loop

/-- One step of worker `i` in `Working`. `CHECK_CLOSE` leaves both loops, since there is no request. -/
inductive Turn (close : Bool) (world : MysqlWorld) (i : Nat) : Stage → Stage → MysqlWorld → Prop where
  | goesOn (fresh : stage = .loop ∨ stage = .woken) (still : close = false) :
      Turn close world i stage .look world
  | ends (fresh : stage = .loop ∨ stage = .woken) (told : close = true) :
      Turn close world i stage .closed world
  | finds (some : world.agent.reqQueue ≠ []) : Turn close world i .look .take world
  | misses (none : world.agent.reqQueue = []) : Turn close world i .look .wait world
  | takes (taken : mysqlStep world (.getRequest i) = some next) : Turn close world i .take .dispatch next
  | dispatches {failure : Option Failure} (done : mysqlStep world (.dispatch i failure) = some next) :
      Turn close world i .dispatch .respond next
  | responds (done : mysqlStep world (.respond i) = some next) : Turn close world i .respond .loop next
  | blocks : Turn close world i .wait .blocked world

inductive ThreadStep (threads : Threads) : ThreadEvent → Threads → Prop where
  | requests (idle : threads.caller = .idle) (accepted : (threads.world.agent.request req).1 = 0)
      (stepped : mysqlStep threads.world (.request req) = some world) :
      ThreadStep threads (.request req) { threads with world, caller := .notify }
  | refuses (idle : threads.caller = .idle) (full : (threads.world.agent.request req).1 ≠ 0) :
      ThreadStep threads (.request req) threads
  | notifies (told : threads.caller = .notify) (nobody : .blocked ∉ threads.worker) :
      ThreadStep threads (.notify none) { threads with caller := .idle }
  | wakes (told : threads.caller = .notify) (found : threads.worker[i]? = some .blocked) :
      ThreadStep threads (.notify (some i))
        { threads with worker := threads.worker.set i .woken, caller := .idle }
  | polls (idle : threads.caller = .idle) (stepped : mysqlStep threads.world (.polling n) = some world) :
      ThreadStep threads (.polling n)
        { threads with world, handled := threads.handled ++ threads.world.agent.rspQueue.take n.toNat }
  | stops (idle : threads.caller = .idle) :
      ThreadStep threads .stop { threads with caller := .notifyAll, close := true }
  | wakesAll (told : threads.caller = .notifyAll) :
      ThreadStep threads .notifyAll
        { threads with
          worker := threads.worker.map fun stage => if stage = .blocked then .woken else stage
          caller := .join }
  -- the workers are joined one after the other, and then cleared
  | joins (told : threads.caller = .join) (gone : ∀ stage ∈ threads.worker, stage = .closed) :
      ThreadStep threads .joined { threads with worker := [], caller := .stopped }
  | works (found : threads.worker[i]? = some before)
      (turn : Turn threads.close threads.world i before after world) :
      ThreadStep threads (.work i) { threads with world, worker := threads.worker.set i after }
  | stirs (found : threads.worker[i]? = some .blocked) :
      ThreadStep threads (.spurious i) { threads with worker := threads.worker.set i .woken }

variable {threads next final : Threads} {event : ThreadEvent} {i : Nat}

/-- What a response has from its request, with the result. -/
abbrev Slip := String × MysqlRequestType × Bytes × Int

def MysqlOpResponse.slip (rsp : MysqlOpResponse) : Slip := (rsp.tblname, rsp.op, rsp.cb, rsp.ret)

def MysqlRequest.slip (done : MysqlRequest × Int) : Slip := (done.1.tblname, done.1.op, done.1.cb, done.2)

def MysqlProxy.answers (proxy : MysqlProxy) : List MysqlOpResponse :=
  match proxy.work with
  | .respond rsp => [rsp]
  | _ => []

def MysqlWorld.open (world : MysqlWorld) : List MysqlRequest :=
  world.agent.clientProxyList.flatMap MysqlProxy.held ++ world.agent.reqQueue

def MysqlWorld.unhandled (world : MysqlWorld) : List MysqlOpResponse :=
  world.agent.rspQueue ++ world.agent.clientProxyList.flatMap MysqlProxy.answers

/-- Every accepted request was carried out once or is still to be carried out, and every one that
was carried out has one response, with its result. -/
structure Balanced (handled : List MysqlOpResponse) (world : MysqlWorld) : Prop where
  requests : (world.executed.map Prod.fst ++ world.open).Perm world.accepted
  responses : ((handled ++ world.unhandled).map MysqlOpResponse.slip).Perm
    (world.executed.map MysqlRequest.slip)

/-- How often an item is held once one holder is replaced. -/
theorem count_flatMap_set [BEq β] {items : List α} (held : α → List β) (found : items[i]? = some old)
    (new : α) (b : β) :
    ((items.set i new).flatMap held).count b + (held old).count b =
      (items.flatMap held).count b + (held new).count b := by
  induction items generalizing i with
  | nil => cases found
  | cons item items ih =>
    cases i with
    | zero =>
      obtain rfl := Option.some.inj found
      simp [List.count_append]
      omega
    | succ i =>
      have rest := ih found
      simp [List.count_append]
      omega

variable {world after : MysqlWorld} {call : MysqlEvent}

/-- What a call does to the queue, and which request a worker has from it. -/
def QueueMoves (world after : MysqlWorld) : MysqlEvent → Prop
  | .request _ => world.agent.reqQueue <+: after.agent.reqQueue ∧ after.taken = world.taken
  | .getRequest i =>
    ∃ req, world.agent.reqQueue = req :: after.agent.reqQueue ∧ after.taken = world.taken ++ [(i, req)]
  | _ => after.agent.reqQueue = world.agent.reqQueue ∧ after.taken = world.taken

def MysqlEvent.handles (world : MysqlWorld) : MysqlEvent → List MysqlOpResponse
  | .polling n => world.agent.rspQueue.take n.toNat
  | _ => []

/-- The books of a call: what it accepts, carries out and answers. -/
structure Books (world after : MysqlWorld) (handles : List MysqlOpResponse) : Prop where
  requests (req : MysqlRequest) :
    (after.executed.map Prod.fst).count req + after.open.count req + world.accepted.count req =
      (world.executed.map Prod.fst).count req + world.open.count req + after.accepted.count req
  responses (slip : Slip) :
    (handles.map MysqlOpResponse.slip).count slip + (after.unhandled.map MysqlOpResponse.slip).count slip +
        (world.executed.map MysqlRequest.slip).count slip =
      (world.unhandled.map MysqlOpResponse.slip).count slip + (after.executed.map MysqlRequest.slip).count slip

section Proxy

variable {before proxy : MysqlProxy} {taken : List MysqlRequest} {done : List (MysqlRequest × Int)}
  {sent : List MysqlOpResponse}

/-- A step of one worker, which takes and carries out requests and sends responses. -/
private theorem books_of_proxy (found : world.agent.clientProxyList[i]? = some before)
    (placed : after.agent.clientProxyList = world.agent.clientProxyList.set i proxy)
    (queue : world.agent.reqQueue = taken ++ after.agent.reqQueue)
    (rspQueue : after.agent.rspQueue = world.agent.rspQueue ++ sent)
    (executed : after.executed = world.executed ++ done) (accepted : after.accepted = world.accepted)
    (requests : before.held ++ taken = done.map Prod.fst ++ proxy.held)
    (responses : (sent ++ proxy.answers).map MysqlOpResponse.slip =
      before.answers.map MysqlOpResponse.slip ++ done.map MysqlRequest.slip) : Books world after [] := by
  constructor
  · intro req
    have moved := count_flatMap_set MysqlProxy.held found proxy req
    have own := congrArg (List.count req) requests
    simp only [MysqlWorld.open, placed, queue, executed, accepted, List.map_append, List.count_append] at own ⊢
    omega
  · intro slip
    have moved := count_flatMap_set (·.answers.map MysqlOpResponse.slip) found proxy slip
    have own := congrArg (List.count slip) responses
    simp only [MysqlWorld.unhandled, placed, rspQueue, executed, List.map_append, List.map_flatMap, List.map_nil,
      List.count_append, List.count_nil] at own ⊢
    omega

end Proxy

theorem mysqlStep_books (stepped : mysqlStep world call = some after) :
    QueueMoves world after call ∧ Books world after (call.handles world) := by
  cases mysqlStep_change stepped with
  | accepts =>
    refine ⟨⟨List.prefix_append _ _, rfl⟩, fun other => ?_, fun slip => ?_⟩
    · simp [MysqlWorld.open, List.count_append]
      omega
    · simp [MysqlEvent.handles, MysqlWorld.unhandled]
  | refuses =>
    exact ⟨⟨List.prefix_refl _, rfl⟩, fun _ => rfl, fun slip => by simp [MysqlEvent.handles, MysqlWorld.unhandled]⟩
  | @takes worker req rest _ found queue =>
    have first : world.agent.reqQueue = [req] ++ rest := queue
    exact ⟨⟨req, queue, rfl⟩, books_of_proxy found rfl first (List.append_nil _).symm (List.append_nil _).symm rfl rfl
      rfl⟩
  | executes found => exact ⟨⟨rfl, rfl⟩, books_of_proxy found rfl rfl (List.append_nil _).symm rfl rfl rfl rfl⟩
  | responds found => exact ⟨⟨rfl, rfl⟩, books_of_proxy found rfl rfl rfl (List.append_nil _).symm rfl rfl rfl⟩
  | @polls n =>
    refine ⟨⟨rfl, rfl⟩, fun other => rfl, fun slip => ?_⟩
    have whole := congrArg (fun queue => (queue.map MysqlOpResponse.slip).count slip)
      (List.take_append_drop n.toNat world.agent.rspQueue)
    simp only [List.map_append, List.count_append] at whole
    simp only [MysqlEvent.handles, MysqlWorld.unhandled, List.map_append, List.count_append, MysqlAgent.polling]
    omega

/-- Every call keeps the books. -/
theorem Balanced.step (balanced : Balanced handled world) (stepped : mysqlStep world call = some after) :
    Balanced (handled ++ call.handles world) after := by
  obtain ⟨-, books⟩ := mysqlStep_books stepped
  constructor
  · refine List.perm_iff_count.mpr fun req => ?_
    have before := balanced.requests.count_eq req
    have moved := books.requests req
    simp only [List.count_append] at *
    omega
  · refine List.perm_iff_count.mpr fun slip => ?_
    have before := balanced.responses.count_eq slip
    have moved := books.responses slip
    simp only [List.map_append, List.count_append] at *
    omega

/-- A step of a thread makes at most one call. -/
theorem ThreadStep.calls (step : ThreadStep threads event next) :
    next.world = threads.world ∧ next.handled = threads.handled ∨
      ∃ call, mysqlStep threads.world call = some next.world ∧
        next.handled = threads.handled ++ call.handles threads.world ∧
        ∀ req, call = .request req → event = .request req := by
  cases step with
  | requests _ _ stepped => exact .inr ⟨_, stepped, by simp [MysqlEvent.handles], fun req same => by simpa using same⟩
  | polls _ stepped => exact .inr ⟨_, stepped, rfl, by simp⟩
  | works _ turn =>
    cases turn with
    | takes stepped | dispatches stepped | responds stepped =>
      exact .inr ⟨_, stepped, by simp [MysqlEvent.handles], by simp⟩
    | _ => exact .inl ⟨rfl, rfl⟩
  | _ => exact .inl ⟨rfl, rfl⟩

theorem ThreadStep.balanced (step : ThreadStep threads event next)
    (balanced : Balanced threads.handled threads.world) : Balanced next.handled next.world := by
  rcases step.calls with ⟨world, handled⟩ | ⟨call, stepped, handled, -⟩
  · rwa [world, handled]
  · rw [handled]
    exact balanced.step stepped

theorem balanced_start (tableMetas : List MysqlMeta) (maxReqQueueSize : Int) (workers : Nat) (database : Database) :
    Balanced [] (.start tableMetas maxReqQueueSize workers database) := by
  have idle {Item : Type} (held : MysqlProxy → List Item) (none : held {} = []) :
      (List.replicate workers ({} : MysqlProxy)).flatMap held = [] :=
    List.flatMap_eq_nil_iff.mpr fun proxy member => List.eq_of_mem_replicate member ▸ none
  constructor
  · simp [MysqlWorld.start, MysqlWorld.open, idle MysqlProxy.held rfl]
  · simp [MysqlWorld.start, MysqlWorld.unhandled, idle MysqlProxy.answers rfl]

def someRequest : MysqlRequest := { tblname := "Role", op := .select, cond := [], cb := [] }

theorem Threads.step_request (idle : threads.caller = .idle) (empty : threads.world.agent.reqQueue = [])
    (room : 0 < threads.world.agent.maxReqQueueSize) (word : threads.world.agent.maxReqQueueSize < 2147483648) :
    ThreadStep threads (.request someRequest)
      { threads with
        world := { threads.world with
          agent := { threads.world.agent with reqQueue := [someRequest] }
          accepted := threads.world.accepted ++ [someRequest] }
        caller := .notify } := by
  have fits : ¬ (threads.world.agent.maxReqQueueSize % 2 ^ 64).toNat ≤ threads.world.agent.reqQueue.length := by
    rw [empty, List.length_nil]
    omega
  have accepted : threads.world.agent.request someRequest =
      (0, { threads.world.agent with reqQueue := [someRequest] }) := by
    rw [MysqlAgent.request, if_neg fits, empty]
    rfl
  exact .requests idle (by rw [accepted]) (by rw [mysqlStep, accepted]; rfl)

/-- One worker, and the queue of 32 requests that `Init` makes by default. -/
def oneWorker : Threads := .start [] 32 1 fun _ _ => none

section Runs

variable {tableMetas : List MysqlMeta} {maxReqQueueSize : Int} {workers : Nat} {database : Database}
  {events : List ThreadEvent}

/-- However the threads interleave: every accepted request is still to be carried out or was carried
out once, and every one that was carried out has one response, handled or not, with its result. -/
theorem requests_conserved
    (run : Steps ThreadStep (.start tableMetas maxReqQueueSize workers database) events final) :
    Balanced final.handled final.world :=
  run.invariant (fun step balanced => step.balanced balanced) (balanced_start ..)

/-- One worker takes a request, carries it out and answers. -/
theorem served {req : MysqlRequest} {failure : Option Failure} {ret : Int} {out : List MysqlField} {rows : Database}
    (dispatched : dispatchReq tableMetas database req failure [] = .ok (ret, out, rows)) :
    ∃ events final, Steps ThreadStep (.start tableMetas 32 1 database) events final ∧
      final.world.executed = [(req, ret)] ∧
      final.handled = [{ ret, tblname := req.tblname, data := out, op := req.op, cb := req.cb }] := by
  have turns {world next : MysqlWorld} {before stage : Stage} (turn : Turn false world 0 before stage next) :
      ThreadStep { world, worker := [before] } (.work 0) { world := next, worker := [stage] } := .works rfl turn
  let asked : MysqlWorld :=
    { agent := { tableMetas, maxReqQueueSize := 32, reqQueue := [req], clientProxyList := [{}] }
      database, accepted := [req] }
  let taken : MysqlWorld :=
    { agent := { tableMetas, maxReqQueueSize := 32, clientProxyList := [{ work := .dispatch req }] }
      database, accepted := [req], taken := [(0, req)] }
  let rsp : MysqlOpResponse := { ret, tblname := req.tblname, data := out, op := req.op, cb := req.cb }
  let done : MysqlWorld :=
    { taken with
      agent := taken.agent.setProxy 0 { data := out, work := .respond rsp }
      database := rows
      executed := [(req, ret)] }
  have dispatches : mysqlStep taken (.dispatch 0 failure) = some done := by
    simp only [mysqlStep, taken, List.getElem?_cons_zero, dispatched]
    rfl
  exact ⟨_, _, .cons (.requests rfl rfl (rfl : _ = some asked)) (.cons (.notifies rfl (by simp [Threads.start]))
    (.cons (turns (.goesOn (.inl rfl) rfl)) (.cons (turns (.finds (List.cons_ne_nil req [])))
    (.cons (turns (.takes (rfl : _ = some taken))) (.cons (turns (.dispatches dispatches))
    (.cons (turns (.responds rfl)) (.single (@ThreadStep.polls _ 1 _ rfl rfl)))))))), rfl, rfl⟩

theorem requests_conserved_one : ∃ events final, Steps ThreadStep oneWorker events final ∧
    final.world.executed = [(someRequest, mysqlResultNoMeta)] ∧
    final.handled = [{ ret := mysqlResultNoMeta, tblname := "Role", data := [], op := .select, cb := [] }] ∧
    Balanced final.handled final.world := by
  obtain ⟨events, final, run, executed, handled⟩ :=
    @served [] (fun _ _ => none) someRequest none mysqlResultNoMeta [] (fun _ _ => none) rfl
  exact ⟨events, final, run, executed, handled, requests_conserved run⟩

/-- A worker is about to take the first of no requests. -/
def Threads.Overruns (threads : Threads) : Prop :=
  .take ∈ threads.worker ∧ threads.world.agent.reqQueue = []

private theorem eq_of_mem_set_one {workers : List Stage} (one : workers.length ≤ 1)
    (found : workers[i]? = some before) (member : stage ∈ workers.set i other) : stage = other := by
  obtain ⟨within, -⟩ := List.getElem?_eq_some_iff.mp found
  obtain ⟨first, rfl⟩ := List.length_eq_one_iff.mp (show workers.length = 1 by omega)
  obtain rfl : i = 0 := by simpa using within
  exact List.mem_singleton.mp member

/-- With one worker nobody empties the queue between its test and its lock. -/
theorem ThreadStep.keeps_one (step : ThreadStep threads event next)
    (sound : threads.worker.length ≤ 1 ∧ ¬ threads.Overruns) :
    next.worker.length ≤ 1 ∧ ¬ next.Overruns := by
  obtain ⟨one, found⟩ := sound
  cases step with
  | requests _ _ stepped =>
    refine ⟨one, fun overruns => found ⟨overruns.1, ?_⟩⟩
    exact List.prefix_nil.mp (overruns.2 ▸ (mysqlStep_books stepped).1.1)
  | polls _ stepped => exact ⟨one, fun overruns => found ⟨overruns.1, (mysqlStep_books stepped).1.1 ▸ overruns.2⟩⟩
  | notifies | stops | refuses => exact ⟨one, found⟩
  | joins => exact ⟨Nat.zero_le 1, fun overruns => List.not_mem_nil overruns.1⟩
  | wakesAll =>
    refine ⟨by simpa using one, fun overruns => found ⟨?_, overruns.2⟩⟩
    obtain ⟨stage, member, same⟩ := List.mem_map.mp overruns.1
    split at same
    · cases same
    · exact same ▸ member
  | wakes _ here | stirs here =>
    refine ⟨by simpa using one, fun overruns => ?_⟩
    cases eq_of_mem_set_one one here overruns.1
  | works here turn =>
    refine ⟨by simpa using one, fun overruns => ?_⟩
    cases eq_of_mem_set_one one here overruns.1
    cases turn with
    | finds some => exact some overruns.2

/-- The test of `GetRequest` in front of the lock is safe exactly with one worker. -/
theorem never_overruns_iff (room : 0 < maxReqQueueSize) (word : maxReqQueueSize < 2147483648) :
    (∀ events final, Steps ThreadStep (.start tableMetas maxReqQueueSize workers database) events final →
      ¬ final.Overruns) ↔ workers ≤ 1 := by
  constructor
  · intro safe
    by_contra more
    obtain ⟨others, rfl⟩ := Nat.exists_eq_add_of_le' (Nat.lt_of_not_le more)
    -- the second worker looks before the first one takes the only request
    have run := Steps.cons (@Threads.step_request (.start tableMetas maxReqQueueSize (others + 2) database)
        rfl rfl room word) (.cons (@ThreadStep.works _ 0 _ _ _ rfl (.goesOn (.inl rfl) rfl))
      (.cons (@ThreadStep.works _ 0 _ _ _ rfl (.finds (by simp)))
      (.cons (@ThreadStep.works _ 1 _ _ _ rfl (.goesOn (.inl rfl) rfl))
      (.cons (@ThreadStep.works _ 1 _ _ _ rfl (.finds (by simp)))
      (.single (@ThreadStep.works _ 0 _ _ _ rfl (.takes rfl)))))))
    exact safe _ _ run ⟨List.mem_cons_of_mem _ List.mem_cons_self, rfl⟩
  · intro one events final run
    refine (run.invariant (fun step sound => step.keeps_one sound) ⟨?_, ?_⟩).2
    · simpa [Threads.start] using one
    · rintro ⟨member, -⟩
      cases List.eq_of_mem_replicate member

theorem never_overruns_one : (∀ events final, Steps ThreadStep oneWorker events final → ¬ final.Overruns) ∧
    ∃ events final, Steps ThreadStep (.start [] 32 2 fun _ _ => none) events final ∧ final.Overruns := by
  refine ⟨(never_overruns_iff (by decide) (by decide)).mpr (Nat.le_refl 1), ?_⟩
  by_contra never
  have few := (never_overruns_iff (by decide) (by decide)).mp fun events final run overruns =>
    never ⟨events, final, run, overruns⟩
  exact absurd few (by decide)

/-- The worker comes to test the queue, or `close`, without being woken. -/
def Stage.awake : Stage → Bool
  | .wait | .blocked | .closed => false
  | _ => true

/-- While requests are queued and nobody is about to be notified, some worker is awake. -/
def Threads.Attended (threads : Threads) : Prop :=
  threads.caller ≠ .notify → threads.close = false → threads.world.agent.reqQueue ≠ [] →
    ∃ stage ∈ threads.worker, stage.awake

/-- A notification that nobody waits for yet, although nobody will look at the queue again. -/
def Threads.Missed (threads : Threads) (event : ThreadEvent) : Prop :=
  event = .notify none ∧ threads.close = false ∧ threads.world.agent.reqQueue ≠ [] ∧
    ∀ stage ∈ threads.worker, stage.awake = false

private theorem exists_awake_set {workers : List Stage} (awake : ∃ stage ∈ workers, stage.awake)
    (found : workers[i]? = some before) (stays : before.awake → stage.awake) :
    ∃ other ∈ workers.set i stage, other.awake := by
  obtain ⟨other, member, isAwake⟩ := awake
  obtain ⟨j, here⟩ := List.mem_iff_getElem?.mp member
  by_cases same : i = j
  · subst same
    obtain rfl := Option.some.inj (found.symm.trans here)
    exact ⟨stage, List.mem_set (List.getElem?_eq_some_iff.mp found).1 _, stays isAwake⟩
  · exact ⟨other, List.mem_iff_getElem?.mpr ⟨j, (List.getElem?_set_ne same).trans here⟩, isAwake⟩

/-- Nobody falls asleep while requests are queued. -/
theorem Turn.stays_awake (turn : Turn false world i before stage after) (queued : after.agent.reqQueue ≠ []) :
    world.agent.reqQueue ≠ [] ∧ (before.awake → stage.awake) := by
  cases turn with
  | goesOn | finds => exact ⟨queued, fun _ => rfl⟩
  | ends _ told => cases told
  | misses none => exact absurd none queued
  | blocks => exact ⟨queued, by simp [Stage.awake]⟩
  | takes taken =>
    obtain ⟨req, queue, -⟩ := (mysqlStep_books taken).1
    exact ⟨queue ▸ List.cons_ne_nil _ _, fun _ => rfl⟩
  | dispatches done | responds done => exact ⟨(mysqlStep_books done).1.1 ▸ queued, fun _ => rfl⟩

/-- Only a missed notification leaves the queue to sleeping workers. -/
theorem ThreadStep.attended_iff (step : ThreadStep threads event next) (attended : threads.Attended) :
    next.Attended ↔ ¬ threads.Missed event := by
  constructor
  · rintro here ⟨rfl, still, queued, nobody⟩
    cases step with
    | notifies =>
      obtain ⟨stage, member, awake⟩ := here (by simp) still queued
      simp [nobody stage member] at awake
  · intro caught quiet still queued
    cases step with
    | requests => exact absurd rfl quiet
    | refuses => exact attended quiet still queued
    | notifies told none =>
      by_contra nobody
      exact caught ⟨rfl, still, queued, by simpa using nobody⟩
    | wakes _ found => exact ⟨_, List.mem_set (List.getElem?_eq_some_iff.mp found).1 _, rfl⟩
    | polls idle stepped => exact attended quiet still ((mysqlStep_books stepped).1.1 ▸ queued)
    | stops => cases still
    | wakesAll told =>
      obtain ⟨stage, member, awake⟩ := attended (by simp [told]) still queued
      refine ⟨stage, List.mem_map.mpr ⟨stage, member, if_neg ?_⟩, awake⟩
      rintro rfl
      cases awake
    | joins told gone =>
      obtain ⟨stage, member, awake⟩ := attended (by simp [told]) still queued
      cases gone stage member
      cases awake
    | works found turn =>
      obtain ⟨before, stays⟩ := Turn.stays_awake (still ▸ turn) queued
      exact exists_awake_set (attended quiet still before) found stays
    | stirs found => exact exists_awake_set (attended quiet still queued) found (by simp [Stage.awake])

/-- Some worker is awake throughout a run as long as requests are queued, if and only if no
notification is missed. -/
theorem attended_iff_none_missed (start : threads.Attended) :
    Steps (fun threads event next => ThreadStep threads event next ∧ next.Attended) threads events final ↔
      Steps (fun threads event next => ThreadStep threads event next ∧ ¬ threads.Missed event)
        threads events final :=
  Steps.congr (fun attended => and_congr_right fun step => step.attended_iff attended)
    (fun step _ => step.2) start

theorem attended_iff_none_missed_one :
    (∃ final, Steps (fun threads event next => ThreadStep threads event next ∧ next.Attended)
        oneWorker [.request someRequest, .notify none, .work 0] final ∧
      final.world.agent.reqQueue = [someRequest] ∧ final.caller = .idle ∧ final.worker = [.look]) ∧
    ∃ events threads, Steps ThreadStep oneWorker events threads ∧ threads.Missed (.notify none) := by
  constructor
  · have asks := @Threads.step_request oneWorker rfl rfl (by decide) (by decide)
    have notifies := @ThreadStep.notifies { oneWorker with
      world := { oneWorker.world with
        agent := { oneWorker.world.agent with reqQueue := [someRequest] }
        accepted := [someRequest] }
      caller := .notify } rfl (by simp [oneWorker, Threads.start])
    have goes := @ThreadStep.works { oneWorker with
      world := { oneWorker.world with
        agent := { oneWorker.world.agent with reqQueue := [someRequest] }
        accepted := [someRequest] } } 0 _ _ _ rfl (.goesOn (.inl rfl) rfl)
    refine ⟨_, (attended_iff_none_missed fun _ _ queued => absurd rfl queued).mpr
      (.cons ⟨asks, by simp [Threads.Missed]⟩ (.cons ⟨notifies, fun missed => ?_⟩
        (.single ⟨goes, by simp [Threads.Missed]⟩))), rfl, rfl, rfl⟩
    -- the worker is in its loop, and comes to test the queue
    exact absurd (missed.2.2.2 .loop List.mem_cons_self) (by decide)
  · have goes : ThreadStep oneWorker (.work 0) { oneWorker with worker := [.look] } :=
      .works rfl (.goesOn (.inl rfl) rfl)
    have waits : ThreadStep { oneWorker with worker := [.look] } (.work 0)
        { oneWorker with worker := [.wait] } := .works rfl (.misses rfl)
    have asks := @Threads.step_request { oneWorker with worker := [.wait] } rfl rfl (by decide) (by decide)
    exact ⟨_, _, .cons goes (.cons waits (.single asks)), rfl, rfl, List.cons_ne_nil _ _, by simp [Stage.awake]⟩

def Stage.getsRequest : Stage → Bool
  | .look | .take => true
  | _ => false

/-- Worker `i` is in `GetRequest`. -/
def Threads.Gets (threads : Threads) (i : Nat) : Prop :=
  ∃ stage, threads.worker[i]? = some stage ∧ stage.getsRequest

/-- What holds once `Stop` has begun in the state `start`: whoever took a request since then was in
`GetRequest`, and is not any more. -/
structure Threads.Stopping (start threads : Threads) : Prop where
  told : threads.close = true
  caller : threads.caller = .notifyAll ∨ threads.caller = .join ∨ threads.caller = .stopped
  gets : ∀ i, threads.Gets i → start.Gets i
  taken : ∃ taken, threads.world.taken = start.world.taken ++ taken ∧
    start.world.agent.reqQueue = taken.map Prod.snd ++ threads.world.agent.reqQueue ∧
    (taken.map Prod.fst).Nodup ∧ ∀ i ∈ taken.map Prod.fst, start.Gets i ∧ ¬ threads.Gets i

variable {start : Threads}

theorem Threads.Stopping.grows {new : List (Nat × MysqlRequest)} (stopping : start.Stopping threads)
    (told : next.close = true) (caller : next.caller = .notifyAll ∨ next.caller = .join ∨ next.caller = .stopped)
    (fewer : ∀ i, next.Gets i → threads.Gets i) (taken : next.world.taken = threads.world.taken ++ new)
    (queue : threads.world.agent.reqQueue = new.map Prod.snd ++ next.world.agent.reqQueue)
    (distinct : (new.map Prod.fst).Nodup) (leave : ∀ i ∈ new.map Prod.fst, threads.Gets i ∧ ¬ next.Gets i) :
    start.Stopping next := by
  obtain ⟨log, grown, left, once, were⟩ := stopping.taken
  refine ⟨told, caller, fun j gets => stopping.gets j (fewer j gets), log ++ new, ?_, ?_, ?_, ?_⟩
  · rw [taken, grown, List.append_assoc]
  · rw [left, queue, List.map_append, List.append_assoc]
  · rw [List.map_append]
    exact once.append distinct fun j old own => (were j old).2 (leave j own).1
  · intro j member
    rw [List.map_append, List.mem_append] at member
    rcases member with old | own
    · exact ⟨(were j old).1, fun gets => (were j old).2 (fewer j gets)⟩
    · exact ⟨stopping.gets j (leave j own).1, (leave j own).2⟩

theorem Threads.Stopping.rests (stopping : start.Stopping threads) (told : next.close = true)
    (caller : next.caller = .notifyAll ∨ next.caller = .join ∨ next.caller = .stopped)
    (fewer : ∀ i, next.Gets i → threads.Gets i) (taken : next.world.taken = threads.world.taken)
    (queue : next.world.agent.reqQueue = threads.world.agent.reqQueue) : start.Stopping next := by
  have none : next.world.taken = threads.world.taken ++ [] := by rw [taken, List.append_nil]
  exact stopping.grows told caller fewer none queue.symm List.nodup_nil nofun

/-- Behind `close` a worker gets into `GetRequest` no more, and takes a request only on its way out. -/
theorem Turn.takes_last (turn : Turn true world i before stage after) :
    (stage.getsRequest → before.getsRequest) ∧
      (after.taken = world.taken ∧ after.agent.reqQueue = world.agent.reqQueue ∨
        before.getsRequest ∧ ¬ stage.getsRequest ∧ ∃ req, after.taken = world.taken ++ [(i, req)] ∧
          world.agent.reqQueue = req :: after.agent.reqQueue) := by
  cases turn with
  | goesOn _ still => cases still
  | finds => exact ⟨fun _ => rfl, .inl ⟨rfl, rfl⟩⟩
  | ends | misses | blocks => exact ⟨by simp [Stage.getsRequest], .inl ⟨rfl, rfl⟩⟩
  | takes taken =>
    obtain ⟨req, queue, grown⟩ := (mysqlStep_books taken).1
    exact ⟨fun _ => rfl, .inr ⟨rfl, by simp [Stage.getsRequest], req, grown, queue⟩⟩
  | dispatches done | responds done =>
    obtain ⟨queue, same⟩ := (mysqlStep_books done).1
    exact ⟨by simp [Stage.getsRequest], .inl ⟨same, queue⟩⟩

theorem Threads.gets_set (found : threads.worker[i]? = some before) (same : next.worker = threads.worker.set i stage) :
    (next.Gets i ↔ stage.getsRequest) ∧ ∀ j, j ≠ i → (next.Gets j ↔ threads.Gets j) := by
  have within := (List.getElem?_eq_some_iff.mp found).1
  constructor
  · rw [Threads.Gets, same, List.getElem?_set_self within]
    exact ⟨fun ⟨_, own, gets⟩ => Option.some.inj own ▸ gets, fun gets => ⟨stage, rfl, gets⟩⟩
  · intro j other
    rw [Threads.Gets, same, List.getElem?_set_ne other.symm]
    rfl

theorem Threads.gets_fewer (found : threads.worker[i]? = some before)
    (same : next.worker = threads.worker.set i stage) (stays : stage.getsRequest → before.getsRequest) :
    ∀ j, next.Gets j → threads.Gets j := by
  intro j gets
  obtain ⟨own, others⟩ := Threads.gets_set found same
  by_cases here : j = i
  · subst here
    exact ⟨before, found, stays (own.mp gets)⟩
  · exact (others j here).mp gets

/-- What holds behind `Stop` is kept by every step. -/
theorem ThreadStep.stopping (step : ThreadStep threads event next) (stopping : start.Stopping threads) :
    start.Stopping next := by
  have told := stopping.told
  have caller := stopping.caller
  cases step with
  | requests idle | refuses idle | polls idle | stops idle | notifies idle | wakes idle => simp [idle] at caller
  | wakesAll =>
    refine stopping.rests told (.inr (.inl rfl)) (fun i gets => ?_) rfl rfl
    obtain ⟨stage, found, gets⟩ := gets
    obtain ⟨before, own, rfl⟩ : ∃ before, threads.worker[i]? = some before ∧
        (if before = .blocked then .woken else before) = stage := by
      simpa using found
    split at gets
    · cases gets
    · exact ⟨before, own, gets⟩
  | joins => exact stopping.rests told (.inr (.inr rfl)) (fun i ⟨_, found, _⟩ => nomatch found) rfl rfl
  | stirs found => exact stopping.rests told caller (Threads.gets_fewer found rfl nofun) rfl rfl
  | @works j before stage _ found turn =>
    obtain ⟨stays, ⟨taken, queue⟩ | ⟨gets, done, req, taken, queue⟩⟩ := Turn.takes_last (told ▸ turn)
    · exact stopping.rests told caller (Threads.gets_fewer found rfl stays) taken queue
    · refine stopping.grows told caller (Threads.gets_fewer found rfl stays) taken queue (List.nodup_singleton j) ?_
      intro other own
      obtain rfl := List.mem_singleton.mp own
      exact ⟨⟨before, found, gets⟩, by rwa [(Threads.gets_set found rfl).1]⟩

/-- Once `Stop` has begun, only the workers that are in `GetRequest` then take another request, each at
most one; the other requests stay in the queue. -/
theorem stop_leaves_requests (stopped : ThreadStep threads .stop next)
    (run : Steps ThreadStep next events final) :
    ∃ taken, final.world.taken = threads.world.taken ++ taken ∧
      threads.world.agent.reqQueue = taken.map Prod.snd ++ final.world.agent.reqQueue ∧
      (taken.map Prod.fst).Nodup ∧ ∀ i ∈ taken.map Prod.fst, threads.Gets i := by
  have start : threads.Stopping next := by
    cases stopped with
    | stops => exact ⟨rfl, .inl rfl, fun _ gets => gets, [], by simp, rfl, List.nodup_nil, nofun⟩
  obtain ⟨taken, grown, left, once, were⟩ := (run.invariant (fun step stopping => step.stopping stopping) start).taken
  exact ⟨taken, grown, left, once, fun i member => (were i member).1⟩

theorem stop_leaves_requests_two : ∃ threads next final, ThreadStep threads .stop next ∧
    Steps ThreadStep next [.work 1, .work 0, .work 0] final ∧ threads.worker = [.look, .loop] ∧
    threads.world.agent.reqQueue = [someRequest, someRequest] ∧ final.world.taken = [(0, someRequest)] ∧
    final.world.agent.reqQueue = [someRequest] ∧ threads.Gets 0 := by
  let agent : MysqlAgent :=
    { tableMetas := [], maxReqQueueSize := 32, reqQueue := [someRequest, someRequest], clientProxyList := [{}, {}] }
  let threads : Threads := { world := { agent, database := fun _ _ => none }, worker := [.look, .loop] }
  have stops := @ThreadStep.stops threads rfl
  have run := Steps.cons (@ThreadStep.works { threads with caller := .notifyAll, close := true } 1 _ _ _ rfl
      (.ends (.inl rfl) rfl))
    (.cons (@ThreadStep.works _ 0 _ _ _ rfl (.finds (List.cons_ne_nil _ _)))
      (.single (@ThreadStep.works _ 0 _ _ _ rfl (.takes rfl))))
  obtain ⟨taken, grown, -, -, were⟩ := stop_leaves_requests stops run
  have own : taken = [(0, someRequest)] := by simpa using grown.symm
  exact ⟨_, _, _, stops, run, rfl, rfl, rfl, rfl, were 0 (own ▸ List.mem_cons_self)⟩

/-- `Stop` waits for a worker that nobody will wake. -/
def Threads.Stuck (threads : Threads) (i : Nat) : Prop :=
  threads.caller = .join ∧ (threads.worker[i]? = some .wait ∨ threads.worker[i]? = some .blocked)

theorem Turn.of_asleep (turn : Turn close world i before stage after)
    (asleep : before = .wait ∨ before = .blocked) : stage = .blocked := by
  cases turn with
  | blocks => rfl
  | goesOn fresh | ends fresh => rcases fresh with rfl | rfl <;> simp at asleep
  | _ => simp at asleep

theorem Threads.Stuck.step (stuck : threads.Stuck i) (step : ThreadStep threads event next)
    (solid : ∀ j, event ≠ .spurious j) : next.Stuck i := by
  obtain ⟨told, asleep⟩ := stuck
  cases step with
  | requests other | refuses other | polls other | stops other | notifies other | wakes other | wakesAll other =>
    simp [told] at other
  | joins _ gone =>
    -- the worker that sleeps is not closed, so the joins do not return
    rcases asleep with found | found <;> cases gone _ (List.mem_of_getElem? found)
  | stirs => exact absurd rfl (solid _)
  | @works j before stage _ found turn =>
    refine ⟨told, ?_⟩
    by_cases same : j = i
    · subst same
      rw [found, Option.some.injEq, Option.some.injEq] at asleep
      rw [turn.of_asleep asleep]
      exact .inr (List.getElem?_set_self (List.getElem?_eq_some_iff.mp found).1)
    · rwa [List.getElem?_set_ne same]

/-- A worker that is about to wait when `Stop` notifies is never joined, unless it wakes up by itself. -/
theorem stop_hangs (told : ThreadStep threads .notifyAll next) (late : threads.worker[i]? = some .wait)
    (run : Steps ThreadStep next events final) (solid : ∀ j, .spurious j ∉ events) : final.Stuck i := by
  have start : next.Stuck i := by
    cases told with
    | wakesAll => exact ⟨rfl, .inl (by simp [late])⟩
  have keeps {threads event next} (step : ThreadStep threads event next ∧ ∀ j, event ≠ .spurious j)
      (stuck : threads.Stuck i) : next.Stuck i := stuck.step step.1 step.2
  refine (run.restrict fun event member => ?_).invariant keeps start
  rintro j rfl
  exact solid j member

theorem stop_hangs_two : ∃ threads next final, ThreadStep threads .notifyAll next ∧
    Steps ThreadStep next [.work 1, .work 0] final ∧ threads.worker = [.wait, .blocked] ∧
    final.worker = [.blocked, .closed] ∧ final.Stuck 0 := by
  let threads : Threads :=
    { oneWorker with worker := [.wait, .blocked], caller := .notifyAll, close := true }
  have told := @ThreadStep.wakesAll threads rfl
  have ends := @ThreadStep.works { threads with worker := [.wait, .woken], caller := .join } 1 _ _ _ rfl
    (.ends (.inr rfl) rfl)
  have blocks := @ThreadStep.works { threads with worker := [.wait, .closed], caller := .join } 0 _ _ _ rfl .blocks
  have run := Steps.cons ends (.single blocks)
  exact ⟨_, _, _, told, run, rfl, rfl, stop_hangs told rfl run (by simp)⟩

end Runs

end Playground.Datacenter
