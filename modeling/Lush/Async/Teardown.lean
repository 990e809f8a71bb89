import Lush.Async.Worker
import Lush.Git.Status

/-!
# Shutting the worker down, and destroying it

`lle_async_worker_shutdown` only sets `shutdown_requested`; the worker thread
then runs its loop until the queue is empty and returns.  From then on no
submission is accepted, the owner cannot restart the worker while its thread is
alive, and the thread never waits on the condition variable, so what it has
left to do is fixed: three steps for each queued request (take it, dispatch it
and count it completed, notify and free it), the rest of the request it holds,
and the last take that finds the queue empty (`AsyncWorker.drainSteps`).

The dispatch of a git status request calls `lle_async_get_git_status`, whose
commands may block or never return (`Lush.Git.Runner`).  A step of the worker
thread takes what these calls return as a parameter, and the drain is stated
for the calls of the provider's model (`GitStatusReturns`): the thread can be
held up only inside a call that returns for no fuel.

`lle_async_worker_destroy` frees the requests still on the queue by walking it
from `queue_head` (`destroyFreeLoop`).

Main results:

* **`shutdown_drains`**: in every interleaving of the threads after shutdown is
  requested, up to the return of the worker thread, each of its steps lowers
  `drainSteps` by one and no other thread's step changes it; the thread has a
  step it can take unless it is inside a git status call that never returns;
  and when it returns it has taken exactly `drainSteps` steps and processed
  every request accepted before the shutdown.
* **`lleAsyncWorkerDestroy_frees`**: in every reachable state the free loop of
  `lle_async_worker_destroy` reaches NULL after exactly `queue_size`
  iterations, frees each request at most once and never the one the worker
  thread holds, and the requests it frees carry exactly the accepted ids the
  thread has neither processed nor taken.
* **`lleAsyncWorkerWait_drained`**: once `lle_async_worker_wait` has joined
  the thread, every accepted request has been processed and the queue is empty.
* **`lleAsyncWorkerStart_refused_until_joined`**: while a worker thread exists,
  running or returned and not yet joined, every start is refused, so
  `pthread_create` never replaces a thread that has not been joined.
-/

namespace Lush

/-- The steps the worker thread takes from its program point before it
returns, the queue aside: the last take, and what is left of the request it
holds. -/
def WorkerPc.stepsLeft : WorkerPc → Nat
  | .top => 1
  | .dispatching _ => 3
  | .notifying _ _ => 2
  | .absent | .exited => 0

/-- A worker thread with no step left and started has returned. -/
theorem WorkerPc.eq_exited {pc : WorkerPc} (h0 : ¬ 0 < pc.stepsLeft) (ha : pc ≠ .absent) : pc = .exited := by
  cases pc <;> simp_all [WorkerPc.stepsLeft]

/-- The steps the worker thread has left once shutdown is requested: three per
queued request, and those of its program point. -/
def AsyncWorker.drainSteps (w : AsyncWorker) : Nat := 3 * w.queueSize + w.thread.stepsLeft

/-- A step of the worker thread, when its call of `lle_async_get_git_status` for
a request `req` returns `r` exactly if `Returns req r`; a request of another type
is dispatched at once. -/
inductive ThreadStep (Returns : AsyncRequest → LleResult → Prop) : AsyncWorker → AsyncWorker → Prop
  | take {w w' : AsyncWorker} (ht : w.thread = .top) (h : workerTake w = some w') : ThreadStep Returns w w'
  | complete {w : AsyncWorker} (gitResult : LleResult) (p : Ptr) (ht : w.thread = .dispatching p)
      (hr : (w.heap p).type = .gitStatus → Returns (w.heap p) gitResult) :
      ThreadStep Returns w (workerComplete gitResult p w)
  | notify {w : AsyncWorker} (p : Ptr) (resp : AsyncResponse) (ht : w.thread = .notifying p resp) :
      ThreadStep Returns w (workerNotify resp w)

/-- The worker thread is inside the call of `lle_async_get_git_status` for the
request it holds, and that call returns nothing. -/
def BlockedInGitCall (Returns : AsyncRequest → LleResult → Prop) (w : AsyncWorker) : Prop :=
  ∃ p, w.thread = .dispatching p ∧ (w.heap p).type = .gitStatus ∧ ∀ r, ¬ Returns (w.heap p) r

section Threads

variable (lleAsyncMaxQueueSize : Nat) (Returns : AsyncRequest → LleResult → Prop)

/-- A step of a client thread or of the thread that owns the worker. -/
inductive OtherStep : AsyncWorker → AsyncWorker → Prop
  | submit {w : AsyncWorker} (p : Ptr) (hp : ¬ w.Owns p) :
      OtherStep w (lleAsyncWorkerSubmit lleAsyncMaxQueueSize w p).2
  | shutdown {w : AsyncWorker} : OtherStep w (lleAsyncWorkerShutdown w)
  | startLocked {w w' : AsyncWorker} (ho : w.owner = .idle) (h : startLocked w = .ok w') : OtherStep w w'
  | startCreated {w : AsyncWorker} (ok : Bool) (ho : w.owner = .creating) :
      OtherStep w (startCreated ok w).2
  | waitLocked {w : AsyncWorker} (ho : w.owner = .idle) : OtherStep w (waitLocked w)
  | waitJoined {w : AsyncWorker} (ho : w.owner = .joining) (ht : w.thread = .exited) :
      OtherStep w (waitJoined w)
  | waitDone {w : AsyncWorker} (ho : w.owner = .joined) : OtherStep w (waitDone w)

/-- A run of the whole system from `w` to `w'`, stopped once the worker thread
has returned, in which the worker thread takes `n` steps. -/
inductive RunToReturn : Nat → AsyncWorker → AsyncWorker → Prop
  | done (w : AsyncWorker) : RunToReturn 0 w w
  | thread {n : Nat} {w w' w'' : AsyncWorker} (hl : 0 < w.thread.stepsLeft) (hs : ThreadStep Returns w w')
      (rest : RunToReturn n w' w'') : RunToReturn (n + 1) w w''
  | other {n : Nat} {w w' w'' : AsyncWorker} (hl : 0 < w.thread.stepsLeft)
      (hs : OtherStep lleAsyncMaxQueueSize w w') (rest : RunToReturn n w' w'') : RunToReturn n w w''

end Threads

variable {lleAsyncMaxQueueSize : Nat} {Returns : AsyncRequest → LleResult → Prop} {w w' : AsyncWorker}

/-- Every step of the worker thread is a step of the system. -/
theorem ThreadStep.step (hs : ThreadStep Returns w w') : Step lleAsyncMaxQueueSize w w' := by
  cases hs with
  | take ht h => exact .take ht h
  | complete r p ht _ => exact .complete r p ht
  | notify p resp ht => exact .notify p resp ht

/-- Every step of the other threads is a step of the system. -/
theorem OtherStep.step (hs : OtherStep lleAsyncMaxQueueSize w w') : Step lleAsyncMaxQueueSize w w' := by
  cases hs with
  | submit p hp => exact .submit p hp
  | shutdown => exact .shutdown
  | startLocked ho h => exact .startLocked ho h
  | startCreated ok ho => exact .startCreated ok ho
  | waitLocked ho => exact .waitLocked ho
  | waitJoined ho ht => exact .waitJoined ho ht
  | waitDone ho => exact .waitDone ho

/-- Every step of the system is one of the worker thread, whatever its calls
return, or one of the other threads. -/
theorem Step.split (hs : Step lleAsyncMaxQueueSize w w') :
    ThreadStep (fun _ _ => True) w w' ∨ OtherStep lleAsyncMaxQueueSize w w' := by
  cases hs with
  | submit p hp => exact .inr (.submit p hp)
  | shutdown => exact .inr .shutdown
  | startLocked ho h => exact .inr (.startLocked ho h)
  | startCreated ok ho => exact .inr (.startCreated ok ho)
  | waitLocked ho => exact .inr (.waitLocked ho)
  | waitJoined ho ht => exact .inr (.waitJoined ho ht)
  | waitDone ho => exact .inr (.waitDone ho)
  | take ht h => exact .inl (.take ht h)
  | complete r p ht => exact .inl (.complete r p ht fun _ => trivial)
  | notify p resp ht => exact .inl (.notify p resp ht)

/-! ## The drain after shutdown -/

/-- The queue is empty exactly when `queue_size` is `0`. -/
theorem Inv.queueHead_eq_none_iff (hi : Inv lleAsyncMaxQueueSize w) : w.queueHead = none ↔ w.queueSize = 0 := by
  obtain ⟨ns, hq⟩ := hi.queue
  rw [hq.rep.head_eq_none_iff, hq.size, List.length_eq_zero]

/-- Once the worker thread has returned, it has processed every accepted request. -/
theorem Inv.processed_of_exited (hi : Inv lleAsyncMaxQueueSize w) (hx : w.thread = .exited) :
    w.processedIds = w.acceptedIds := by
  obtain ⟨ns, hq⟩ := hi.queue
  have hns : ns = [] := hq.rep.head_eq_none_iff.mp (hi.exited hx).2
  simpa [hns, hx, WorkerPc.heldIds] using hq.ids.symm

/-- A step of the worker thread, after shutdown, uses up one of its steps and
keeps the request to shut down and the accepted ids. -/
theorem Inv.threadStep_drain (hi : Inv lleAsyncMaxQueueSize w) (hsd : w.shutdownRequested = true)
    (hs : ThreadStep Returns w w') :
    w'.drainSteps + 1 = w.drainSteps ∧ w'.shutdownRequested = true ∧ w'.acceptedIds = w.acceptedIds ∧
      w'.thread ≠ .absent := by
  cases hs with
  | take ht h =>
    unfold workerTake at h
    split at h
    next p hh =>
      cases h
      have hpos : w.queueSize ≠ 0 := fun h0 => by simp [hi.queueHead_eq_none_iff.mpr h0] at hh
      refine ⟨?_, hsd, rfl, nofun⟩
      simp only [AsyncWorker.drainSteps, AsyncWorker.dequeue, WorkerPc.stepsLeft, ht]
      omega
    next hh =>
      rw [if_pos hsd] at h
      cases h
      refine ⟨?_, hsd, rfl, nofun⟩
      simp [AsyncWorker.drainSteps, WorkerPc.stepsLeft, ht, hi.queueHead_eq_none_iff.mp hh]
  | complete r p ht =>
    exact ⟨by simp [AsyncWorker.drainSteps, workerComplete, WorkerPc.stepsLeft, ht], hsd, rfl, nofun⟩
  | notify p resp ht =>
    exact ⟨by simp [AsyncWorker.drainSteps, workerNotify, WorkerPc.stepsLeft, ht], hsd, rfl, nofun⟩

/-- While the worker thread is alive after shutdown, no other thread's step
changes what it has left, its program point, the request to shut down or the
accepted ids: a submission is refused, and the owner can neither restart the
worker nor join a thread that has not returned. -/
theorem Inv.otherStep_drain (hi : Inv lleAsyncMaxQueueSize w) (hsd : w.shutdownRequested = true)
    (hl : 0 < w.thread.stepsLeft) (hs : OtherStep lleAsyncMaxQueueSize w w') :
    w'.drainSteps = w.drainSteps ∧ w'.shutdownRequested = true ∧ w'.thread = w.thread ∧
      w'.acceptedIds = w.acceptedIds := by
  have hlive : w.thread ≠ .absent := fun h => by simp [h, WorkerPc.stepsLeft] at hl
  cases hs with
  | submit p _ =>
    have : lleAsyncWorkerSubmit lleAsyncMaxQueueSize w p = (.errorInvalidState, w) := by
      simp [lleAsyncWorkerSubmit, hsd]
    rw [this]
    exact ⟨rfl, hsd, rfl, rfl⟩
  | shutdown => exact ⟨rfl, rfl, rfl, rfl⟩
  | startLocked _ h =>
    simp [Lush.startLocked, hi.threadRunning hlive] at h
  | startCreated _ ho => exact absurd (hi.creating ho).1 hlive
  | waitLocked _ =>
    unfold Lush.waitLocked
    split <;> exact ⟨rfl, hsd, rfl, rfl⟩
  | waitJoined _ ht => simp [ht, WorkerPc.stepsLeft] at hl
  | waitDone ho => exact absurd (hi.joined ho) hlive

/-- After shutdown the worker thread is held up only inside a git status call:
while it is alive, it has a step it can take, or it is dispatching a git status
request whose call returns nothing.  It never waits on the condition variable. -/
theorem ThreadStep.enabled (hsd : w.shutdownRequested = true) (hl : 0 < w.thread.stepsLeft) :
    (∃ w', ThreadStep Returns w w') ∨ BlockedInGitCall Returns w := by
  cases ht : w.thread with
  | top =>
    left
    cases hh : w.queueHead with
    | some p => exact ⟨w.dequeue p, .take ht (by simp [workerTake, hh])⟩
    | none => exact ⟨{ w with thread := .exited }, .take ht (by simp [workerTake, hh, hsd])⟩
  | dispatching p =>
    by_cases hg : (w.heap p).type = .gitStatus
    · by_cases hr : ∃ r, Returns (w.heap p) r
      · obtain ⟨r, hr⟩ := hr
        exact .inl ⟨_, .complete r p ht fun _ => hr⟩
      · exact .inr ⟨p, ht, hg, fun r h => hr ⟨r, h⟩⟩
    · exact .inl ⟨_, .complete .success p ht fun h => absurd h hg⟩
  | notifying p resp => exact .inl ⟨_, .notify p resp ht⟩
  | absent | exited => simp [ht, WorkerPc.stepsLeft] at hl

/-- The drain, by induction on the run, from any state that satisfies the invariant. -/
theorem Inv.runToReturn (hi : Inv lleAsyncMaxQueueSize w) (hsd : w.shutdownRequested = true)
    (hl : 0 < w.thread.stepsLeft) {n : Nat} (hrun : RunToReturn lleAsyncMaxQueueSize Returns n w w') :
    n + w'.drainSteps = w.drainSteps ∧ w'.acceptedIds = w.acceptedIds ∧
      (0 < w'.thread.stepsLeft → (∃ w'', ThreadStep Returns w' w'') ∨ BlockedInGitCall Returns w') ∧
      (w'.thread.stepsLeft = 0 → w'.thread = .exited ∧ w'.processedIds = w'.acceptedIds ∧ n = w.drainSteps) := by
  induction hrun with
  | done w => exact ⟨by simp, rfl, fun _ => ThreadStep.enabled hsd hl, fun h => by omega⟩
  | @thread n w w1 w' _ hs rest ih =>
    obtain ⟨hdrain, hsd1, hacc, habs⟩ := hi.threadStep_drain hsd hs
    have hi1 := hi.step hs.step
    by_cases hl1 : 0 < w1.thread.stepsLeft
    · obtain ⟨hn, hacc', henabled, hend⟩ := ih hi1 hsd1 hl1
      exact ⟨by omega, hacc'.trans hacc, henabled, fun h => ⟨(hend h).1, (hend h).2.1, by omega⟩⟩
    · -- the step was the last one: the thread has returned and the run stops
      have hx : w1.thread = .exited := WorkerPc.eq_exited hl1 habs
      cases rest with
      | done =>
        have hq : w1.queueSize = 0 := hi1.queueHead_eq_none_iff.mp (hi1.exited hx).2
        refine ⟨?_, hacc, fun h => absurd h hl1, fun _ => ⟨hx, hi1.processed_of_exited hx, ?_⟩⟩ <;>
          simp only [AsyncWorker.drainSteps, hq, hx, WorkerPc.stepsLeft] at hdrain ⊢ <;> omega
      | thread hl' => exact absurd hl' hl1
      | other hl' => exact absurd hl' hl1
  | other _ hs rest ih =>
    obtain ⟨hdrain, hsd1, hthread, hacc⟩ := hi.otherStep_drain hsd hl hs
    have hi1 := hi.step hs.step
    obtain ⟨hn, hacc', henabled, hend⟩ := ih hi1 hsd1 (hthread ▸ hl)
    exact ⟨hn.trans hdrain, hacc'.trans hacc, henabled, fun h => ⟨(hend h).1, (hend h).2.1, (hend h).2.2.trans hdrain⟩⟩

section Provider

variable (children : Nat → Nat → List UInt8 → SysWorld) (pathExists : List UInt8 → Bool)
  (branchSize commitSize : Nat)

/-- The worker loop's call `lle_async_get_git_status(request->cwd,
request->timeout_ms, …)` returns `r` for `req`: it does with some fuel, the
commands for the request with id `req.id` running in the children
`children req.id`. -/
def GitStatusReturns (req : AsyncRequest) (r : LleResult) : Prop :=
  ∃ fuel st, lleAsyncGetGitStatus fuel (children req.id) pathExists branchSize commitSize (some req.cwd)
    req.timeoutMs = .ok (r, st)

/-- **Shutdown drains the queue, unless a git call never returns.**  Let
shutdown be requested in a reachable state whose worker thread is alive, and
let each call of `lle_async_get_git_status` run its commands as the provider's
model does.  In every interleaving of the threads from there, up to the return
of the worker thread: the steps the thread has taken and `3 * queue_size` plus
what is left at its program point always add up to the same count; while it is
alive it has a step it can take, unless it is inside the call for a git status
request that returns for no fuel; and when it returns it has taken exactly
that count of steps and processed every request that was accepted before the
shutdown, and no other. -/
theorem shutdown_drains {n : Nat} (h : Reachable lleAsyncMaxQueueSize w) (hsd : w.shutdownRequested = true)
    (hl : 0 < w.thread.stepsLeft)
    (hrun : RunToReturn lleAsyncMaxQueueSize (GitStatusReturns children pathExists branchSize commitSize) n w w') :
    n + w'.drainSteps = w.drainSteps ∧
      (0 < w'.thread.stepsLeft →
        (∃ w'', ThreadStep (GitStatusReturns children pathExists branchSize commitSize) w' w'') ∨
          BlockedInGitCall (GitStatusReturns children pathExists branchSize commitSize) w') ∧
      (w'.thread.stepsLeft = 0 →
        w'.thread = .exited ∧ n = w.drainSteps ∧ w'.processedIds = w.acceptedIds) := by
  obtain ⟨hn, hacc, henabled, hend⟩ := h.inv.runToReturn hsd hl hrun
  exact ⟨hn, henabled, fun h0 => ⟨(hend h0).1, (hend h0).2.2, (hend h0).2.1.trans hacc⟩⟩

end Provider

/-- A git child that writes nothing and exits `128`, as git does outside a repository. -/
def notRepoChild : SysWorld := ⟨true, true, [], false, [], [], none, .running, some 128, true, [], 0, []⟩

/-- The calls of the sample: every command runs in `notRepoChild`, and no path exists. -/
def sampleReturns : AsyncRequest → LleResult → Prop :=
  GitStatusReturns (fun _ _ _ => notRepoChild) (fun _ => false) 256 64

theorem sampleShutdown_run : RunToReturn 4 sampleReturns 4 sampleShutdown sampleDrained :=
  .thread (by decide) (.take rfl rfl) <|
  .other (by decide) (.waitLocked rfl) <|
  .thread (by decide) (.complete .success 7 rfl fun _ => ⟨4, _, rfl⟩) <|
  .thread (by decide) (.notify 7 _ rfl) <|
  .thread (by decide) (.take rfl rfl) (.done _)

theorem shutdown_drains_sample :
    Reachable 4 sampleShutdown ∧ sampleShutdown.shutdownRequested = true ∧
      0 < sampleShutdown.thread.stepsLeft ∧ RunToReturn 4 sampleReturns 4 sampleShutdown sampleDrained ∧
      (4 + sampleDrained.drainSteps = sampleShutdown.drainSteps ∧
        (0 < sampleDrained.thread.stepsLeft →
          (∃ w'', ThreadStep sampleReturns sampleDrained w'') ∨ BlockedInGitCall sampleReturns sampleDrained) ∧
        (sampleDrained.thread.stepsLeft = 0 → sampleDrained.thread = .exited ∧
          4 = sampleShutdown.drainSteps ∧ sampleDrained.processedIds = sampleShutdown.acceptedIds)) :=
  ⟨.step sampleRun_reachable .shutdown, rfl, by decide, sampleShutdown_run,
    shutdown_drains (fun _ _ _ => notRepoChild) (fun _ => false) 256 64 (.step sampleRun_reachable .shutdown) rfl
      (by decide) sampleShutdown_run⟩

/-! ## `lle_async_worker_destroy` -/

/-- The loop of `lle_async_worker_destroy` that frees the pending requests,
from `req = queue_head`: the requests it frees, in order, or `none` if it has
not reached NULL within `fuel` iterations. -/
def destroyFreeLoop (heap : Ptr → AsyncRequest) : Nat → Option Ptr → Option (List Ptr)
  | _, none => some []
  | 0, some _ => none
  | fuel + 1, some p => (destroyFreeLoop heap fuel (heap p).next).map (p :: ·)

/-- On a represented queue the free loop walks it once, node by node. -/
theorem QueueRep.destroyFreeLoop {heap : Ptr → AsyncRequest} {head : Option Ptr} {ns : List Ptr}
    (hq : QueueRep heap head ns) (fuel : Nat) :
    destroyFreeLoop heap fuel head = if ns.length ≤ fuel then some ns else none := by
  induction hq generalizing fuel with
  | nil => cases fuel <;> rfl
  | cons p ps _ ih =>
    cases fuel with
    | zero => rfl
    | succ fuel =>
      rw [Lush.destroyFreeLoop, ih fuel, List.length_cons]
      by_cases hle : ps.length ≤ fuel
      · rw [if_pos hle, if_pos (by omega), Option.map_some']
      · rw [if_neg hle, if_neg (by omega), Option.map_none']

/-- **What `lle_async_worker_destroy` frees.**  In every reachable state, the
free loop of `lle_async_worker_destroy` reaches NULL after exactly
`queue_size` iterations (it needs no more and no fewer); it frees each request
at most once and never the one the worker thread holds; and the requests it
frees carry exactly the accepted ids that the worker thread has neither
processed nor taken off the queue, in order. -/
theorem lleAsyncWorkerDestroy_frees (h : Reachable lleAsyncMaxQueueSize w) :
    ∃ freed, (∀ fuel, destroyFreeLoop w.heap fuel w.queueHead = if w.queueSize ≤ fuel then some freed else none) ∧
      freed.Nodup ∧ (∀ p, w.thread.held = some p → p ∉ freed) ∧
      freed.map (fun p => (w.heap p).id) =
        w.acceptedIds.drop (w.processedIds.length + (w.thread.heldIds w.heap).length) := by
  obtain ⟨ns, hq⟩ := h.inv.queue
  refine ⟨ns, fun fuel => by rw [hq.rep.destroyFreeLoop, hq.size], hq.rep.nodup, hq.held, ?_⟩
  rw [hq.ids, List.append_assoc, List.drop_append, List.drop_left]

theorem lleAsyncWorkerDestroy_frees_sample :
    Reachable 4 sampleRun ∧
      ∃ freed, (∀ fuel, destroyFreeLoop sampleRun.heap fuel sampleRun.queueHead =
          if sampleRun.queueSize ≤ fuel then some freed else none) ∧
        freed.Nodup ∧ (∀ p, sampleRun.thread.held = some p → p ∉ freed) ∧
        freed.map (fun p => (sampleRun.heap p).id) =
          sampleRun.acceptedIds.drop (sampleRun.processedIds.length + (sampleRun.thread.heldIds sampleRun.heap).length) :=
  ⟨sampleRun_reachable, lleAsyncWorkerDestroy_frees sampleRun_reachable⟩

/-! ## Shutdown, wait, destroy -/

/-- What `pthread_join` in `lle_async_worker_wait` leaves: shutdown requested,
the queue empty, and every accepted request processed. -/
def Drained (w : AsyncWorker) : Prop :=
  w.shutdownRequested = true ∧ w.queueHead = none ∧ w.processedIds = w.acceptedIds

/-- No step of the worker thread changes the owner's program point. -/
theorem ThreadStep.owner_eq (hs : ThreadStep Returns w w') : w'.owner = w.owner := by
  cases hs with
  | take _ h =>
    unfold workerTake at h
    split at h
    · cases h; rfl
    · split at h <;> cases h; rfl
  | complete => rfl
  | notify => rfl

/-- Every step keeps `Drained` while the owner holds a joined thread. -/
theorem Inv.joined_step (hi : Inv lleAsyncMaxQueueSize w) (hd : w.owner = .joined → Drained w)
    (hs : Step lleAsyncMaxQueueSize w w') : w'.owner = .joined → Drained w' := by
  intro ho'
  rcases hs.split with ht | ho
  · -- the worker thread is alive, so the owner has not joined it
    have hlive : w.thread ≠ .absent := by cases ht <;> simp_all
    exact absurd (hi.joined (ht.owner_eq ▸ ho')) hlive
  · cases ho with
    | submit p _ =>
      have hown : (lleAsyncWorkerSubmit lleAsyncMaxQueueSize w p).2.owner = w.owner := by
        unfold lleAsyncWorkerSubmit
        split_ifs <;> rfl
      have hd := hd (hown ▸ ho')
      have : lleAsyncWorkerSubmit lleAsyncMaxQueueSize w p = (.errorInvalidState, w) := by
        simp [lleAsyncWorkerSubmit, hd.1]
      rw [this]
      exact hd
    | shutdown => exact ⟨rfl, (hd ho').2⟩
    | startLocked _ h =>
      unfold Lush.startLocked at h
      split at h <;> cases h
      cases ho'
    | startCreated ok _ =>
      unfold Lush.startCreated at ho'
      split at ho' <;> cases ho'
    | waitLocked ho =>
      unfold Lush.waitLocked at ho'
      split at ho' <;> simp_all
    | waitJoined _ ht =>
      exact ⟨(hi.exited ht).1, (hi.exited ht).2, hi.processed_of_exited ht⟩
    | waitDone _ => cases ho'

/-- **Shutdown, wait, destroy loses no request.**  In every reachable state in
which `lle_async_worker_wait` has joined the worker thread, and once it returns:
shutdown is requested, every accepted request has been processed, and the
queue is empty, so the free loop of `lle_async_worker_destroy` frees
nothing. -/
theorem lleAsyncWorkerWait_drained (h : Reachable lleAsyncMaxQueueSize w) (ho : w.owner = .joined) :
    (waitDone w).shutdownRequested = true ∧ (waitDone w).processedIds = (waitDone w).acceptedIds ∧
      ∀ fuel, destroyFreeLoop (waitDone w).heap fuel (waitDone w).queueHead = some [] := by
  have hd : Drained w := by
    induction h with
    | init heap => cases ho
    | step hr hs ih => exact hr.inv.joined_step ih hs ho
  obtain ⟨hsd, hq, hp⟩ := hd
  exact ⟨hsd, hp, fun fuel => by simp [waitDone, hq, destroyFreeLoop]⟩

theorem lleAsyncWorkerWait_drained_sample :
    Reachable 4 (waitJoined sampleDrained) ∧ (waitJoined sampleDrained).owner = .joined ∧
      ((waitDone (waitJoined sampleDrained)).shutdownRequested = true ∧
        (waitDone (waitJoined sampleDrained)).processedIds = (waitDone (waitJoined sampleDrained)).acceptedIds ∧
        ∀ fuel, destroyFreeLoop (waitDone (waitJoined sampleDrained)).heap fuel
          (waitDone (waitJoined sampleDrained)).queueHead = some []) :=
  ⟨.step sampleDrained_reachable (.waitJoined rfl rfl), rfl,
    lleAsyncWorkerWait_drained (.step sampleDrained_reachable (.waitJoined rfl rfl)) rfl⟩

/-! ## Restarting -/

/-- **`pthread_create` never replaces a thread that has not been joined.**  In
every reachable state, while a worker thread exists (running, or returned and
not yet joined by `lle_async_worker_wait`), `lle_async_worker_start` is refused
with `LLE_ERROR_INVALID_PARAMETER`; and whenever the owner stands before
`pthread_create`, no worker thread exists.  A start after
`lle_async_worker_shutdown` therefore fails until the thread has been joined. -/
theorem lleAsyncWorkerStart_refused_until_joined (h : Reachable lleAsyncMaxQueueSize w) :
    (w.thread ≠ .absent → startLocked w = .error .errorInvalidParameter) ∧
      (w.owner = .creating → w.thread = .absent) := by
  have hi := h.inv
  refine ⟨fun ht => ?_, fun ho => (hi.creating ho).1⟩
  rw [startLocked, if_pos (hi.threadRunning ht)]

/-- The drained sample: its thread has returned and is not joined yet. -/
theorem lleAsyncWorkerStart_refused_until_joined_drained :
    Reachable 4 sampleDrained ∧
      (sampleDrained.thread ≠ .absent → startLocked sampleDrained = .error .errorInvalidParameter) ∧
      (sampleDrained.owner = .creating → sampleDrained.thread = .absent) :=
  ⟨sampleDrained_reachable, lleAsyncWorkerStart_refused_until_joined sampleDrained_reachable⟩

end Lush
