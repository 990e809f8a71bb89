import Lush.Async.Queue

/-!
# The async worker under every interleaving of its threads

`lle_async_worker_t` guards its request queue and its counters with one mutex.
The model is a transition system whose steps are the mutex-protected sections
of the client calls (`lle_async_worker_submit` and `_shutdown` from any thread,
the halves of `_start` and `_wait` from the thread that owns the worker) and of
the worker thread's loop.  Each step runs atomically; any enabled step may come
next.  A client may submit any request object the worker does not hold.

Two logs record what the threads observe: the ids that `submit` hands out, and
the ids of the responses the worker thread finishes and passes to `on_complete`.

Main results, for every reachable state:

* **`reachable_queue_invariant`**: `queue_size` counts the nodes reachable from
  `queue_head`, `queue_tail` is the last of them, the size stays within
  `LLE_ASYNC_MAX_QUEUE_SIZE`, and `total_requests = total_completed +
  queue_size + in_flight`;
* **`reachable_ids_in_order`**: the ids handed out are `1, 2, 3, …` and a
  rejected submission changes nothing; the processed ids are a prefix of them;
  once the thread has exited, every accepted request has been processed.
-/

namespace Lush

/-- `lle_async_response_t`, without its git status payload. -/
structure AsyncResponse where
  id : Nat
  result : LleResult
deriving DecidableEq

/-- The worker thread's program point. -/
inductive WorkerPc
  /-- No thread: never started, or joined. -/
  | absent
  /-- At the top of the loop, about to take the lock. -/
  | top
  /-- Has dequeued `p` and is dispatching it. -/
  | dispatching (p : Ptr)
  /-- Has counted `p` as completed; calls `on_complete(resp)` and frees `p` next. -/
  | notifying (p : Ptr) (resp : AsyncResponse)
  /-- Has returned from `lle_async_worker_thread`, not yet joined. -/
  | exited
deriving DecidableEq

/-- The program point of the thread that starts the worker and waits for it. -/
inductive OwnerPc
  | idle
  /-- Between the locked section of `lle_async_worker_start` and `pthread_create`. -/
  | creating
  /-- In `pthread_join`, inside `lle_async_worker_wait`. -/
  | joining
  /-- Back from `pthread_join`, before the last locked section of `wait`. -/
  | joined
deriving DecidableEq

namespace WorkerPc

/-- The request the worker thread has taken off the queue and not yet freed. -/
def held : WorkerPc → Option Ptr
  | .dispatching p => some p
  | .notifying p _ => some p
  | _ => none

/-- `in_flight`: 1 while a dequeued request is not yet counted as completed. -/
def inFlight : WorkerPc → Nat
  | .dispatching _ => 1
  | _ => 0

/-- The id of the request the worker thread holds, as it will reach `on_complete`. -/
def heldIds (heap : Ptr → AsyncRequest) : WorkerPc → List Nat
  | .dispatching p => [(heap p).id]
  | .notifying _ resp => [resp.id]
  | _ => []

end WorkerPc

/-- `lle_async_worker_t`, with the request heap, the two threads' program
points, and the logs of handed-out and processed ids. -/
structure AsyncWorker where
  running : Bool
  shutdownRequested : Bool
  nextRequestId : Nat
  queueHead : Option Ptr
  queueTail : Option Ptr
  queueSize : Nat
  totalRequests : Nat
  totalCompleted : Nat
  totalTimeouts : Nat
  heap : Ptr → AsyncRequest
  thread : WorkerPc
  owner : OwnerPc
  acceptedIds : List Nat
  processedIds : List Nat

/-- `lle_async_worker_init`: the fields it sets, over whatever the heap holds. -/
def lleAsyncWorkerInit (heap : Ptr → AsyncRequest) : AsyncWorker where
  running := false
  shutdownRequested := false
  nextRequestId := 1
  queueHead := none
  queueTail := none
  queueSize := 0
  totalRequests := 0
  totalCompleted := 0
  totalTimeouts := 0
  heap := heap
  thread := .absent
  owner := .idle
  acceptedIds := []
  processedIds := []

/-- The worker holds `p`: it is on the queue, or the worker thread has dequeued
it and not yet freed it.  A client submits only requests the worker does not hold. -/
def AsyncWorker.Owns (w : AsyncWorker) (p : Ptr) : Prop :=
  InQueue w.heap w.queueHead p ∨ w.thread.held = some p

/-- `if (queue_tail) queue_tail->next = request;` -/
def linkAfter (heap : Ptr → AsyncRequest) (p : Ptr) : Option Ptr → Ptr → AsyncRequest
  | some t => Function.update heap t { heap t with next := some p }
  | none => heap

/-- The accepted branch of `lle_async_worker_submit`: give `p` the next id and
append it at the tail. -/
def AsyncWorker.enqueue (w : AsyncWorker) (p : Ptr) : AsyncWorker :=
  { w with
    nextRequestId := w.nextRequestId + 1
    heap := linkAfter (Function.update w.heap p { w.heap p with id := w.nextRequestId, next := none })
      p w.queueTail
    queueHead := if w.queueTail.isSome then w.queueHead else some p
    queueTail := some p
    queueSize := w.queueSize + 1
    totalRequests := w.totalRequests + 1
    acceptedIds := w.acceptedIds ++ [w.nextRequestId] }

/-- The dequeue of the worker loop, once `queue_head` is `p`. -/
def AsyncWorker.dequeue (w : AsyncWorker) (p : Ptr) : AsyncWorker :=
  { w with
    queueHead := (w.heap p).next
    queueTail := if (w.heap p).next = none then none else w.queueTail
    queueSize := w.queueSize - 1
    thread := .dispatching p }

/-- The `switch (request->type)` of the worker loop; `gitResult` is what
`lle_async_get_git_status` returned. -/
def dispatchResult (gitResult : LleResult) : AsyncRequestType → LleResult
  | .gitStatus => gitResult
  | .custom => .errorFeatureNotAvailable
  | .unknown => .errorInvalidParameter

section Steps

variable (lleAsyncMaxQueueSize : Nat)

/-- `lle_async_worker_submit(worker, request)`, one locked section. -/
def lleAsyncWorkerSubmit (w : AsyncWorker) (p : Ptr) : LleResult × AsyncWorker :=
  if !w.running || w.shutdownRequested then (.errorInvalidState, w)
  else if lleAsyncMaxQueueSize ≤ w.queueSize then (.errorResourceExhausted, w)
  else (.success, w.enqueue p)

/-- `lle_async_worker_shutdown`. -/
def lleAsyncWorkerShutdown (w : AsyncWorker) : AsyncWorker :=
  { w with shutdownRequested := true }

/-- The locked section of `lle_async_worker_start`: an error ends the call, else
the owner goes on to `pthread_create`. -/
def startLocked (w : AsyncWorker) : Except LleResult AsyncWorker :=
  if w.running then .error .errorInvalidParameter
  else .ok { w with running := true, shutdownRequested := false, owner := .creating }

/-- The rest of `lle_async_worker_start`, after `pthread_create` succeeded (`ok`)
or failed. -/
def startCreated (ok : Bool) (w : AsyncWorker) : LleResult × AsyncWorker :=
  if ok then (.success, { w with thread := .top, owner := .idle })
  else (.errorSystemCall, { w with running := false, owner := .idle })

/-- The first locked section of `lle_async_worker_wait`: read `running`, and join
if it was set. -/
def waitLocked (w : AsyncWorker) : AsyncWorker :=
  if w.running then { w with owner := .joining } else w

/-- `pthread_join` returns once the worker thread has exited. -/
def waitJoined (w : AsyncWorker) : AsyncWorker :=
  { w with thread := .absent, owner := .joined }

/-- The last locked section of `lle_async_worker_wait`. -/
def waitDone (w : AsyncWorker) : AsyncWorker :=
  { w with running := false, owner := .idle }

/-- The locked section at the top of the worker loop.  `pthread_cond_wait`
blocks (`none`) while the queue is empty and no shutdown is requested; then the
thread exits if the queue is empty, else dequeues the head. -/
def workerTake (w : AsyncWorker) : Option AsyncWorker :=
  match w.queueHead with
  | some p => some (w.dequeue p)
  | none => if w.shutdownRequested then some { w with thread := .exited } else none

/-- Dispatch the held request `p`, then `total_completed++` under the lock. -/
def workerComplete (gitResult : LleResult) (p : Ptr) (w : AsyncWorker) : AsyncWorker :=
  { w with
    totalCompleted := w.totalCompleted + 1
    thread := .notifying p ⟨(w.heap p).id, dispatchResult gitResult (w.heap p).type⟩ }

/-- `on_complete(&response, …)`, `free(request)`, back to the top of the loop. -/
def workerNotify (resp : AsyncResponse) (w : AsyncWorker) : AsyncWorker :=
  { w with processedIds := w.processedIds ++ [resp.id], thread := .top }

/-- One atomic step of some thread. -/
inductive Step : AsyncWorker → AsyncWorker → Prop
  | submit {w : AsyncWorker} (p : Ptr) (hp : ¬ w.Owns p) :
      Step w (lleAsyncWorkerSubmit lleAsyncMaxQueueSize w p).2
  | shutdown {w : AsyncWorker} : Step w (lleAsyncWorkerShutdown w)
  | startLocked {w w' : AsyncWorker} (ho : w.owner = .idle) (h : startLocked w = .ok w') : Step w w'
  | startCreated {w : AsyncWorker} (ok : Bool) (ho : w.owner = .creating) :
      Step w (startCreated ok w).2
  | waitLocked {w : AsyncWorker} (ho : w.owner = .idle) : Step w (waitLocked w)
  | waitJoined {w : AsyncWorker} (ho : w.owner = .joining) (ht : w.thread = .exited) :
      Step w (waitJoined w)
  | waitDone {w : AsyncWorker} (ho : w.owner = .joined) : Step w (waitDone w)
  | take {w w' : AsyncWorker} (ht : w.thread = .top) (h : workerTake w = some w') : Step w w'
  | complete {w : AsyncWorker} (gitResult : LleResult) (p : Ptr) (ht : w.thread = .dispatching p) :
      Step w (workerComplete gitResult p w)
  | notify {w : AsyncWorker} (p : Ptr) (resp : AsyncResponse) (ht : w.thread = .notifying p resp) :
      Step w (workerNotify resp w)

/-- The states an initialised worker reaches. -/
inductive Reachable : AsyncWorker → Prop
  | init (heap : Ptr → AsyncRequest) : Reachable (lleAsyncWorkerInit heap)
  | step {w w' : AsyncWorker} : Reachable w → Step lleAsyncMaxQueueSize w w' → Reachable w'

end Steps

/-! ## The invariant -/

/-- The queue is the walk `ns`, and the two logs account for every id: the
accepted ids are the processed ones, then the held one, then the queued ones. -/
structure QueueOk (w : AsyncWorker) (ns : List Ptr) : Prop where
  rep : QueueRep w.heap w.queueHead ns
  size : w.queueSize = ns.length
  tail : w.queueTail = ns.getLast?
  held : ∀ p, w.thread.held = some p → p ∉ ns
  ids : w.acceptedIds = w.processedIds ++ w.thread.heldIds w.heap ++ ns.map fun q => (w.heap q).id

/-- What holds in every reachable state. -/
structure Inv (lleAsyncMaxQueueSize : Nat) (w : AsyncWorker) : Prop where
  queue : ∃ ns, QueueOk w ns
  bound : w.queueSize ≤ lleAsyncMaxQueueSize
  count : w.totalRequests = w.totalCompleted + w.queueSize + w.thread.inFlight
  accepted : w.acceptedIds = List.range' 1 w.acceptedIds.length
  nextId : w.nextRequestId = w.acceptedIds.length + 1
  threadRunning : w.thread ≠ .absent → w.running = true
  creating : w.owner = .creating → w.thread = .absent ∧ w.running = true
  joined : w.owner = .joined → w.thread = .absent
  exited : w.thread = .exited → w.shutdownRequested = true ∧ w.queueHead = none

variable {lleAsyncMaxQueueSize : Nat} {w : AsyncWorker} {ns : List Ptr}

/-! ### The list operations -/

@[simp] theorem linkAfter_id (heap : Ptr → AsyncRequest) (p : Ptr) (tail : Option Ptr) (q : Ptr) :
    (linkAfter heap p tail q).id = (heap q).id := by
  cases tail with
  | none => rfl
  | some t => by_cases h : q = t <;> simp [linkAfter, Function.update_apply, h]

/-- Enqueueing a fresh `p` extends the walk from the head by `p`. -/
theorem QueueOk.rep_enqueue (hq : QueueOk w ns) {p : Ptr} (hpn : p ∉ ns) :
    QueueRep (w.enqueue p).heap (w.enqueue p).queueHead (ns ++ [p]) := by
  cases ht : w.queueTail with
  | none =>
    have hns : ns = [] := List.getLast?_eq_none_iff.mp (hq.tail ▸ ht)
    subst hns
    simp only [AsyncWorker.enqueue, ht, linkAfter, Option.isSome_none, List.nil_append]
    exact .single (by simp)
  | some t =>
    simp only [AsyncWorker.enqueue, ht, linkAfter, Option.isSome_some, if_true]
    exact (hq.rep.frame hpn _).link (hq.tail ▸ ht) hpn (by simp)

/-- Enqueueing `p` changes no id but `p`'s, so the id the worker's thread holds
stays. -/
theorem heldIds_enqueue {p : Ptr} (hheld : w.thread.held ≠ some p) :
    (w.enqueue p).thread.heldIds (w.enqueue p).heap = w.thread.heldIds w.heap := by
  show w.thread.heldIds _ = _
  cases hth : w.thread with
  | dispatching q =>
    have hqp : q ≠ p := fun e => hheld (by rw [hth, e]; rfl)
    simp [WorkerPc.heldIds, AsyncWorker.enqueue, Function.update_noteq hqp]
  | _ => rfl

/-- Enqueueing `p`, which the worker does not hold, appends it to the walk and its
fresh id to the accepted ids. -/
theorem QueueOk.enqueue (hq : QueueOk w ns) {p : Ptr} (hp : ¬ w.Owns p) :
    QueueOk (w.enqueue p) (ns ++ [p]) := by
  have hpn : p ∉ ns := fun h => hp (.inl ((hq.rep.inQueue_iff p).mpr h))
  have hheld : w.thread.held ≠ some p := fun h => hp (.inr h)
  refine ⟨hq.rep_enqueue hpn, by simp [AsyncWorker.enqueue, hq.size], by simp [AsyncWorker.enqueue], ?_, ?_⟩
  · intro q hq' hmem
    rcases List.mem_append.mp hmem with hmem | hmem
    · exact hq.held q hq' hmem
    · exact hheld (List.mem_singleton.mp hmem ▸ hq')
  · have hmap : ns.map (fun q => ((w.enqueue p).heap q).id) = ns.map fun q => (w.heap q).id :=
      List.map_congr_left fun q hm => by
        simp [AsyncWorker.enqueue, Function.update_noteq (fun e : q = p => hpn (e ▸ hm))]
    rw [heldIds_enqueue hheld, List.map_append, hmap, show (w.enqueue p).acceptedIds =
      w.acceptedIds ++ [w.nextRequestId] from rfl, hq.ids]
    simp [AsyncWorker.enqueue]

/-- Dequeueing the head `p` leaves the rest of the walk queued and `p` held. -/
theorem QueueOk.dequeue {p : Ptr} (hq : QueueOk w ns) (hh : w.queueHead = some p)
    (hth : w.thread = .top) : ∃ ps, ns = p :: ps ∧ QueueOk (w.dequeue p) ps := by
  have hrep := hq.rep
  rw [hh] at hrep
  cases hrep with
  | cons _ ps hps =>
    refine ⟨ps, rfl, hps, by simp [AsyncWorker.dequeue, hq.size], ?_, ?_, ?_⟩
    · simp only [AsyncWorker.dequeue]
      split
      next hnext =>
        rw [hnext] at hps
        cases hps
        rfl
      next hnext =>
        rw [hq.tail]
        cases ps with
        | nil => exact absurd hps.nil_inv hnext
        | cons _ _ => simp
    · intro q hq' hmem
      simp only [AsyncWorker.dequeue, WorkerPc.held, Option.some.injEq] at hq'
      subst hq'
      exact (List.nodup_cons.mp (QueueRep.cons _ ps hps).nodup).1 hmem
    · simpa [AsyncWorker.dequeue, WorkerPc.heldIds, hth] using hq.ids

/-- Only the walk from NULL is empty. -/
theorem QueueRep.head_eq_none_iff {heap : Ptr → AsyncRequest} {head : Option Ptr}
    (h : QueueRep heap head ns) : head = none ↔ ns = [] := by
  cases h <;> simp

/-- A thread that holds no request holds no id. -/
theorem WorkerPc.heldIds_of_held {t : WorkerPc} (ht : t.held = none) (heap : Ptr → AsyncRequest) :
    t.heldIds heap = [] := by
  cases t <;> simp_all [WorkerPc.held, WorkerPc.heldIds]

/-- Moving the worker thread between program points that hold no request keeps
the queue and the logs in step. -/
theorem QueueOk.setThread (hq : QueueOk w ns) (hw : w.thread.held = none) (t : WorkerPc)
    (ht : t.held = none) (o : OwnerPc) : QueueOk { w with thread := t, owner := o } ns := by
  refine ⟨hq.rep, hq.size, hq.tail, by simp [ht], ?_⟩
  simpa [WorkerPc.heldIds_of_held ht, WorkerPc.heldIds_of_held hw] using hq.ids

/-- `QueueOk` does not read the control fields of the owner and the clients. -/
theorem QueueOk.setCtl (hq : QueueOk w ns) (r sd : Bool) (o : OwnerPc) :
    QueueOk { w with running := r, shutdownRequested := sd, owner := o } ns :=
  ⟨hq.rep, hq.size, hq.tail, hq.held, hq.ids⟩

theorem Inv.queue_setCtl (hi : Inv lleAsyncMaxQueueSize w) (r sd : Bool) (o : OwnerPc) :
    ∃ ns, QueueOk { w with running := r, shutdownRequested := sd, owner := o } ns :=
  let ⟨ns, hq⟩ := hi.queue
  ⟨ns, hq.setCtl r sd o⟩

theorem Inv.init (heap : Ptr → AsyncRequest) :
    Inv lleAsyncMaxQueueSize (lleAsyncWorkerInit heap) :=
  ⟨⟨[], .nil, rfl, rfl, nofun, rfl⟩, Nat.zero_le _, rfl, rfl, rfl, fun h => absurd rfl h, nofun,
    nofun, nofun⟩

/-- The worker thread, when it is running, keeps the owner out of `creating` and `joined`. -/
theorem Inv.owner_of_thread (hi : Inv lleAsyncMaxQueueSize w) (ht : w.thread ≠ .absent) :
    w.owner ≠ .creating ∧ w.owner ≠ .joined :=
  ⟨fun h => ht (hi.creating h).1, fun h => ht (hi.joined h)⟩

theorem Inv.submit (hi : Inv lleAsyncMaxQueueSize w) {p : Ptr} (hp : ¬ w.Owns p) :
    Inv lleAsyncMaxQueueSize (lleAsyncWorkerSubmit lleAsyncMaxQueueSize w p).2 := by
  unfold lleAsyncWorkerSubmit
  split
  · exact hi
  next hrun =>
  split
  · exact hi
  have hsd : w.shutdownRequested = false := (by simpa using hrun : w.running ∧ _).2
  obtain ⟨ns, hq⟩ := hi.queue
  refine ⟨⟨_, hq.enqueue hp⟩, by simp [AsyncWorker.enqueue]; omega,
    by simp [AsyncWorker.enqueue, hi.count]; omega, ?_, by simp [AsyncWorker.enqueue, hi.nextId],
    hi.threadRunning, hi.creating, hi.joined, fun h => absurd (hi.exited h).1 (by simp [hsd])⟩
  show w.acceptedIds ++ [w.nextRequestId] = List.range' 1 (w.acceptedIds ++ [w.nextRequestId]).length
  rw [List.length_append, List.length_singleton, List.range'_concat, ← hi.accepted, hi.nextId]
  simp [Nat.add_comm]

theorem Inv.take (hi : Inv lleAsyncMaxQueueSize w) (ht : w.thread = .top) {w' : AsyncWorker}
    (h : workerTake w = some w') : Inv lleAsyncMaxQueueSize w' := by
  have hrun := hi.threadRunning (by simp [ht])
  have ho := hi.owner_of_thread (by simp [ht])
  obtain ⟨ns, hq⟩ := hi.queue
  unfold workerTake at h
  split at h
  next p hh =>
    cases h
    obtain ⟨ps, rfl, hq'⟩ := hq.dequeue hh ht
    refine ⟨⟨ps, hq'⟩, (Nat.sub_le _ _).trans hi.bound, ?_, hi.accepted, hi.nextId,
      fun _ => hrun, fun h => absurd h ho.1, fun h => absurd h ho.2, nofun⟩
    simp [AsyncWorker.dequeue, WorkerPc.inFlight, hi.count, ht, hq.size]
    omega
  next hh =>
    split at h
    · cases h
      refine ⟨⟨ns, hq.setThread (by simp [ht, WorkerPc.held]) .exited rfl _⟩, hi.bound,
        by simpa [ht, WorkerPc.inFlight] using hi.count, hi.accepted, hi.nextId, fun _ => hrun,
        fun h => absurd h ho.1, fun h => absurd h ho.2, fun _ => ⟨‹_›, hh⟩⟩
    · cases h

theorem Inv.complete (hi : Inv lleAsyncMaxQueueSize w) {p : Ptr} (ht : w.thread = .dispatching p)
    (r : LleResult) : Inv lleAsyncMaxQueueSize (workerComplete r p w) := by
  obtain ⟨ns, hq⟩ := hi.queue
  have ho := hi.owner_of_thread (by simp [ht])
  refine ⟨⟨ns, hq.rep, hq.size, hq.tail, fun q hq' => hq.held q (by simpa [ht] using hq'), ?_⟩,
    hi.bound, ?_, hi.accepted, hi.nextId, fun _ => hi.threadRunning (by simp [ht]),
    fun h => absurd h ho.1, fun h => absurd h ho.2, nofun⟩
  · simpa [workerComplete, WorkerPc.heldIds, ht] using hq.ids
  · simp [workerComplete, WorkerPc.inFlight, hi.count, ht]; omega

theorem Inv.notify (hi : Inv lleAsyncMaxQueueSize w) {p : Ptr} {resp : AsyncResponse}
    (ht : w.thread = .notifying p resp) : Inv lleAsyncMaxQueueSize (workerNotify resp w) := by
  obtain ⟨ns, hq⟩ := hi.queue
  have ho := hi.owner_of_thread (by simp [ht])
  refine ⟨⟨ns, hq.rep, hq.size, hq.tail, nofun, ?_⟩, hi.bound, ?_, hi.accepted, hi.nextId,
    fun _ => hi.threadRunning (by simp [ht]), fun h => absurd h ho.1, fun h => absurd h ho.2, nofun⟩
  · simpa [workerNotify, WorkerPc.heldIds, ht] using hq.ids
  · simpa [workerNotify, WorkerPc.inFlight, ht] using hi.count

theorem Inv.shutdown (hi : Inv lleAsyncMaxQueueSize w) :
    Inv lleAsyncMaxQueueSize (lleAsyncWorkerShutdown w) :=
  ⟨hi.queue_setCtl _ _ _, hi.bound, hi.count, hi.accepted, hi.nextId, hi.threadRunning, hi.creating,
    hi.joined, fun h => ⟨rfl, (hi.exited h).2⟩⟩

theorem Inv.startLocked (hi : Inv lleAsyncMaxQueueSize w) {w' : AsyncWorker}
    (h : startLocked w = .ok w') : Inv lleAsyncMaxQueueSize w' := by
  unfold Lush.startLocked at h
  split at h
  · cases h
  · cases h
    have habsent : w.thread = .absent := by
      by_contra hne
      simp_all [hi.threadRunning hne]
    exact ⟨hi.queue_setCtl _ _ _, hi.bound, hi.count, hi.accepted, hi.nextId, fun _ => rfl,
      fun _ => ⟨habsent, rfl⟩, nofun, fun h => absurd (habsent ▸ h : WorkerPc.absent = .exited) nofun⟩

theorem Inv.startCreated (hi : Inv lleAsyncMaxQueueSize w) (ho : w.owner = .creating) (ok : Bool) :
    Inv lleAsyncMaxQueueSize (startCreated ok w).2 := by
  obtain ⟨habsent, hrun⟩ := hi.creating ho
  obtain ⟨ns, hq⟩ := hi.queue
  unfold Lush.startCreated
  split
  · refine ⟨⟨ns, hq.setThread (by simp [habsent, WorkerPc.held]) .top rfl _⟩, hi.bound,
      by simpa [habsent, WorkerPc.inFlight] using hi.count, hi.accepted, hi.nextId, fun _ => hrun,
      nofun, nofun, nofun⟩
  · exact ⟨⟨ns, hq.setCtl _ _ _⟩, hi.bound, hi.count, hi.accepted, hi.nextId, fun h => absurd habsent h,
      nofun, nofun, fun h => absurd (habsent ▸ h : WorkerPc.absent = .exited) nofun⟩

theorem Inv.waitLocked (hi : Inv lleAsyncMaxQueueSize w) :
    Inv lleAsyncMaxQueueSize (waitLocked w) := by
  unfold Lush.waitLocked
  split
  · exact ⟨hi.queue_setCtl _ _ _, hi.bound, hi.count, hi.accepted, hi.nextId, hi.threadRunning, nofun, nofun,
      hi.exited⟩
  · exact hi

theorem Inv.waitJoined (hi : Inv lleAsyncMaxQueueSize w) (ht : w.thread = .exited) :
    Inv lleAsyncMaxQueueSize (waitJoined w) := by
  obtain ⟨ns, hq⟩ := hi.queue
  exact ⟨⟨ns, hq.setThread (by simp [ht, WorkerPc.held]) .absent rfl _⟩,
    hi.bound, by simpa [ht, WorkerPc.inFlight] using hi.count, hi.accepted, hi.nextId,
    fun h => absurd rfl h, nofun, fun _ => rfl, nofun⟩

theorem Inv.waitDone (hi : Inv lleAsyncMaxQueueSize w) (ho : w.owner = .joined) :
    Inv lleAsyncMaxQueueSize (waitDone w) :=
  ⟨hi.queue_setCtl _ _ _, hi.bound, hi.count, hi.accepted, hi.nextId, fun h => absurd (hi.joined ho) h, nofun,
    nofun, fun h => absurd ((hi.joined ho).symm.trans h) nofun⟩

/-- Every step keeps the invariant. -/
theorem Inv.step (hi : Inv lleAsyncMaxQueueSize w) {w' : AsyncWorker}
    (hs : Step lleAsyncMaxQueueSize w w') : Inv lleAsyncMaxQueueSize w' := by
  cases hs with
  | submit p hp => exact hi.submit hp
  | shutdown => exact hi.shutdown
  | startLocked _ h => exact hi.startLocked h
  | startCreated ok ho => exact hi.startCreated ho ok
  | waitLocked _ => exact hi.waitLocked
  | waitJoined _ ht => exact hi.waitJoined ht
  | waitDone ho => exact hi.waitDone ho
  | take ht h => exact hi.take ht h
  | complete r p ht => exact hi.complete ht r
  | notify p resp ht => exact hi.notify ht

/-- Every reachable state satisfies the invariant. -/
theorem Reachable.inv {w : AsyncWorker} (h : Reachable lleAsyncMaxQueueSize w) :
    Inv lleAsyncMaxQueueSize w := by
  induction h with
  | init heap => exact .init heap
  | step _ hs ih => exact ih.step hs

/-- No step touches `total_timeouts`. -/
theorem Step.totalTimeouts_eq {w w' : AsyncWorker} (hs : Step lleAsyncMaxQueueSize w w') :
    w'.totalTimeouts = w.totalTimeouts := by
  cases hs with
  | submit p _ =>
    unfold lleAsyncWorkerSubmit
    split_ifs <;> rfl
  | startLocked _ h =>
    unfold Lush.startLocked at h
    split at h <;> cases h
    rfl
  | startCreated ok _ =>
    unfold Lush.startCreated
    split <;> rfl
  | waitLocked _ =>
    unfold Lush.waitLocked
    split <;> rfl
  | take _ h =>
    unfold workerTake at h
    split at h
    · cases h
      rfl
    · split at h <;> cases h
      rfl
  | _ => rfl

/-- `total_timeouts` stays `0` in every reachable state. -/
theorem Reachable.totalTimeouts {w : AsyncWorker} (h : Reachable lleAsyncMaxQueueSize w) :
    w.totalTimeouts = 0 := by
  induction h with
  | init heap => rfl
  | step _ hs ih => rw [hs.totalTimeouts_eq, ih]

/-! ## Main results -/

/-- The request heap of the sample run: every record blank. -/
def sampleHeap : Ptr → AsyncRequest := fun _ => ⟨.gitStatus, 0, none, 0, []⟩

/-- A worker started with room for four requests, after request `7` was submitted. -/
def sampleRun : AsyncWorker :=
  (lleAsyncWorkerSubmit 4 (startCreated true
    { lleAsyncWorkerInit sampleHeap with
      running := true
      shutdownRequested := false
      owner := .creating }).2 7).2

theorem sampleRun_reachable : Reachable 4 sampleRun :=
  .step (.step (.step (.init sampleHeap) (.startLocked rfl rfl)) (.startCreated true rfl))
    (.submit 7 (by rintro (h | h) <;> cases h))

/-- The sample worker with requests `8` and `9` submitted after `7`: request `7`
processed, `8` being dispatched and `9` queued. -/
def sampleBusy : AsyncWorker :=
  let w := (lleAsyncWorkerSubmit 4 (lleAsyncWorkerSubmit 4 sampleRun 8).2 9).2
  let w := workerComplete .success 7 (w.dequeue 7)
  (workerNotify ⟨1, .success⟩ w).dequeue 8

theorem sampleBusy_reachable : Reachable 4 sampleBusy :=
  .step (.step (.step (.step (.step (.step sampleRun_reachable
    (.submit 8 (by rintro ((_ | ⟨_, _, ⟨⟩⟩) | h); cases h)))
    (.submit 9 (by rintro ((_ | ⟨_, _, _ | ⟨_, _, ⟨⟩⟩⟩) | h); cases h))) (.take rfl rfl))
    (.complete .success 7 rfl)) (.notify 7 _ rfl)) (.take rfl rfl)

/-- The sample worker once shutdown is requested, with request `7` still queued. -/
def sampleShutdown : AsyncWorker := lleAsyncWorkerShutdown sampleRun

/-- The sample worker after its thread has drained the queue and returned, the
owner having meanwhile entered `lle_async_worker_wait`. -/
def sampleDrained : AsyncWorker :=
  { workerNotify ⟨(sampleShutdown.heap 7).id, dispatchResult .success (sampleShutdown.heap 7).type⟩
      (workerComplete .success 7 (waitLocked (sampleShutdown.dequeue 7))) with thread := .exited }

theorem sampleDrained_reachable : Reachable 4 sampleDrained :=
  .step (.step (.step (.step (.step (.step sampleRun_reachable .shutdown) (.take rfl rfl)) (.waitLocked rfl))
    (.complete .success 7 rfl)) (.notify 7 _ rfl)) (.take rfl rfl)

/-- `lle_async_worker_submit` either accepts, enqueueing `p`, or returns an error
and leaves every field as it was. -/
theorem lleAsyncWorkerSubmit_cases (w : AsyncWorker) (p : Ptr) :
    lleAsyncWorkerSubmit lleAsyncMaxQueueSize w p = (.success, w.enqueue p) ∨
      ((lleAsyncWorkerSubmit lleAsyncMaxQueueSize w p).1 ≠ .success ∧
        (lleAsyncWorkerSubmit lleAsyncMaxQueueSize w p).2 = w) := by
  unfold lleAsyncWorkerSubmit
  split_ifs <;> simp

/-- The request `submit` accepts carries the id it was given. -/
@[simp] theorem enqueue_heap_id_self (w : AsyncWorker) (p : Ptr) :
    ((w.enqueue p).heap p).id = w.nextRequestId := by
  simp [AsyncWorker.enqueue]

/-- **Queue shape and accounting.**  In every reachable state `queue_size`
counts the nodes reachable from `queue_head`, `queue_tail` is the last of them
(NULL exactly when the head is), the size is within `LLE_ASYNC_MAX_QUEUE_SIZE`,
and every request counted in `total_requests` is completed, queued or in flight. -/
theorem reachable_queue_invariant {w : AsyncWorker} (h : Reachable lleAsyncMaxQueueSize w) :
    ∃ ns, QueueRep w.heap w.queueHead ns ∧ w.queueSize = ns.length ∧ w.queueTail = ns.getLast? ∧
      (w.queueTail = none ↔ w.queueHead = none) ∧ w.queueSize ≤ lleAsyncMaxQueueSize ∧
      w.totalRequests = w.totalCompleted + w.queueSize + w.thread.inFlight := by
  have hi := h.inv
  obtain ⟨ns, hq⟩ := hi.queue
  refine ⟨ns, hq.rep, hq.size, hq.tail, ?_, hi.bound, hi.count⟩
  rw [hq.tail, hq.rep.head_eq_none_iff, List.getLast?_eq_none_iff]

theorem reachable_queue_invariant_sample :
    Reachable 4 sampleBusy ∧
      ∃ ns, QueueRep sampleBusy.heap sampleBusy.queueHead ns ∧ sampleBusy.queueSize = ns.length ∧
        sampleBusy.queueTail = ns.getLast? ∧ (sampleBusy.queueTail = none ↔ sampleBusy.queueHead = none) ∧
        sampleBusy.queueSize ≤ 4 ∧
        sampleBusy.totalRequests = sampleBusy.totalCompleted + sampleBusy.queueSize + sampleBusy.thread.inFlight :=
  ⟨sampleBusy_reachable, reachable_queue_invariant sampleBusy_reachable⟩

/-- **Ids in order, none lost.**  In every reachable state the accepted ids are
`1, 2, …, n`; the next submission is accepted with id `n + 1` or rejected with no
change at all; the ids the worker has processed are a prefix of the accepted
ones, with none repeated; and once the worker thread has exited it has processed
every accepted request. -/
theorem reachable_ids_in_order {w : AsyncWorker} (h : Reachable lleAsyncMaxQueueSize w) :
    w.acceptedIds = List.range' 1 w.acceptedIds.length ∧
    (∀ p r w', lleAsyncWorkerSubmit lleAsyncMaxQueueSize w p = (r, w') →
      (r = .success ∧ w'.acceptedIds = w.acceptedIds ++ [w.acceptedIds.length + 1] ∧
        (w'.heap p).id = w.acceptedIds.length + 1) ∨ (r ≠ .success ∧ w' = w)) ∧
    w.processedIds <+: w.acceptedIds ∧ w.processedIds.Nodup ∧
    (w.thread = .exited → w.processedIds = w.acceptedIds) := by
  have hi := h.inv
  obtain ⟨ns, hq⟩ := hi.queue
  have hpre : w.processedIds <+: w.acceptedIds := ⟨_, by rw [hq.ids, List.append_assoc]⟩
  refine ⟨hi.accepted, fun p r w' hs => ?_, hpre,
    (hpre.sublist.nodup (hi.accepted ▸ List.nodup_range' 1 _)), fun hx => ?_⟩
  · rcases lleAsyncWorkerSubmit_cases w p with hok | ⟨hne, hw⟩
    · rw [hok, Prod.mk.injEq] at hs
      obtain ⟨rfl, rfl⟩ := hs
      exact .inl ⟨rfl, by simp [AsyncWorker.enqueue, hi.nextId], by simp [hi.nextId]⟩
    · rw [hs] at hne hw
      exact .inr ⟨hne, hw⟩
  · have hns : ns = [] := hq.rep.head_eq_none_iff.mp (hi.exited hx).2
    simpa [hns, hx, WorkerPc.heldIds] using hq.ids.symm


theorem reachable_ids_in_order_sample :
    Reachable 4 sampleDrained ∧
      sampleDrained.acceptedIds = List.range' 1 sampleDrained.acceptedIds.length ∧
      (∀ p r w', lleAsyncWorkerSubmit 4 sampleDrained p = (r, w') →
        (r = .success ∧ w'.acceptedIds = sampleDrained.acceptedIds ++ [sampleDrained.acceptedIds.length + 1] ∧
          (w'.heap p).id = sampleDrained.acceptedIds.length + 1) ∨ (r ≠ .success ∧ w' = sampleDrained)) ∧
      sampleDrained.processedIds <+: sampleDrained.acceptedIds ∧ sampleDrained.processedIds.Nodup ∧
      (sampleDrained.thread = .exited → sampleDrained.processedIds = sampleDrained.acceptedIds) :=
  ⟨sampleDrained_reachable, reachable_ids_in_order sampleDrained_reachable⟩

end Lush
