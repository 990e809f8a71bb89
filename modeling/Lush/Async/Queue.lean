import Lush.Basic

/-!
# The async worker's request queue

Requests live in a heap of `lle_async_request_t` records, addressed by `Ptr`.
The worker's queue is the singly linked list that starts at `queue_head` and
follows `next` until NULL.  `QueueRep heap head nodes` says that this walk
visits exactly `nodes` and ends; `InQueue heap head p` says that it meets `p`.

The list operations of the worker write at most two records, and the lemmas
below say what happens to the walk:

* `QueueRep.frame`: a write to a record off the walk changes nothing;
* `QueueRep.link`: setting the last node's `next` to a node whose `next` is
  NULL appends that node to the walk;
* `QueueRep.nodup`: a walk that ends visits no node twice.
-/

namespace Lush

/-- A request's address. -/
abbrev Ptr := Nat

/-- `lle_async_request_type_t`: the two kinds the worker dispatches on, and any
other value. -/
inductive AsyncRequestType
  | gitStatus
  | custom
  | unknown
deriving DecidableEq, Repr

/-- The fields of `lle_async_request_t` the worker reads and writes. -/
structure AsyncRequest where
  type : AsyncRequestType
  id : Nat
  next : Option Ptr
  timeoutMs : UInt32
  /-- The C string in the array `cwd`. -/
  cwd : List UInt8

/-- The walk from `head` along `next` visits exactly `nodes`, then reaches NULL. -/
inductive QueueRep (heap : Ptr → AsyncRequest) : Option Ptr → List Ptr → Prop
  | nil : QueueRep heap none []
  | cons (p : Ptr) (ps : List Ptr) : QueueRep heap (heap p).next ps → QueueRep heap (some p) (p :: ps)

/-- The walk from `head` along `next` meets `p`. -/
inductive InQueue (heap : Ptr → AsyncRequest) : Option Ptr → Ptr → Prop
  | here (p : Ptr) : InQueue heap (some p) p
  | later (q p : Ptr) : InQueue heap (heap q).next p → InQueue heap (some q) p

variable {heap : Ptr → AsyncRequest} {head : Option Ptr} {ns : List Ptr}

theorem QueueRep.unique {ns' : List Ptr} (h : QueueRep heap head ns)
    (h' : QueueRep heap head ns') : ns = ns' := by
  induction h generalizing ns' with
  | nil => cases h'; rfl
  | cons p ps _ ih => cases h' with | cons _ ps' hr => rw [ih hr]

/-- On a represented queue, meeting `p` is membership in the node list. -/
theorem QueueRep.inQueue_iff (h : QueueRep heap head ns) (p : Ptr) :
    InQueue heap head p ↔ p ∈ ns := by
  induction h with
  | nil => exact ⟨(nomatch ·), (nomatch ·)⟩
  | cons q ps _ ih =>
    constructor
    · rintro (_ | ⟨_, _, hl⟩)
      · exact List.mem_cons_self _ _
      · exact List.mem_cons_of_mem _ (ih.mp hl)
    · intro hm
      rcases List.mem_cons.mp hm with rfl | hm
      · exact .here _
      · exact .later _ _ (ih.mpr hm)

/-- Only the walk from NULL is empty. -/
theorem QueueRep.nil_inv (h : QueueRep heap head []) : head = none := by
  cases h; rfl

/-- The walk from any node on it is strictly shorter than the whole walk. -/
theorem QueueRep.from_mem (h : QueueRep heap head ns) {q : Ptr} (hq : q ∈ ns) :
    ∃ rest, QueueRep heap (heap q).next rest ∧ rest.length < ns.length := by
  induction h with
  | nil => cases hq
  | cons p ps hr ih =>
    rcases List.mem_cons.mp hq with rfl | hq
    · exact ⟨ps, hr, by simp⟩
    · obtain ⟨rest, hrest, hlen⟩ := ih hq
      exact ⟨rest, hrest, by simp; omega⟩

/-- A walk that reaches NULL visits no node twice. -/
theorem QueueRep.nodup (h : QueueRep heap head ns) : ns.Nodup := by
  induction h with
  | nil => exact List.nodup_nil
  | cons p ps hr ih =>
    refine List.nodup_cons.mpr ⟨fun hp => ?_, ih⟩
    obtain ⟨rest, hrest, hlen⟩ := hr.from_mem hp
    rw [hr.unique hrest] at hlen
    exact lt_irrefl _ hlen

/-- A write to a record the walk does not visit leaves the walk as it was. -/
theorem QueueRep.frame (h : QueueRep heap head ns) {q : Ptr} (hq : q ∉ ns) (r : AsyncRequest) :
    QueueRep (Function.update heap q r) head ns := by
  induction h with
  | nil => exact .nil
  | cons p ps _ ih =>
    simp only [List.mem_cons, not_or] at hq
    refine .cons p ps ?_
    rw [Function.update_noteq (Ne.symm hq.1)]
    exact ih hq.2

/-- A node whose `next` is NULL is a queue of one. -/
theorem QueueRep.single {p : Ptr} (hp : (heap p).next = none) : QueueRep heap (some p) [p] :=
  .cons p [] (hp ▸ .nil)

/-- Setting `next` of the last node `t` to a node `p` off the walk whose `next`
is NULL appends `p` to the walk. -/
theorem QueueRep.link (h : QueueRep heap head ns) {t p : Ptr} (ht : ns.getLast? = some t)
    (hp : p ∉ ns) (hnext : (heap p).next = none) :
    QueueRep (Function.update heap t { heap t with next := some p }) head (ns ++ [p]) := by
  induction h with
  | nil => cases ht
  | cons q qs hr ih =>
    have hpq : p ≠ q := fun e => hp (e ▸ List.mem_cons_self _ _)
    cases qs with
    | nil =>
      obtain rfl : q = t := by simpa using ht
      refine .cons _ [p] ?_
      rw [Function.update_same]
      exact .single (by rw [Function.update_noteq hpq, hnext])
    | cons q' qs' =>
      have htq : t ≠ q := by
        rintro rfl
        exact List.nodup_cons.mp (QueueRep.cons t _ hr).nodup |>.1
          (List.mem_of_getLast?_eq_some (by simpa using ht))
      refine .cons q _ ?_
      rw [Function.update_noteq htq.symm]
      exact ih (by simpa using ht) (fun hm => hp (List.mem_cons_of_mem _ hm))

end Lush
