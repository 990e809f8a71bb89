import Lush.Git.Runner

/-!
# What `read_all_available` captures

The bytes the parent can still read from the child are those in the pipe and
those the child writes before it closes its end (`SysWorld.pending`).  A
`select()` only waits, so it keeps them; an interrupted `read()` takes none;
a `read()` that returns data takes a prefix of them; one that returns `0`
finds none left.  Hence:

* **`readAllAvailable_capture`**: whenever `read_all_available` returns, it has
  stored the first `buf_size - 1` pending bytes, and returns their count;
* **`readLoopArray_eq`**, **`readAllAvailableArray_capture`**: over the caller's
  whole array, the loop makes the same calls, never stores outside the array,
  and leaves those bytes, a NUL, and the caller's other cells as they were;
* **`gitCommandWithTimeout_output`**: when `git_command_with_timeout` returns
  an exit status of `0`, the output buffer holds those bytes, read as a C
  string, with the trailing newlines trimmed.
-/

namespace Lush

/-- The bytes the child writes before it closes its end of the pipe. -/
def writesUntilClose : List (Nat × ChildAct) → List UInt8
  | [] => []
  | (_, .write b) :: more => b ++ writesUntilClose more
  | (_, .close) :: _ => []

/-- What a reader can still get from a pipe holding `avail`, whose write end is
open when `o`, with the child's acts `later` to come. -/
def pipeRest (avail : List UInt8) (o : Bool) (later : List (Nat × ChildAct)) : List UInt8 :=
  avail ++ if o then writesUntilClose later else []

/-- What the parent can still read from the child. -/
def SysWorld.pending (w : SysWorld) : List UInt8 := pipeRest w.avail w.writerOpen w.later

@[simp] theorem SysWorld.record_pending (w : SysWorld) (c : SysCall) : (w.record c).pending = w.pending := rfl

/-- The delay before an act does not change what it writes. -/
theorem pipeRest_delay (avail : List UInt8) (o : Bool) (d d' : Nat) (act : ChildAct)
    (more : List (Nat × ChildAct)) : pipeRest avail o ((d', act) :: more) = pipeRest avail o ((d, act) :: more) := by
  cases act <;> rfl

/-- An act of the child on a pipe that cannot be read yet keeps what can be read. -/
theorem pipeRest_apply {avail : List UInt8} {o : Bool} (h : readable avail o = false) (d : Nat)
    (act : ChildAct) (more : List (Nat × ChildAct)) :
    pipeRest (act.apply avail o).1 (act.apply avail o).2 more = pipeRest avail o ((d, act) :: more) := by
  obtain ⟨rfl, rfl⟩ : avail = [] ∧ o = true := by simpa [readable] using h
  cases act <;> simp [pipeRest, ChildAct.apply, writesUntilClose]

theorem readWait_pending {avail : List UInt8} {o : Bool} {later : List (Nat × ChildAct)}
    {a' : List UInt8} {o' : Bool} {l' : List (Nat × ChildAct)} (h : readWait avail o later = some (a', o', l')) :
    pipeRest a' o' l' = pipeRest avail o later ∧ readable a' o' = true := by
  induction later generalizing avail o with
  | nil =>
    simp only [readWait] at h
    split at h
    · cases h
      exact ⟨rfl, ‹_›⟩
    · cases h
  | cons a more ih =>
    obtain ⟨d, act⟩ := a
    simp only [readWait] at h
    split at h
    · cases h
      exact ⟨rfl, ‹_›⟩
    · obtain ⟨hp, hr⟩ := ih h
      exact ⟨hp.trans (pipeRest_apply (Bool.eq_false_iff.mpr ‹_›) d act more), hr⟩

theorem selectWait_pending (t : Nat) (avail : List UInt8) (o : Bool) (later : List (Nat × ChildAct)) :
    pipeRest (selectWait t avail o later).2.1 (selectWait t avail o later).2.2.1 (selectWait t avail o later).2.2.2 =
      pipeRest avail o later := by
  induction later generalizing t avail o with
  | nil => rfl
  | cons a more ih =>
    obtain ⟨d, act⟩ := a
    simp only [selectWait]
    split
    · rfl
    · split
      · exact (ih _ _ _).trans (pipeRest_apply (Bool.eq_false_iff.mpr ‹_›) d act more)
      · exact pipeRest_delay _ _ _ _ _ _

theorem sysSelect_pending (w : SysWorld) (t : Nat) : (sysSelect w t).2.pending = w.pending := by
  unfold sysSelect
  split
  · rfl
  · have h := selectWait_pending t w.avail w.writerOpen w.later
    generalize selectWait t w.avail w.writerOpen w.later = waited at h ⊢
    obtain ⟨_, _, _, _⟩ := waited
    exact h

/-- **One read.**  A `read()` of at most `r ≥ 1` bytes returns a prefix of the
pending bytes, no longer than `r`; or end of file, with nothing pending; or
fails with `EINTR`, taking nothing; or never returns. -/
theorem sysRead_spec {w w' : SysWorld} {r : Nat} {out : ReadOutcome} (hr : 0 < r) (h : sysRead w r = (out, w')) :
    (∃ d, out = .bytes d ∧ d.length ≤ r ∧ w.pending = d ++ w'.pending) ∨ (out = .eof ∧ w.pending = []) ∨
      (out = .fail ∧ w'.pending = w.pending ∧ w'.errno = eintr) ∨ out = .blocked := by
  unfold sysRead at h
  split at h
  · cases h
    exact .inr (.inr (.inl ⟨rfl, rfl, rfl⟩))
  · generalize hk : readChunk w.readSched r = k at h
    have hk1 : 0 < k := by
      subst hk
      unfold readChunk
      split <;> omega
    rcases hw : readWait w.avail w.writerOpen w.later with _ | ⟨a, o, l⟩ <;> simp only [hw] at h
    · cases h
      exact .inr (.inr (.inr rfl))
    obtain ⟨hp, hrd⟩ := readWait_pending hw
    have hpend : w.pending = pipeRest a o l := hp.symm
    split at h
    · -- nothing taken: the pipe is empty and closed
      next hnil =>
      cases h
      have ha : a = [] := (List.take_eq_nil_iff.mp hnil).resolve_left (by omega)
      subst ha
      have ho : o = false := by simpa [readable] using hrd
      subst ho
      exact .inr (.inl ⟨rfl, hpend⟩)
    · cases h
      refine .inl ⟨_, rfl, (List.length_take_le _ _).trans (Nat.min_le_right _ _), ?_⟩
      have hdrop : a.drop (a.take (min k r)).length = a.drop (min k r) := by
        rw [List.length_take]
        rcases le_total (min k r) a.length with hle | hle
        · rw [Nat.min_eq_left hle]
        · rw [Nat.min_eq_right hle, List.drop_length, List.drop_eq_nil_of_le hle]
      rw [hpend]
      show a ++ _ = a.take (min k r) ++ (a.drop (a.take (min k r)).length ++ _)
      rw [← List.append_assoc, hdrop, List.take_append_drop]
      rfl

/-! ## The reader's loop -/

/-- The main loop of `read_all_available` ends with the bytes it had, followed
by as many pending bytes as fit before the NUL. -/
theorem readLoop_capture {n : Nat} (hn : n < 2 ^ 64) :
    ∀ {fuel : Nat} {acc acc' : List UInt8} {w w' : SysWorld}, acc.length < n →
      readLoop n fuel acc w = .ok (acc', w') → acc' = acc ++ w.pending.take (n - 1 - acc.length)
  | 0, _, _, _, _, _, h => by cases h
  | fuel + 1, acc, acc', w, w', hacc, h => by
    have hroom := room_eq hacc hn
    by_cases h0 : n - 1 - acc.length = 0
    · -- the buffer is full: the drain loop keeps the bytes stored
      rw [readLoop_full (hroom.trans h0)] at h
      rcases hd : drainFull fuel w with _ | w2 <;> rw [hd] at h <;> cases h
      rw [h0, List.take_zero, List.append_nil]
    rcases hrd : sysRead w (n - 1 - acc.length) with ⟨out, w1⟩
    rcases sysRead_spec (Nat.pos_of_ne_zero h0) hrd with ⟨d, rfl, hd, hp⟩ | ⟨rfl, hp⟩ | ⟨rfl, hp, he⟩ | rfl
    · rw [readLoop_bytes hroom h0 hrd] at h
      have hlen : (acc ++ d).length < n := by rw [List.length_append]; omega
      rw [readLoop_capture hn hlen h, hp, List.take_append_eq_append_take, List.take_of_length_le hd,
        List.append_assoc, List.length_append, ← Nat.sub_sub]
    · rw [readLoop_eof hroom h0 hrd] at h
      cases h
      rw [hp, List.take_nil, List.append_nil]
    · rw [readLoop_intr hroom h0 hrd he] at h
      rw [← hp]
      exact readLoop_capture hn hacc h
    · rw [readLoop_blocked hroom h0 hrd] at h
      cases h

/-- **What `read_all_available` stores.**  For every buffer of `1 ≤ buf_size <
2^64` bytes, whenever the call returns it has stored the first `buf_size - 1`
bytes the child writes (all of them if fewer), and returns their count. -/
theorem readAllAvailable_capture {fuel n : Nat} {w w' : SysWorld} {k : Int} {acc : List UInt8}
    (hn0 : 0 < n) (hn : n < 2 ^ 64) (h : readAllAvailable fuel (some n) w = .ok (k, acc, w')) :
    acc = w.pending.take (n - 1) ∧ k = acc.length := by
  obtain ⟨m, rfl⟩ : ∃ m, n = m + 1 := ⟨n - 1, by omega⟩
  rw [readAllAvailable_buffer] at h
  rcases hr : readLoop (m + 1) fuel [] w with _ | ⟨acc0, w0⟩ <;> rw [hr] at h <;> cases h
  simpa using readLoop_capture hn (by simp) hr

/-! ## The caller's array

`readLoop` keeps only the bytes `buf[0..pos)`.  Over the whole array, a
`read()` stores through `buf + pos` and the call ends with `buf[pos] = '\0'`;
a store that would land outside the array ends the run in `none`. -/

/-- A store of `d` into `buf` from index `pos`: `read(fd, buf + pos, ...)`, or
`buf[pos] = '\0'` for `d = [0]`; `none` if a byte would land outside `buf`. -/
def storeAt (buf : List UInt8) (pos : Nat) (d : List UInt8) : Option (List UInt8) :=
  if pos + d.length ≤ buf.length then some (buf.take pos ++ d ++ buf.drop (pos + d.length)) else none

/-- The main loop of `read_all_available` on the caller's array `buf` of
`buf_size = buf.length` bytes, at index `pos`: the array and `pos` when the
loop breaks, or `none` if a `read()` stores outside the array. -/
def readLoopArray : Nat → List UInt8 → Nat → SysWorld →
    Except Halt (Option (List UInt8 × Nat) × SysWorld)
  | 0, _, _, _ => .error .outOfFuel
  | fuel + 1, buf, pos, w =>
    let remaining := sizeSub (sizeSub buf.length 1) pos
    if remaining = 0 then (drainFull fuel w).map (some (buf, pos), ·)
    else match sysRead w remaining with
      | (.bytes d, w') =>
        match storeAt buf pos d with
        | some buf' => readLoopArray fuel buf' ((pos + d.length) % 2 ^ 64) w'
        | none => .ok (none, w')
      | (.eof, w') => .ok (some (buf, pos), w')
      | (.fail, w') => if w'.errno = eintr then readLoopArray fuel buf pos w' else .ok (some (buf, pos), w')
      | (.blocked, w') => .error (.blocked w')

/-- `read_all_available(fd, buf, buf_size)` on the caller's array, `none` for a
NULL buffer and `buf_size` the array's length: the value it returns and the
array after, or `none` if a store lands outside the array. -/
def readAllAvailableArray (fuel : Nat) (buf : Option (List UInt8)) (w : SysWorld) :
    Except Halt (Option (Int × List UInt8) × SysWorld) :=
  match buf with
  | none | some [] => (drainCount fuel w 0).map fun (total, w') => (some (total, []), w')
  | some buf => (readLoopArray fuel buf 0 w).map fun (r, w') =>
      (r.bind fun (buf', pos) => (storeAt buf' pos [0]).map ((pos : Int), ·), w')

/-- An array of at least one byte goes to the main loop. -/
theorem readAllAvailableArray_array (fuel : Nat) (b : UInt8) (bs : List UInt8) (w : SysWorld) :
    readAllAvailableArray fuel (some (b :: bs)) w = (readLoopArray fuel (b :: bs) 0 w).map fun (r, w') =>
      (r.bind fun (buf', pos) => (storeAt buf' pos [0]).map ((pos : Int), ·), w') := rfl

/-- A store right after the bytes read so far, in front of the caller's cells,
extends the bytes read. -/
theorem storeAt_append {acc d buf0 : List UInt8} (h : acc.length + d.length ≤ buf0.length) :
    storeAt (acc ++ buf0.drop acc.length) acc.length d = some (acc ++ d ++ buf0.drop (acc ++ d).length) := by
  rw [storeAt, if_pos (by simp; omega), List.take_left, List.drop_append, List.drop_drop,
    List.length_append]

/-- **The array refines the bytes read.**  Started on an array that holds the
bytes read so far in front of the caller's cells, the loop over the array makes
the calls `readLoop` makes, never stores outside the array, and ends with the
bytes `readLoop` returns in front of the caller's cells and `pos` their count. -/
theorem readLoopArray_eq {buf0 : List UInt8} (hn : buf0.length < 2 ^ 64) :
    ∀ {fuel : Nat} {acc : List UInt8} {w : SysWorld}, acc.length < buf0.length →
      readLoopArray fuel (acc ++ buf0.drop acc.length) acc.length w =
        (readLoop buf0.length fuel acc w).map fun (acc', w') =>
          (some (acc' ++ buf0.drop acc'.length, acc'.length), w')
  | 0, _, _, _ => rfl
  | fuel + 1, acc, w, hacc => by
    have hlen : (acc ++ buf0.drop acc.length).length = buf0.length := by simp; omega
    rw [readLoopArray, readLoop, hlen]
    simp only [room_eq hacc hn]
    split_ifs with h0
    · cases drainFull fuel w <;> rfl
    rcases hrd : sysRead w (buf0.length - 1 - acc.length) with ⟨out, w1⟩
    rcases sysRead_spec (Nat.pos_of_ne_zero h0) hrd with ⟨d, rfl, hd, -⟩ | ⟨rfl, -⟩ | ⟨rfl, -, he⟩ | rfl
    · -- the bytes land in the array, right after those read before
      have hpos : (acc.length + d.length) % 2 ^ 64 = (acc ++ d).length := by
        rw [List.length_append]
        omega
      simp only [storeAt_append (show acc.length + d.length ≤ buf0.length by omega), hpos]
      exact readLoopArray_eq hn (by rw [List.length_append]; omega)
    · rfl
    · simp only [he, if_true]
      exact readLoopArray_eq hn hacc
    · rfl

/-- **What `read_all_available` leaves in the array.**  For every stream the
child writes, every way `read()` splits it or is interrupted by a signal, and
every array of `1 ≤ buf_size < 2^64` bytes: whenever the call returns, no store
landed outside the array (so `pos` stayed below `buf_size` and `remaining`
never wrapped), the array holds the first `buf_size - 1` bytes of the stream,
a NUL, and then the caller's cells as they were, and the call returns the count
`min |B| (buf_size - 1)`. -/
theorem readAllAvailableArray_capture {fuel : Nat} {buf : List UInt8} {w w' : SysWorld}
    {r : Option (Int × List UInt8)} (hn0 : 0 < buf.length) (hn : buf.length < 2 ^ 64)
    (h : readAllAvailableArray fuel (some buf) w = .ok (r, w')) :
    r = some (((min w.pending.length (buf.length - 1) : Nat) : Int),
      w.pending.take (buf.length - 1) ++ 0 :: buf.drop (min w.pending.length (buf.length - 1) + 1)) := by
  obtain ⟨b, bs, rfl⟩ : ∃ b bs, buf = b :: bs := List.exists_cons_of_length_pos hn0
  have hloop := @readLoopArray_eq (b :: bs) hn fuel [] w hn0
  simp only [List.nil_append, List.length_nil, List.drop_zero] at hloop
  rw [readAllAvailableArray_array, hloop] at h
  rcases hr : readLoop (b :: bs).length fuel [] w with _ | ⟨acc, w1⟩ <;> rw [hr] at h <;> cases h
  have hacc : acc = w.pending.take ((b :: bs).length - 1) := by
    simpa using readLoop_capture hn (by simp) hr
  have hk : acc.length = min w.pending.length ((b :: bs).length - 1) := by
    rw [hacc, List.length_take, Nat.min_comm]
  have hstore := @storeAt_append acc [0] (b :: bs) (by rw [hk, List.length_singleton]; omega)
  rw [← hk, ← hacc, Option.some_bind]
  dsimp only
  rw [hstore, Option.map_some']
  simp

/-- A child that has written `ab` and closed its stdout; the parent's first
read returns one byte and its second is interrupted by a signal. -/
def splitCapture : SysWorld :=
  ⟨true, true, lit "ab", false, [], [.upTo 1, .intr], none, .running, some 0, true, [], 0, []⟩

theorem readAllAvailableArray_capture_split :
    ∃ r w', 0 < (List.replicate 4 (0xFF : UInt8)).length ∧ (List.replicate 4 (0xFF : UInt8)).length < 2 ^ 64 ∧
      readAllAvailableArray 8 (some (List.replicate 4 0xFF)) splitCapture = .ok (r, w') ∧
      r = some (((min splitCapture.pending.length ((List.replicate 4 (0xFF : UInt8)).length - 1) : Nat) : Int),
        splitCapture.pending.take ((List.replicate 4 (0xFF : UInt8)).length - 1) ++
          0 :: (List.replicate 4 (0xFF : UInt8)).drop
            (min splitCapture.pending.length ((List.replicate 4 (0xFF : UInt8)).length - 1) + 1)) :=
  ⟨_, _, by decide, by decide, rfl, @readAllAvailableArray_capture 8 _ _ _ _ (by decide) (by decide) rfl⟩

/-! ## The output of `git_command_with_timeout` -/

/-- **What the output buffer holds.**  When `git_command_with_timeout` returns
an exit status of `0` on a buffer of `1 ≤ output_size < 2^64` bytes, the buffer
holds the first `output_size - 1` bytes the child wrote, read as a C string,
with the trailing newlines trimmed. -/
theorem gitCommandWithTimeout_output {fuel n : Nat} {cmd : List UInt8} {timeoutMs : UInt32} {w w' : SysWorld}
    {res : GitCmdResult} {s : Option (List UInt8)} (hn0 : 0 < n) (hn : n < 2 ^ 64)
    (h : gitCommandWithTimeout fuel (some cmd) (some n) timeoutMs w = .ok (res, s, w'))
    (hex : res.exitStatus = 0) : s = some (trimTrailingNewlines (cStr (w.pending.take (n - 1)))) := by
  obtain ⟨m, rfl⟩ : ∃ m, n = m + 1 := ⟨n - 1, by omega⟩
  rcases gitCommandWithTimeout_paths h with
    ⟨h1, -⟩ | ⟨t, _, w1, hsel, ⟨h1, -⟩ | ⟨_, acc, _, _, hra, -, rfl⟩⟩
  · omega
  · omega
  · -- the read path: `select()` keeps the pending bytes, and the read stores them
    have hp1 : w1.pending = w.pending := by
      rw [show w1 = (sysSelect _ t).2 by rw [hsel], sysSelect_pending]
      rfl
    rw [(readAllAvailable_capture (Nat.succ_pos m) hn hra).1, hp1]
    rfl

end Lush
