import Lush.Git.Syscall

/-!
# `read_all_available`, `kill_child` and `git_command_with_timeout`

The parent's side of the git subprocess runner, over the system-call world of
`Lush.Git.Syscall`.  Each loop of the source takes fuel; a run that needs more
than it is given ends in `Halt.outOfFuel`, and a call that never returns ends
it in `Halt.blocked` with the world as it stands, its log included.  So a
function that never returns is one that runs out of every fuel, or blocks.

Main results:

* **`gitCommandWithTimeout_paths`**: every return goes through a failed pipe or
  fork, a `select()` and `kill_child`, or a `select()`, the read and the reap.
* **`drainFull_spins`**: at end of file, once `errno` reads `EINTR`, the drain
  loop for a full buffer never stops.
* **`readAllAvailable_spins_at_eof`**: if the buffer fills exactly and one read
  before that was interrupted, `errno` is still `EINTR` when the drain loop
  reads end of file, and `read_all_available` never returns.
* **`readAllAvailable_stalls`**: on a pipe holding some bytes whose writer then
  hangs, the reader takes them and blocks in its next `read()`.
* **`gitCommandWithTimeout_blocks_in_second_read`**: a child that writes some
  output before the `select()` and then hangs with its stdout open leaves the
  parent blocked in a second `read()`, issued with no `select()` before it.
-/

namespace Lush

/-- Why a run stopped before the function returned: a call that never returns,
or the fuel bounding its loops ran out. -/
inductive Halt
  | blocked (w : SysWorld)
  | outOfFuel
deriving DecidableEq, Repr

/-- `size_t` subtraction. -/
def sizeSub (a b : Nat) : Nat := (a + (2 ^ 64 - b % 2 ^ 64)) % 2 ^ 64

theorem sizeSub_of_le {a b : Nat} (hb : b ≤ a) (ha : a < 2 ^ 64) : sizeSub a b = a - b := by
  unfold sizeSub
  omega

/-- `buf_size - 1 - pos` does not wrap while `pos < buf_size`. -/
theorem room_eq {n k : Nat} (hk : k < n) (hn : n < 2 ^ 64) : sizeSub (sizeSub n 1) k = n - 1 - k := by
  rw [sizeSub_of_le (by omega) hn, sizeSub_of_le (by omega) (by omega)]

/-! ## `read_all_available` -/

/-- The drain loop for a NULL or empty buffer: count until end of file or an
error other than `EINTR`. -/
def drainCount : Nat → SysWorld → Int → Except Halt (Int × SysWorld)
  | 0, _, _ => .error .outOfFuel
  | fuel + 1, w, total =>
    match sysRead w 256 with
    | (.bytes d, w') => drainCount fuel w' (total + d.length)
    | (.eof, w') => .ok (total, w')
    | (.fail, w') => if w'.errno = eintr then drainCount fuel w' total else .ok (total, w')
    | (.blocked, w') => .error (.blocked w')

/-- The drain loop once the buffer is full:
`if (n <= 0 && errno != EINTR) break;`. -/
def drainFull : Nat → SysWorld → Except Halt SysWorld
  | 0, _ => .error .outOfFuel
  | fuel + 1, w =>
    match sysRead w 256 with
    | (.blocked, w') => .error (.blocked w')
    | (out, w') => if out.ret ≤ 0 ∧ w'.errno ≠ eintr then .ok w' else drainFull fuel w'

/-- The main loop, with `acc` the bytes `buf[0..pos)`. -/
def readLoop (bufSize : Nat) : Nat → List UInt8 → SysWorld → Except Halt (List UInt8 × SysWorld)
  | 0, _, _ => .error .outOfFuel
  | fuel + 1, acc, w =>
    let remaining := sizeSub (sizeSub bufSize 1) acc.length
    if remaining = 0 then (drainFull fuel w).map (acc, ·)
    else match sysRead w remaining with
      | (.bytes d, w') => readLoop bufSize fuel (acc ++ d) w'
      | (.eof, w') => .ok (acc, w')
      | (.fail, w') => if w'.errno = eintr then readLoop bufSize fuel acc w' else .ok (acc, w')
      | (.blocked, w') => .error (.blocked w')

/-- `read_all_available(fd, buf, buf_size)`, with `buf = none` for a NULL buffer
and `some buf_size` otherwise: the value it returns, the bytes it stores before
the NUL, and the world after. -/
def readAllAvailable (fuel : Nat) (buf : Option Nat) (w : SysWorld) :
    Except Halt (Int × List UInt8 × SysWorld) :=
  match buf with
  | none | some 0 => (drainCount fuel w 0).map fun (total, w') => (total, [], w')
  | some n => (readLoop n fuel [] w).map fun (acc, w') => (acc.length, acc, w')

/-- A buffer of at least one byte goes to the main loop. -/
theorem readAllAvailable_buffer (fuel n : Nat) (w : SysWorld) :
    readAllAvailable fuel (some (n + 1)) w =
      (readLoop (n + 1) fuel [] w).map fun (acc, w') => (acc.length, acc, w') := rfl

section ReadLoop

/-! One turn of the main loop, one lemma for each way it goes. -/

variable {n fuel r : Nat} {acc : List UInt8} {w w' : SysWorld}

theorem readLoop_full (h : sizeSub (sizeSub n 1) acc.length = 0) :
    readLoop n (fuel + 1) acc w = (drainFull fuel w).map (acc, ·) := by
  simp only [readLoop, h, if_true]

theorem readLoop_bytes {d : List UInt8} (hroom : sizeSub (sizeSub n 1) acc.length = r) (h : r ≠ 0)
    (hr : sysRead w r = (.bytes d, w')) :
    readLoop n (fuel + 1) acc w = readLoop n fuel (acc ++ d) w' := by
  simp only [readLoop, hroom, h, if_false, hr]

theorem readLoop_intr (hroom : sizeSub (sizeSub n 1) acc.length = r) (h : r ≠ 0)
    (hr : sysRead w r = (.fail, w')) (he : w'.errno = eintr) :
    readLoop n (fuel + 1) acc w = readLoop n fuel acc w' := by
  simp only [readLoop, hroom, h, if_false, hr, he, if_true]

theorem readLoop_eof (hroom : sizeSub (sizeSub n 1) acc.length = r) (h : r ≠ 0)
    (hr : sysRead w r = (.eof, w')) :
    readLoop n (fuel + 1) acc w = .ok (acc, w') := by
  simp only [readLoop, hroom, h, if_false, hr]

theorem readLoop_blocked (hroom : sizeSub (sizeSub n 1) acc.length = r) (h : r ≠ 0)
    (hr : sysRead w r = (.blocked, w')) :
    readLoop n (fuel + 1) acc w = .error (.blocked w') := by
  simp only [readLoop, hroom, h, if_false, hr]

end ReadLoop

/-! ## `git_command_with_timeout` -/

/-- `git_cmd_result_t`. -/
structure GitCmdResult where
  exitStatus : Int
  timedOut : Bool
deriving DecidableEq, Repr

/-- `GIT_CMD_SYNC_TIMEOUT_MS`. -/
def gitCmdSyncTimeoutMs : Nat := 3000

/-- `kill_child`: `SIGTERM`, a 100 ms sleep, a `WNOHANG` reap, and if the child
is still running `SIGKILL` and a blocking reap. -/
def killChild (w : SysWorld) : Except Halt SysWorld :=
  match sysWaitpid (sysSleep (sysKill w sigterm)) true with
  | (.stillRunning, w) =>
    match sysWaitpid (sysKill w sigkill) false with
    | (.blocked, w) => .error (.blocked w)
    | (_, w) => .ok w
  | (_, w) => .ok w

/-- The final reap: `waitpid` again while it fails with `EINTR`. -/
def reapLoop : Nat → SysWorld → Except Halt (WaitOutcome × SysWorld)
  | 0, _ => .error .outOfFuel
  | fuel + 1, w =>
    match sysWaitpid w false with
    | (.blocked, w') => .error (.blocked w')
    | (.fail, w') => if w'.errno = eintr then reapLoop fuel w' else .ok (.fail, w')
    | (out, w') => .ok (out, w')

/-- The trailing-newline trim: drop `\n` and `\r` from the end. -/
def trimTrailingNewlines (s : List UInt8) : List UInt8 :=
  (s.reverse.dropWhile fun c => c = 0x0A || c = 0x0D).reverse

/-- The trim keeps a prefix of the text. -/
theorem trimTrailingNewlines_prefix_self (s : List UInt8) : trimTrailingNewlines s <+: s := by
  rw [trimTrailingNewlines, ← List.reverse_suffix, List.reverse_reverse]
  exact List.dropWhile_suffix _

/-- When something other than newlines ends the text, the trim stays in it. -/
theorem trimTrailingNewlines_append_of_ne {b : List UInt8} (h : trimTrailingNewlines b ≠ []) (a : List UInt8) :
    trimTrailingNewlines (a ++ b) = a ++ trimTrailingNewlines b := by
  rw [trimTrailingNewlines, ne_eq, List.reverse_eq_nil_iff] at h
  rw [trimTrailingNewlines, trimTrailingNewlines, List.reverse_append, List.dropWhile_append,
    if_neg (by simpa using h), List.reverse_append, List.reverse_reverse]

/-- Newlines only at the end are trimmed away with those before them. -/
theorem trimTrailingNewlines_append_of_eq {b : List UInt8} (h : trimTrailingNewlines b = []) (a : List UInt8) :
    trimTrailingNewlines (a ++ b) = trimTrailingNewlines a := by
  rw [trimTrailingNewlines, List.reverse_eq_nil_iff] at h
  rw [trimTrailingNewlines, trimTrailingNewlines, List.reverse_append, List.dropWhile_append,
    if_pos (by simpa using h)]

/-- What the output buffer holds as a C string once the function is done, when
it is a buffer (`output && output_size > 0`). -/
def outputString (output : Option Nat) (s : List UInt8) : Option (List UInt8) :=
  match output with
  | some (_ + 1) => some s
  | _ => none

/-- `git_command_with_timeout(cmd, output, output_size, timeout_ms)`, with
`cmd = none` for NULL and `output` as for `read_all_available`: the result, the
C string left in the output buffer, and the world after.  The child runs
`/bin/sh -c cmd`; what it does is the world's part. -/
def gitCommandWithTimeout (fuel : Nat) (cmd : Option (List UInt8)) (output : Option Nat)
    (timeoutMs : UInt32) (w : SysWorld) : Except Halt (GitCmdResult × Option (List UInt8) × SysWorld) :=
  let result : GitCmdResult := ⟨-1, false⟩
  match cmd with
  | none => .ok (result, none, w)
  | some _ =>
    let t := if timeoutMs = 0 then gitCmdSyncTimeoutMs else timeoutMs.toNat
    let cleared := outputString output []
    if !w.pipeOk then .ok (result, cleared, w.record (.pipe false))
    else if !w.forkOk then .ok (result, cleared, (w.record (.pipe true)).record (.fork false))
    else
      let (ready, w) := sysSelect ((w.record (.pipe true)).record (.fork true)) t
      if ready < 0 ∧ w.errno ≠ eintr then (killChild w).map fun w => (result, cleared, w)
      else if ready = 0 then (killChild w).map fun w => ({ result with timedOut := true }, cleared, w)
      else do
        let (_, acc, w) ← readAllAvailable fuel output w
        let (waited, w) ← reapLoop fuel w
        let exitStatus : Int := match waited with
          | .child (.exited c) => c
          | _ => -1
        pure (⟨exitStatus, false⟩, outputString output (trimTrailingNewlines (cStr acc)), w)

/-- **The exits of `git_command_with_timeout`** for a non-NULL command: no
pipe or no fork, with `exit_status = -1`; or a `select()`, then `kill_child`
with `exit_status = -1`, or `read_all_available` and the reap loop, with the
buffer holding the trimmed bytes read. -/
theorem gitCommandWithTimeout_paths {fuel : Nat} {cmd : List UInt8} {output : Option Nat}
    {timeoutMs : UInt32} {w w' : SysWorld} {res : GitCmdResult} {s : Option (List UInt8)}
    (h : gitCommandWithTimeout fuel (some cmd) output timeoutMs w = .ok (res, s, w')) :
    (res.exitStatus = -1 ∧ (w.pipeOk = false ∨ w.forkOk = false)) ∨
      ∃ t ready w1, sysSelect ((w.record (.pipe true)).record (.fork true)) t = (ready, w1) ∧
        ((res.exitStatus = -1 ∧ killChild w1 = .ok w') ∨
          ∃ k acc w2 waited, readAllAvailable fuel output w1 = .ok (k, acc, w2) ∧
            reapLoop fuel w2 = .ok (waited, w') ∧ s = outputString output (trimTrailingNewlines (cStr acc))) := by
  simp only [gitCommandWithTimeout] at h
  cases hp : w.pipeOk
  · simp only [hp, Bool.not_false, if_true, Except.ok.injEq, Prod.mk.injEq] at h
    exact .inl ⟨h.1 ▸ rfl, .inl rfl⟩
  cases hf : w.forkOk
  · simp only [hp, hf, Bool.not_false, Bool.not_true, Bool.false_eq_true, if_true, if_false, Except.ok.injEq,
      Prod.mk.injEq] at h
    exact .inl ⟨h.1 ▸ rfl, .inr rfl⟩
  simp only [hp, hf, Bool.not_true, Bool.false_eq_true, if_false] at h
  generalize (if timeoutMs = 0 then gitCmdSyncTimeoutMs else timeoutMs.toNat) = t at h
  generalize hsel : sysSelect ((w.record (.pipe true)).record (.fork true)) t = sel at h
  obtain ⟨ready, w1⟩ := sel
  refine .inr ⟨t, ready, w1, hsel, ?_⟩
  -- a kill path returns what `kill_child` leaves
  have hkill : ∀ r : GitCmdResult, r.exitStatus = -1 →
      (killChild w1).map (fun w => (r, outputString output [], w)) = .ok (res, s, w') →
      res.exitStatus = -1 ∧ killChild w1 = .ok w' := by
    intro r hr hk
    rcases hk2 : killChild w1 with _ | w2 <;> rw [hk2] at hk <;> cases hk
    exact ⟨hr, rfl⟩
  split at h
  · exact .inl (hkill _ rfl h)
  split at h
  · exact .inl (hkill _ rfl h)
  · -- the read path ends in the reap loop
    rcases hra : readAllAvailable fuel output w1 with _ | ⟨k, acc, w2⟩
    · simp only [hra] at h
      cases h
    rcases hre : reapLoop fuel w2 with _ | ⟨waited, w3⟩
    all_goals simp only [hra, hre, bind, Except.bind, pure, Except.pure] at h
    · cases h
    · cases h
      exact .inr ⟨k, acc, w2, waited, rfl, hre, rfl⟩

/-! ## Reads, one at a time -/

/-- An interrupted read. -/
theorem sysRead_intr {w : SysWorld} {rest : List ReadStep} (h : w.readSched = .intr :: rest) (r : Nat) :
    sysRead w r = (.fail, { w with readSched := rest, errno := eintr }.record (.read r .fail)) := by
  simp only [sysRead, h]

/-- A readable pipe does not wait. -/
theorem readWait_of_readable {avail : List UInt8} {o : Bool} (h : readable avail o)
    (acts : List (Nat × ChildAct)) : readWait avail o acts = some (avail, o, acts) := by
  cases acts with
  | nil => simp only [readWait, h, if_true]
  | cons a more => simp only [readWait, h, if_true]

/-- With no interruption scheduled, a read asking for at least what the pipe
holds takes all of it. -/
theorem sysRead_takes_all {w : SysWorld} (hs : w.readSched = []) (hb : w.avail ≠ []) {r : Nat}
    (hr : w.avail.length ≤ r) :
    sysRead w r = (.bytes w.avail, { w with avail := [] }.record (.read r (.bytes w.avail))) := by
  have hread : readable w.avail w.writerOpen := by
    simp [readable, hb]
  have htake : w.avail.take (min r r) = w.avail := by rw [min_self, List.take_of_length_le hr]
  cases w
  simp only at hs hb hread htake ⊢
  subst hs
  simp only [sysRead, readChunk, readWait_of_readable hread, htake, hb, if_false, List.drop_length, List.tail_nil]

/-- With no interruption scheduled, a read of an empty pipe whose writer hangs
without closing never returns. -/
theorem sysRead_stalls {w : SysWorld} (hs : w.readSched = []) (ha : w.avail = [])
    (ho : w.writerOpen = true) (hl : w.later = []) (r : Nat) :
    sysRead w r = (.blocked, w.record (.read r .blocked)) := by
  simp only [sysRead, hs, ha, ho, hl, readWait, readable, List.isEmpty_nil, Bool.not_true,
    Bool.or_self, Bool.false_eq_true, if_false]

/-- The pipe is at end of file: empty, and the child's end closed. -/
def AtEof (w : SysWorld) : Prop := w.avail = [] ∧ w.writerOpen = false

/-- At end of file, a read returns and the pipe stays at end of file; and if
`errno` reads `EINTR` or the read is interrupted, `errno` reads `EINTR` after
it: an interrupted read sets it, and a read of `0` bytes does not touch it. -/
theorem sysRead_at_eof {w : SysWorld} (h : AtEof w)
    (he : w.errno = eintr ∨ w.readSched.head? = some .intr) (r : Nat) :
    (sysRead w r).1 ≠ .blocked ∧ AtEof (sysRead w r).2 ∧ (sysRead w r).2.errno = eintr := by
  obtain ⟨ha, ho⟩ := h
  have hread : readable w.avail w.writerOpen := by simp only [readable, ho, Bool.not_false, Bool.or_true]
  unfold sysRead
  split
  · exact ⟨nofun, ⟨ha, ho⟩, rfl⟩
  · next hs =>
    rw [readWait_of_readable hread]
    simp only [ha, List.take_nil, if_true]
    refine ⟨nofun, ⟨rfl, ho⟩, he.resolve_right fun hi => ?_⟩
    obtain ⟨rest, hr⟩ := List.head?_eq_some_iff.mp hi
    exact hs rest hr

/-- One turn of the drain loop whose read returns. -/
theorem drainFull_succ {w : SysWorld} (h : (sysRead w 256).1 ≠ .blocked) (fuel : Nat) :
    drainFull (fuel + 1) w =
      if (sysRead w 256).1.ret ≤ 0 ∧ (sysRead w 256).2.errno ≠ eintr then .ok (sysRead w 256).2
      else drainFull fuel (sysRead w 256).2 := by
  rw [drainFull]
  generalize sysRead w 256 = res at h ⊢
  rcases res with ⟨_ | _ | _ | _, w'⟩
  all_goals first | rfl | exact absurd rfl h

/-- The drain loop never leaves a pipe at end of file once `errno` reads
`EINTR` or the next read is interrupted. -/
theorem drainFull_spins {w : SysWorld} (h : AtEof w)
    (he : w.errno = eintr ∨ w.readSched.head? = some .intr) (fuel : Nat) :
    drainFull fuel w = .error .outOfFuel := by
  induction fuel generalizing w with
  | zero => rfl
  | succ fuel ih =>
    obtain ⟨hnb, hinv, herr⟩ := sysRead_at_eof h he 256
    rw [drainFull_succ hnb, if_neg fun hc => hc.2 herr]
    exact ih hinv (.inl herr)

/-- A child that has written `b` and closed its stdout, and whose first read
the parent makes is interrupted by a signal; `errno` is `e` on entry. -/
def interruptedCapture (b : List UInt8) (e : Nat) : SysWorld :=
  ⟨true, true, b, false, [], [.intr], none, .running, some 0, true, [], e, []⟩

/-- **`read_all_available` spins at end of file.**  For any output `b`, a
buffer of exactly `b.length + 1` bytes and any `errno` on entry: the first read
is interrupted and sets `errno` to `EINTR`, the next takes all of `b` and fills
the buffer, and the drain loop then reads end of file with `errno` still
`EINTR`, so it never stops, whatever the fuel. -/
theorem readAllAvailable_spins_at_eof (b : List UInt8) (hb : b.length + 1 < 2 ^ 64) (e fuel : Nat) :
    readAllAvailable fuel (some (b.length + 1)) (interruptedCapture b e) = .error .outOfFuel := by
  rw [readAllAvailable_buffer]
  rcases fuel with _ | fuel
  · rfl
  by_cases h0 : b = []
  · -- no room at all: the interrupted read is the drain loop's first
    subst h0
    rw [readLoop_full (by decide), @drainFull_spins (interruptedCapture [] e) ⟨rfl, rfl⟩ (.inr rfl)]
    rfl
  have hstart : sizeSub (sizeSub (b.length + 1) 1) ([] : List UInt8).length = b.length := by
    rw [List.length_nil, room_eq (Nat.succ_pos _) hb]
    omega
  have hfull : sizeSub (sizeSub (b.length + 1) 1) b.length = 0 := by
    rw [room_eq (Nat.lt_succ_self _) hb]
    omega
  have hroom : b.length ≠ 0 := mt List.length_eq_zero.mp h0
  -- once `b` is in the buffer, the drain loop spins
  have hfilled : ∀ w fuel, AtEof w → w.errno = eintr →
      readLoop (b.length + 1) fuel b w = .error .outOfFuel
    | _, 0, _, _ => rfl
    | _, fuel + 1, heof, he => by
      rw [readLoop_full hfull, drainFull_spins heof (.inl he)]
      rfl
  -- the read after the interrupted one takes all of `b`
  have hread : ∀ w fuel, w.avail = b → w.writerOpen = false → w.readSched = [] → w.errno = eintr →
      readLoop (b.length + 1) fuel [] w = .error .outOfFuel
    | _, 0, _, _, _, _ => rfl
    | w, fuel + 1, ha, ho, hs, he => by
      subst ha
      rw [readLoop_bytes hstart hroom (sysRead_takes_all hs h0 le_rfl)]
      exact hfilled _ fuel ⟨rfl, ho⟩ he
  rw [readLoop_intr hstart hroom (@sysRead_intr (interruptedCapture b e) [] rfl _) rfl, hread _ fuel] <;> rfl

theorem readAllAvailable_spins_at_eof_one_byte :
    (lit "x").length + 1 < 2 ^ 64 ∧
      readAllAvailable 10 (some ((lit "x").length + 1)) (interruptedCapture (lit "x") 0) =
        .error .outOfFuel :=
  ⟨by decide, readAllAvailable_spins_at_eof (lit "x") (by decide) 0 10⟩

/-! ## A child that stalls -/

/-- A `select` that no signal interrupts returns `1` at once on a readable pipe. -/
theorem sysSelect_readable {w : SysWorld} (hi : w.selectFail = none)
    (hr : readable w.avail w.writerOpen) (t : Nat) :
    sysSelect w t = (1, w.record (.select 1)) := by
  have hwait : selectWait t w.avail w.writerOpen w.later = (true, w.avail, w.writerOpen, w.later) := by
    cases w.later with
    | nil => simp only [selectWait, hr]
    | cons a more => simp only [selectWait, hr, if_true]
  unfold sysSelect
  split
  · next h => exact absurd (hi ▸ h) nofun
  · simp only [hwait, if_true]

/-- The reader on a pipe holding `b` whose writer then hangs: the first read
takes `b`, and the second, made at once, never returns. -/
theorem readAllAvailable_stalls {w : SysWorld} (ha : w.avail ≠ []) (ho : w.writerOpen = true)
    (hl : w.later = []) (hs : w.readSched = []) {n : Nat} (hfit : w.avail.length + 1 < n)
    (hn : n < 2 ^ 64) (fuel : Nat) :
    readAllAvailable (fuel + 2) (some n) w =
      .error (.blocked (({ w with avail := [] }.record (.read (n - 1) (.bytes w.avail))).record
        (.read (n - 1 - w.avail.length) .blocked))) := by
  obtain ⟨m, rfl⟩ : ∃ m, n = m + 1 := ⟨n - 1, by omega⟩
  have hfirst : sizeSub (sizeSub (m + 1) 1) ([] : List UInt8).length = m + 1 - 1 := by
    rw [List.length_nil, room_eq (Nat.succ_pos _) hn]
    rfl
  rw [readAllAvailable_buffer, readLoop_bytes hfirst (by omega) (sysRead_takes_all hs ha (by omega)),
    List.nil_append]
  set w' := { w with avail := [] }.record (.read (m + 1 - 1) (.bytes w.avail))
  rw [readLoop_blocked (room_eq (Nat.lt_of_succ_lt hfit) hn) (by omega) (@sysRead_stalls w' hs rfl ho hl _)]
  rfl

/-- A child that has written `b` by the time the parent selects, and then hangs
with its stdout open: it writes nothing more and never exits. -/
def stallingChild (b : List UInt8) : SysWorld :=
  ⟨true, true, b, true, [], [], none, .running, none, true, [], 0, []⟩

/-- **A second read with no `select()` before it.**  The child writes some
bytes `b` that fit the buffer and then hangs.  The `select()` reports the pipe
readable, the first `read()` takes `b`, and the loop reads again at once, with
no `select()` and no deadline: the second `read()` never returns, whatever the
timeout. -/
theorem gitCommandWithTimeout_blocks_in_second_read (cmd : List UInt8) (n : Nat) (b : List UInt8)
    (hb : b ≠ []) (hfit : b.length + 1 < n) (hn : n < 2 ^ 64) (timeoutMs : UInt32) (fuel : Nat) :
    gitCommandWithTimeout (fuel + 2) (some cmd) (some n) timeoutMs (stallingChild b) =
      .error (.blocked { stallingChild b with
        avail := [],
        log := [.pipe true, .fork true, .select 1, .read (n - 1) (.bytes b),
          .read (n - 1 - b.length) .blocked] }) := by
  have hpipe : (stallingChild b).pipeOk = true := rfl
  have hfork : (stallingChild b).forkOk = true := rfl
  simp only [gitCommandWithTimeout, hpipe, hfork, Bool.not_true, Bool.false_eq_true, if_false]
  set w1 := ((stallingChild b).record (.pipe true)).record (.fork true)
  rw [@sysSelect_readable w1 rfl (show readable b true by simp [readable, hb])]
  simp only [show ¬(1 : Int) < 0 by decide, show ¬(1 : Int) = 0 by decide, false_and, if_false]
  set w2 := w1.record (.select 1)
  rw [@readAllAvailable_stalls w2 hb rfl rfl rfl n hfit hn fuel]
  rfl

theorem gitCommandWithTimeout_blocks_in_second_read_one_byte :
    lit "x" ≠ [] ∧ (lit "x").length + 1 < 64 ∧ 64 < 2 ^ 64 ∧
      gitCommandWithTimeout (0 + 2) (some (lit "git status")) (some 64) 0 (stallingChild (lit "x")) =
        .error (.blocked { stallingChild (lit "x") with
          avail := [],
          log := [.pipe true, .fork true, .select 1, .read (64 - 1) (.bytes (lit "x")),
            .read (64 - 1 - (lit "x").length) .blocked] }) :=
  ⟨by decide, by decide, by decide,
    gitCommandWithTimeout_blocks_in_second_read (lit "git status") 64 (lit "x") (by decide) (by decide)
      (by decide) 0 0⟩

end Lush
