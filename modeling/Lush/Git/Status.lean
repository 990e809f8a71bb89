import Lush.Git.Capture
import Lush.Git.Quote
import Lush.Prompt.Color
import Lush.Async.Worker

/-!
# `lle_async_get_git_status`

The git status provider of the async worker runs up to eight git commands
through `git_command_in_dir`, each in a child of its own: the repository check,
the branch, the commit, `symbolic-ref`, `status --porcelain`, the ahead/behind
counts and the git directory.  Each call's child is given by the call's number
and arguments (`children`), so every pattern of outcomes across the calls,
timeouts included, is one choice of children.  `run_git_in_dir` folds each
result into one flag: the command exited `0` and did not time out.

Main result:

* **`lleAsyncGetGitStatus_timeout_succeeds`**: when the repository check times
  out, the request still succeeds, as a status saying "not a repository"; and no
  step of the worker ever changes `total_timeouts` from `0`.

The porcelain walk is compared with the status lines in `Lush.Git.Porcelain`.
-/

namespace Lush

/-- `GIT_CMD_ASYNC_TIMEOUT_MS`. -/
def gitCmdAsyncTimeoutMs : UInt32 := 5000

/-- `git_command_in_dir(dir, args, output, output_size, timeout_ms)` for
non-NULL `dir` and `args`: the result, the C string in the output buffer
(`none` when the call does not write it), and the world after. -/
def gitCommandInDir (fuel : Nat) (dir args : List UInt8) (output : Option Nat) (timeoutMs : UInt32)
    (w : SysWorld) : Except Halt (GitCmdResult × Option (List UInt8) × SysWorld) :=
  match gitCommandInDirCmd dir args with
  | none => .ok (⟨-1, false⟩, none, w)
  | some cmd => gitCommandWithTimeout fuel (some cmd) output timeoutMs w

/-- `run_git_in_dir`: whether the command exited `0` without timing out, and the
C string in the output buffer.  Every buffer the provider passes starts empty. -/
def runGitInDir (fuel : Nat) (dir args : List UInt8) (output : Option Nat) (timeoutMs : UInt32)
    (w : SysWorld) : Except Halt (Bool × List UInt8) :=
  (gitCommandInDir fuel dir args output timeoutMs w).map fun (r, s, _) =>
    (!r.timedOut && r.exitStatus == 0, s.getD [])

/-- A command `run_git_in_dir` counts as run leaves in the buffer the first
`output_size - 1` bytes its child writes, read as a C string and trimmed. -/
theorem runGitInDir_output {fuel n : Nat} {dir args : List UInt8} {timeoutMs : UInt32} {w : SysWorld}
    {s : List UInt8} (hn0 : 0 < n) (hn : n < 2 ^ 64)
    (h : runGitInDir fuel dir args (some n) timeoutMs w = .ok (true, s)) :
    s = trimTrailingNewlines (cStr (w.pending.take (n - 1))) := by
  unfold runGitInDir gitCommandInDir at h
  split at h
  · cases h
  · rcases hg : gitCommandWithTimeout fuel _ (some n) timeoutMs w with _ | ⟨res, s', w'⟩ <;> rw [hg] at h
    · cases h
    · simp only [Except.map, Except.ok.injEq, Prod.mk.injEq, Bool.and_eq_true, Bool.not_eq_true',
        beq_iff_eq] at h
      rw [← h.2, gitCommandWithTimeout_output hn0 hn hg h.1.2]
      rfl

/-- `lle_git_status_data_t`. -/
structure GitStatusData where
  isGitRepo : Bool
  isDetached : Bool
  branch : List UInt8
  commit : List UInt8
  stagedCount : Nat
  unstagedCount : Nat
  untrackedCount : Nat
  ahead : Int
  behind : Int
  isMerging : Bool
  isRebasing : Bool
deriving DecidableEq, Repr

/-- The status after `memset(status, 0, sizeof(*status))`. -/
def GitStatusData.zero : GitStatusData := ⟨false, false, [], [], 0, 0, 0, 0, 0, false, false⟩

/-! ## The porcelain walk -/

/-- The three counts of the porcelain walk. -/
structure PorcelainCounts where
  untracked : Nat
  staged : Nat
  unstaged : Nat
deriving DecidableEq, Repr

/-- The body of the porcelain loop at `line`: `line[0] == '?'` counts an
untracked entry; otherwise, when `line[0]` and `line[1]` are not NUL, a
`line[0]` other than space and `?` counts a staged entry and a `line[1]` other
than space and `?` an unstaged one. -/
def porcelainLine (line : List UInt8) (c : PorcelainCounts) : PorcelainCounts :=
  if cur line = 0x3F then { c with untracked := c.untracked + 1 }
  else if cur line ≠ 0 ∧ cur line.tail ≠ 0 then
    { c with
      staged := if cur line ≠ 0x20 ∧ cur line ≠ 0x3F then c.staged + 1 else c.staged
      unstaged := if cur line.tail ≠ 0x20 ∧ cur line.tail ≠ 0x3F then c.unstaged + 1 else c.unstaged }
  else c

/-- The porcelain loop, `while (*line)`.  At the start of a line (`atStart`)
it stops at the NUL, else counts the line; inside a line it moves on to the
byte after the `\n` that `strchr(line, '\n')` finds, and stops when the string
ends first. -/
def porcelainScan : Bool → List UInt8 → PorcelainCounts → PorcelainCounts
  | _, [], c => c
  | true, b :: s, c =>
    if b = 0 then c
    else if b = 0x0A then porcelainScan true s (porcelainLine (b :: s) c)
    else porcelainScan false s (porcelainLine (b :: s) c)
  | false, b :: s, c =>
    if b = 0 then c
    else if b = 0x0A then porcelainScan true s c
    else porcelainScan false s c

/-- The porcelain loop from the start of the buffer. -/
def porcelainWalk (line : List UInt8) (c : PorcelainCounts) : PorcelainCounts := porcelainScan true line c

/-! ## The provider -/

/-- One `%d` conversion of `sscanf`: white space, an optional sign and decimal
digits, read as `strtol` reads them and stored into an `int`. -/
def scanDecimal (s : List UInt8) : Option (Int × List UInt8) :=
  let (neg, _, t) := scanSign 0 (s.dropWhile isSpace)
  let ds := t.takeWhile isDigit
  if ds.isEmpty then none
  else
    let v : Int := ds.foldl (fun a d => a * 10 + (d.toNat - 0x30)) 0
    some (wrapInt (max (-2 ^ 63) (min (2 ^ 63 - 1) (if neg then -v else v))), t.drop ds.length)

/-- `sscanf(ahead_behind, "%d %d", &status->ahead, &status->behind)`: each
conversion that succeeds stores its value. -/
def sscanfAheadBehind (s : List UInt8) (st : GitStatusData) : GitStatusData :=
  match scanDecimal s with
  | none => st
  | some (a, rest) =>
    match scanDecimal rest with
    | none => { st with ahead := a }
    | some (b, _) => { st with ahead := a, behind := b }

/-- The path of `suffix` in the git directory, as `snprintf` builds it into
1024 bytes: `git_dir` itself when absolute, else below `cwd`. -/
def gitDirPath (cwd gitDir suffix : List UInt8) : List UInt8 :=
  snprintfStr 1024 (if gitDir.head? = some 0x2F then gitDir ++ suffix else cStr cwd ++ [0x2F] ++ gitDir ++ suffix)

section Provider

variable (fuel : Nat) (children : Nat → List UInt8 → SysWorld) (pathExists : List UInt8 → Bool)
  (branchSize commitSize : Nat)

/-- `run_git_in_dir` as the `i`-th command of one query, in its own child. -/
def probe (cwd : List UInt8) (timeoutMs : UInt32) (i : Nat) (args : List UInt8) (output : Option Nat) :
    Except Halt (Bool × List UInt8) :=
  runGitInDir fuel cwd args output timeoutMs (children i args)

/-- The status `lle_async_get_git_status` fills in after its NULL check, with
the timeout already defaulted; `branchSize` and `commitSize` are the sizes of
the two arrays of `lle_git_status_data_t`.  Every command's child is the
`children` entry of its number and arguments. -/
def gitStatusData (cwd : List UInt8) (t : UInt32) : Except Halt GitStatusData := do
  let (inRepo, _) ← probe fuel children cwd t 0 (lit "rev-parse --git-dir") none
  if !inRepo then return { GitStatusData.zero with isGitRepo := false }
  let (okBranch, branch) ← probe fuel children cwd t 1 (lit "branch --show-current") (some branchSize)
  -- might be detached HEAD: the commit now, else after `symbolic-ref`
  let (n, commit) ← if okBranch then pure (2, []) else do
    let (_, commit) ← probe fuel children cwd t 2 (lit "rev-parse --short HEAD") (some commitSize)
    pure (3, commit)
  let (okHead, _) ← probe fuel children cwd t n (lit "symbolic-ref HEAD") (some 256)
  let (n, commit) ← if commit = [] then do
      let (_, commit) ← probe fuel children cwd t (n + 1) (lit "rev-parse --short HEAD") (some commitSize)
      pure (n + 2, commit)
    else pure (n + 1, commit)
  let (okPorcelain, porcelain) ← probe fuel children cwd t n (lit "status --porcelain") (some 8192)
  let counts := if okPorcelain then porcelainWalk porcelain ⟨0, 0, 0⟩ else ⟨0, 0, 0⟩
  let (okAheadBehind, aheadBehind) ← probe fuel children cwd t (n + 1)
    (lit "rev-list --left-right --count HEAD...@\x7bupstream\x7d") (some 64)
  let (okGitDir, gitDir) ← probe fuel children cwd t (n + 2) (lit "rev-parse --git-dir") (some 512)
  let st : GitStatusData :=
    { GitStatusData.zero with
      isGitRepo := true, isDetached := !okHead, branch := branch, commit := commit,
      stagedCount := counts.staged, unstagedCount := counts.unstaged, untrackedCount := counts.untracked }
  let st := if okAheadBehind then sscanfAheadBehind aheadBehind st else st
  return if okGitDir then
      { st with
        isMerging := pathExists (gitDirPath cwd gitDir (lit "/MERGE_HEAD")),
        isRebasing := pathExists (gitDirPath cwd gitDir (lit "/rebase-merge")) ||
          pathExists (gitDirPath cwd gitDir (lit "/rebase-apply")) }
    else st

/-- `lle_async_get_git_status(cwd, timeout_ms, status)` with `status` the
response's payload: the result and the status, or how the run stopped. -/
def lleAsyncGetGitStatus (cwd : Option (List UInt8)) (timeoutMs : UInt32) :
    Except Halt (LleResult × GitStatusData) :=
  match cwd with
  | none => .ok (.errorInvalidParameter, GitStatusData.zero)
  | some cwd =>
    (gitStatusData fuel children pathExists branchSize commitSize cwd
      (if timeoutMs = 0 then gitCmdAsyncTimeoutMs else timeoutMs)).map fun st => (.success, st)

/-- A child that writes nothing, keeps its output open and ends on `SIGTERM`
times out `git_command_in_dir` before the `read()`. -/
theorem gitCommandInDir_silent_times_out {dir args cmd : List UInt8} (hcmd : gitCommandInDirCmd dir args = some cmd)
    (output : Option Nat) (timeoutMs : UInt32) :
    ∃ w', gitCommandInDir fuel dir args output timeoutMs (stallingChild []) =
      .ok (⟨-1, true⟩, outputString output [], w') := by
  simp only [gitCommandInDir, hcmd]
  exact ⟨_, rfl⟩

/-- **A timed-out request succeeds.**  For every directory whose command fits
in `cmd[1024]`, every timeout, fuel and path test, and every choice of
children in which the repository check's child writes nothing and keeps its
output open: that check times out, `run_git_in_dir` reads the timeout as "not a
repository", and `lle_async_get_git_status` returns `LLE_SUCCESS` with an empty
status.  No step of the worker changes `total_timeouts`, so it is `0` in every
reachable state. -/
theorem lleAsyncGetGitStatus_timeout_succeeds (cwd : List UInt8)
    (hcmd : gitCommandInDirCmd cwd (lit "rev-parse --git-dir") ≠ none) (timeoutMs : UInt32)
    (hc : children 0 (lit "rev-parse --git-dir") = stallingChild []) :
    (∃ w', gitCommandInDir fuel cwd (lit "rev-parse --git-dir") none
        (if timeoutMs = 0 then gitCmdAsyncTimeoutMs else timeoutMs) (children 0 (lit "rev-parse --git-dir")) =
          .ok (⟨-1, true⟩, none, w')) ∧
      lleAsyncGetGitStatus fuel children pathExists branchSize commitSize (some cwd) timeoutMs =
        .ok (.success, GitStatusData.zero) ∧
      (∀ (w : AsyncWorker) p, (w.heap p).type = .gitStatus →
        (workerComplete LleResult.success p w).thread = .notifying p ⟨(w.heap p).id, .success⟩) ∧
      ∀ lleAsyncMaxQueueSize w, Reachable lleAsyncMaxQueueSize w → w.totalTimeouts = 0 := by
  obtain ⟨cmd, hcmd'⟩ := Option.ne_none_iff_exists'.mp hcmd
  obtain ⟨w', hw'⟩ := gitCommandInDir_silent_times_out fuel hcmd' none
    (if timeoutMs = 0 then gitCmdAsyncTimeoutMs else timeoutMs)
  rw [hc]
  refine ⟨⟨w', hw'⟩, ?_, fun w p hp => by simp only [workerComplete, dispatchResult, hp],
    fun _ _ h => h.totalTimeouts⟩
  have hprobe : probe fuel children cwd (if timeoutMs = 0 then gitCmdAsyncTimeoutMs else timeoutMs) 0
      (lit "rev-parse --git-dir") none = .ok (false, []) := by
    simp only [probe, runGitInDir, hc, hw']
    rfl
  simp only [lleAsyncGetGitStatus, gitStatusData, hprobe]
  rfl

end Provider

theorem lleAsyncGetGitStatus_timeout_succeeds_repo :
    gitCommandInDirCmd (lit "/repo") (lit "rev-parse --git-dir") ≠ none ∧
      (fun _ _ => stallingChild []) 0 (lit "rev-parse --git-dir") = stallingChild [] ∧
      ((∃ w', gitCommandInDir 1 (lit "/repo") (lit "rev-parse --git-dir") none
          (if (0 : UInt32) = 0 then gitCmdAsyncTimeoutMs else 0)
          ((fun _ _ => stallingChild []) 0 (lit "rev-parse --git-dir")) = .ok (⟨-1, true⟩, none, w')) ∧
        lleAsyncGetGitStatus 1 (fun _ _ => stallingChild []) (fun _ => false) 256 64 (some (lit "/repo")) 0 =
          .ok (.success, GitStatusData.zero) ∧
        (∀ (w : AsyncWorker) p, (w.heap p).type = .gitStatus →
          (workerComplete LleResult.success p w).thread = .notifying p ⟨(w.heap p).id, .success⟩) ∧
        ∀ lleAsyncMaxQueueSize w, Reachable lleAsyncMaxQueueSize w → w.totalTimeouts = 0) :=
  ⟨by decide, rfl, lleAsyncGetGitStatus_timeout_succeeds 1 (fun _ _ => stallingChild []) (fun _ => false) 256 64
    (lit "/repo") (by decide) 0 rfl⟩

end Lush
