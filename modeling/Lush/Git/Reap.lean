import Lush.Git.Runner

/-!
# Which exits of `git_command_with_timeout` reap the child

`git_command_with_timeout` leaves by one of three doors once the child is
forked: a failed `select()`, a timeout, or the read path.  The first two call
`kill_child`, the third reaps in a loop that retries `waitpid` while it fails
with `EINTR`.  `kill_child`'s own blocking `waitpid` after `SIGKILL` is made
once, with no retry.

Main results:

* **`reapLoop_reaps`**: the final reap loop returns only with the child reaped.
* **`killChild_running`**: on a running child `kill_child` always returns, with
  the child reaped, unless the child outlives `SIGTERM` and a signal interrupts
  the blocking `waitpid` after `SIGKILL`; then it returns with the child killed
  and not reaped.
* **`gitCommandWithTimeout_reaps_unless_kill_interrupted`**: every return of
  the function after a successful fork leaves the child reaped, except that
  one.
* **`gitCommandWithTimeout_timeout_leaves_child_unreaped`**: a child that
  writes nothing, ignores `SIGTERM`, and whose reap after `SIGKILL` a signal
  interrupts, is left unreaped on the timeout path.
-/

namespace Lush

/-! ## One call at a time -/

@[simp] theorem sysSleep_proc (w : SysWorld) : (sysSleep w).proc = w.proc := rfl

theorem sysSelect_proc (w : SysWorld) (t : Nat) : (sysSelect w t).2.proc = w.proc := by
  unfold sysSelect
  split
  · rfl
  · generalize selectWait t w.avail w.writerOpen w.later = waited
    rcases waited with ⟨_, _, _, _⟩
    rfl

theorem waitLive_blocking_cases (w : SysWorld) (st : Option WaitStatus) :
    (waitLive w false st).1 = .blocked ∨ (waitLive w false st).2.proc = .reaped ∨
      ((waitLive w false st).1 = .fail ∧ (waitLive w false st).2.errno = eintr) := by
  unfold waitLive
  simp only [Bool.false_eq_true, if_false]
  split
  · exact .inr (.inr ⟨rfl, rfl⟩)
  · cases st
    · exact .inl rfl
    · exact .inr (.inl rfl)

/-- A blocking `waitpid` returns with the child reaped, fails with `EINTR`, or
never returns. -/
theorem sysWaitpid_blocking_cases (w : SysWorld) :
    (sysWaitpid w false).1 = .blocked ∨ (sysWaitpid w false).2.proc = .reaped ∨
      ((sysWaitpid w false).1 = .fail ∧ (sysWaitpid w false).2.errno = eintr) := by
  unfold sysWaitpid
  split
  · next h => exact .inr (.inl h)
  · exact .inr (.inl rfl)
  · exact waitLive_blocking_cases _ _
  · exact waitLive_blocking_cases _ _

/-! ## The final reap -/

/-- The reap loop of the read path returns only once the child is reaped. -/
theorem reapLoop_reaps {fuel : Nat} {w w' : SysWorld} {out : WaitOutcome}
    (h : reapLoop fuel w = .ok (out, w')) : w'.proc = .reaped := by
  induction fuel generalizing w with
  | zero => cases h
  | succ fuel ih =>
    have hc := sysWaitpid_blocking_cases w
    rw [reapLoop] at h
    rcases hres : sysWaitpid w false with ⟨o, w''⟩
    rw [hres] at h hc
    cases o with
    | blocked => cases h
    | fail =>
      simp only at h hc
      split at h
      · exact ih h
      · next he =>
        cases h
        exact hc.resolve_left nofun |>.resolve_right fun hf => he hf.2
    | child st =>
      cases h
      exact hc.resolve_left nofun |>.resolve_right fun hf => nomatch hf.1
    | stillRunning =>
      cases h
      exact hc.resolve_left nofun |>.resolve_right fun hf => nomatch hf.1

/-! ## `kill_child` -/

/-- The calls of `kill_child` when the child outlives `SIGTERM` and a signal
interrupts the blocking `waitpid` after `SIGKILL`. -/
def killInterrupted : List SysCall :=
  [.kill sigterm, .sleep, .waitpid true .stillRunning, .kill sigkill, .waitpid false .fail]

/-- **`kill_child` on a running child.**  It returns, with the child reaped,
or killed and not reaped when the child outlived `SIGTERM` and the wait after
`SIGKILL` was interrupted. -/
theorem killChild_running {w : SysWorld} (h : w.proc = .running) :
    ∃ w', killChild w = .ok w' ∧ (w'.proc = .reaped ∨
      (w'.proc = .killed ∧ w'.errno = eintr ∧ w'.log = w.log ++ killInterrupted)) := by
  have hterm : sigterm ≠ sigkill := by decide
  cases ht : w.termExits with
  | true =>
    -- the child exits within the grace, and the `WNOHANG` wait reaps it
    simp only [killChild, sysKill, sysSleep, sysWaitpid, h, hterm, ht, if_false, if_true]
    exact ⟨_, rfl, .inl rfl⟩
  | false =>
    -- the child is still running after the grace, and is sent `SIGKILL`
    simp only [killChild, sysKill, sysSleep, sysWaitpid, waitLive, h, hterm, ht, if_false, if_true,
      SysWorld.record, Bool.false_eq_true]
    rcases hs : w.waitSched with _ | ⟨_ | _, rest⟩
    · exact ⟨_, rfl, .inl rfl⟩
    · exact ⟨_, rfl, .inl rfl⟩
    · refine ⟨_, rfl, .inr ⟨rfl, rfl, ?_⟩⟩
      simp only [killInterrupted, List.append_assoc, List.cons_append, List.nil_append]

/-! ## Every exit of `git_command_with_timeout` -/

/-- **Who reaps the child.**  After a successful fork, the function returns
with the child reaped, or with it killed and not reaped, `exit_status = -1`,
and the last calls `kill_child`'s escalation ending in an interrupted wait. -/
theorem gitCommandWithTimeout_reaps_unless_kill_interrupted {fuel : Nat} {cmd : List UInt8}
    {output : Option Nat} {timeoutMs : UInt32} {w w' : SysWorld} {res : GitCmdResult}
    {s : Option (List UInt8)} (hp : w.pipeOk = true) (hf : w.forkOk = true) (h : w.proc = .running)
    (hr : gitCommandWithTimeout fuel (some cmd) output timeoutMs w = .ok (res, s, w')) :
    w'.proc = .reaped ∨
      (w'.proc = .killed ∧ res.exitStatus = -1 ∧ ∃ pre, w'.log = pre ++ killInterrupted) := by
  rcases gitCommandWithTimeout_paths hr with
    ⟨-, hpf | hpf⟩ | ⟨t, _, w1, hsel, ⟨h1, hk⟩ | ⟨_, _, _, _, -, hre, -⟩⟩
  · simp [hp] at hpf
  · simp [hf] at hpf
  · -- a kill path: what `kill_child` leaves is what the function returns
    have hrun : w1.proc = .running := by
      rw [← h, show w1 = (sysSelect _ t).2 by rw [hsel], sysSelect_proc]
      rfl
    obtain ⟨w2, hk2, hcase⟩ := killChild_running hrun
    rw [hk2] at hk
    cases hk
    exact hcase.imp_right fun ⟨hp, _, hl⟩ => ⟨hp, h1, _, hl⟩
  · -- the read path ends in the reap loop
    exact .inl (reapLoop_reaps hre)

/-- A child that writes `ok` and a newline, closes its output and exits `0`. -/
def okChild : SysWorld :=
  ⟨true, true, lit "ok\n", false, [], [], none, .running, some 0, true, [], 0, []⟩

theorem gitCommandWithTimeout_reaps_ok_child :
    okChild.pipeOk = true ∧ okChild.forkOk = true ∧ okChild.proc = .running ∧
      ∃ res s w', gitCommandWithTimeout 4 (some (lit "status")) (some 16) 0 okChild = .ok (res, s, w') ∧
        (w'.proc = .reaped ∨ (w'.proc = .killed ∧ res.exitStatus = -1 ∧ ∃ pre, w'.log = pre ++ killInterrupted)) :=
  ⟨rfl, rfl, rfl, _, _, _, rfl,
    @gitCommandWithTimeout_reaps_unless_kill_interrupted 4 (lit "status") (some 16) 0 okChild _ _ _ rfl rfl rfl rfl⟩

/-- A child that writes nothing, never exits on its own and ignores `SIGTERM`;
a signal interrupts the first blocking `waitpid` of the parent. -/
def termIgnoringChild : SysWorld :=
  ⟨true, true, [], true, [], [], none, .running, none, false, [true], 0, []⟩

/-- **A zombie on the timeout path.**  For every command, output buffer,
timeout and fuel: the `select()` times out, `kill_child` sends `SIGTERM`,
sleeps, finds the child still running, sends `SIGKILL`, and its one blocking
`waitpid` fails with `EINTR`.  The function returns `timed_out = true` with the
child killed and never reaped. -/
theorem gitCommandWithTimeout_timeout_leaves_child_unreaped (cmd : List UInt8) (output : Option Nat)
    (timeoutMs : UInt32) (fuel : Nat) :
    gitCommandWithTimeout fuel (some cmd) output timeoutMs termIgnoringChild =
      .ok (⟨-1, true⟩, outputString output [],
        { termIgnoringChild with
          writerOpen := false, proc := .killed, waitSched := [], errno := eintr,
          log := [.pipe true, .fork true, .select 0] ++ killInterrupted }) := by
  simp only [gitCommandWithTimeout, termIgnoringChild, Bool.not_true, Bool.false_eq_true, if_false]
  rfl

end Lush
