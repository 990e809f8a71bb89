import Lush.Basic

/-!
# The git child and its pipe, as the parent's system calls see them

`git_command_with_timeout` forks `/bin/sh -c cmd` and reads its stdout through
a pipe.  A `SysWorld` is everything the parent's calls depend on: the bytes
written and not yet read, whether the child still holds the write end, what the
child does while the parent waits (each act after a delay), how each `read()`
goes (interrupted by a signal, or returning some of what is there), whether the
`select()` fails and with which `errno`, how the child answers `SIGTERM`,
whether and how it exits on its own, which blocking `waitpid()` calls a signal
interrupts, and `errno`.  Every call is logged, with its outcome, in the order the parent makes
it; a call that never returns is logged as `blocked`.

`read()` returns what is there, or `0` once the write end is closed and the
pipe empty; with the write end open and nothing there it waits for the child's
next act, and blocks for good if the child does nothing more.  `select()`
waits at most its timeout for the same.  `SIGKILL` ends the child, but not at
once: a blocking `waitpid()` made right after it waits for the child to die,
and a signal can interrupt that wait like any other.

Main results:

* **`sysRead_errno`**, **`sysSelect_errno`**, **`sysWaitpid_errno`**,
  **`sysKill_errno`**: only a failing call (`read`, `select` or `waitpid`
  returning `-1`, a `kill` of a reaped child) writes `errno`.
-/

namespace Lush

/-- `EINTR`, with its Linux value. -/
def eintr : Nat := 4

/-- `ESRCH`: no such process. -/
def esrch : Nat := 3

/-- `ECHILD`: no child to wait for. -/
def echild : Nat := 10

/-- `SIGKILL`. -/
def sigkill : Nat := 9

/-- `SIGTERM`. -/
def sigterm : Nat := 15

/-- What the child does while the parent waits: write bytes, or close its end. -/
inductive ChildAct
  | write (bytes : List UInt8)
  | close
deriving DecidableEq, Repr

/-- How the next `read()` goes: interrupted by a signal before it transfers
anything, or returning at most `k` bytes (at least one) of what is there. -/
inductive ReadStep
  | intr
  | upTo (k : Nat)
deriving DecidableEq, Repr

/-- How a child ended, as its wait status says. -/
inductive WaitStatus
  | exited (code : Nat)
  | signaled (sig : Nat)
deriving DecidableEq, Repr

/-- The child, as `kill` and `waitpid` see it. -/
inductive ProcState
  | running
  /-- Sent `SIGKILL`, and not yet dead. -/
  | killed
  | zombie (st : WaitStatus)
  | reaped
deriving DecidableEq, Repr

/-- What one `read()` comes to. -/
inductive ReadOutcome
  /-- `n > 0` bytes. -/
  | bytes (data : List UInt8)
  /-- `n == 0`: end of file. -/
  | eof
  /-- `n == -1`, with `errno` set. -/
  | fail
  /-- The call never returns. -/
  | blocked
deriving DecidableEq, Repr

/-- The value `read()` returns; a call that never returns stands as `0`. -/
def ReadOutcome.ret : ReadOutcome → Int
  | .bytes d => d.length
  | .eof => 0
  | .fail => -1
  | .blocked => 0

/-- What one `waitpid()` comes to. -/
inductive WaitOutcome
  /-- The child's pid: it is reaped, with this status. -/
  | child (st : WaitStatus)
  /-- `0` under `WNOHANG`: the child is still running. -/
  | stillRunning
  /-- `-1`, with `errno` set. -/
  | fail
  /-- The call never returns. -/
  | blocked
deriving DecidableEq, Repr

/-- A call of the parent, with its outcome. -/
inductive SysCall
  | pipe (ok : Bool)
  | fork (ok : Bool)
  | select (ret : Int)
  | sleep
  | read (requested : Nat) (out : ReadOutcome)
  | kill (sig : Nat)
  | waitpid (nohang : Bool) (out : WaitOutcome)
deriving DecidableEq, Repr

/-- The world the parent's calls act on. -/
structure SysWorld where
  pipeOk : Bool
  forkOk : Bool
  avail : List UInt8
  writerOpen : Bool
  later : List (Nat × ChildAct)
  readSched : List ReadStep
  /-- The `errno` the `select()` fails with; `none` if it returns. -/
  selectFail : Option Nat
  proc : ProcState
  /-- The status the child exits with on its own; `none` if it never does. -/
  exitCode : Option Nat
  /-- Whether `SIGTERM` ends the child within the 100 ms grace. -/
  termExits : Bool
  /-- For each blocking `waitpid`, whether a signal interrupts it. -/
  waitSched : List Bool
  errno : Nat
  log : List SysCall
deriving DecidableEq, Repr

namespace SysWorld

/-- The world with one more call logged. -/
def record (w : SysWorld) (c : SysCall) : SysWorld := { w with log := w.log ++ [c] }

@[simp] theorem record_log (w : SysWorld) (c : SysCall) : (w.record c).log = w.log ++ [c] := rfl
@[simp] theorem record_errno (w : SysWorld) (c : SysCall) : (w.record c).errno = w.errno := rfl

end SysWorld

/-- One act of the child on the pipe. -/
def ChildAct.apply (avail : List UInt8) (writerOpen : Bool) : ChildAct → List UInt8 × Bool
  | .write bytes => (avail ++ bytes, writerOpen)
  | .close => (avail, false)

/-- The pipe can be read without waiting: bytes are there, or the write end is closed. -/
def readable (avail : List UInt8) (writerOpen : Bool) : Bool := !avail.isEmpty || !writerOpen

/-- Waiting in `read()`: the child's acts until the pipe is readable, `none` if
that never happens. -/
def readWait : List UInt8 → Bool → List (Nat × ChildAct) →
    Option (List UInt8 × Bool × List (Nat × ChildAct))
  | avail, o, [] => if readable avail o then some (avail, o, []) else none
  | avail, o, (d, act) :: more =>
    if readable avail o then some (avail, o, (d, act) :: more)
    else readWait (act.apply avail o).1 (act.apply avail o).2 more

/-- Waiting in `select()` for at most `t` ms: whether the pipe became readable,
and the pipe and the child's remaining acts then. -/
def selectWait : Nat → List UInt8 → Bool → List (Nat × ChildAct) →
    Bool × List UInt8 × Bool × List (Nat × ChildAct)
  | _, avail, o, [] => (readable avail o, avail, o, [])
  | t, avail, o, (d, act) :: more =>
    if readable avail o then (true, avail, o, (d, act) :: more)
    else if d < t then selectWait (t - d) (act.apply avail o).1 (act.apply avail o).2 more
    else (false, avail, o, (d - t, act) :: more)

/-- At most how many bytes a `read()` asking for `r` returns under the read
schedule `sched`: at least one, or all `r` when the schedule says nothing. -/
def readChunk (sched : List ReadStep) (r : Nat) : Nat :=
  match sched with
  | .upTo k :: _ => max k 1
  | _ => r

/-- `read(fd, buf, r)` on the pipe, `r ≥ 1`. -/
def sysRead (w : SysWorld) (r : Nat) : ReadOutcome × SysWorld :=
  match w.readSched with
  | .intr :: rest => (.fail, { w with readSched := rest, errno := eintr }.record (.read r .fail))
  | sched =>
    let k := readChunk sched r
    match readWait w.avail w.writerOpen w.later with
    | none => (.blocked, w.record (.read r .blocked))
    | some (avail, o, later) =>
      let data := avail.take (min k r)
      let out := if data = [] then ReadOutcome.eof else .bytes data
      (out, { w with avail := avail.drop data.length, writerOpen := o, later := later,
                     readSched := sched.tail }.record (.read r out))

/-- `select()` on the pipe's read end with a timeout of `t` ms. -/
def sysSelect (w : SysWorld) (t : Nat) : Int × SysWorld :=
  match w.selectFail with
  | some e => (-1, { w with errno := e }.record (.select (-1)))
  | none =>
    let (ready, avail, o, later) := selectWait t w.avail w.writerOpen w.later
    let ret : Int := if ready then 1 else 0
    (ret, { w with avail := avail, writerOpen := o, later := later }.record (.select ret))

/-- `select(0, NULL, NULL, NULL, &tv)`: a sleep. -/
def sysSleep (w : SysWorld) : SysWorld := w.record .sleep

/-- `kill(pid, sig)`: `SIGTERM` ends a running child when the child lets it,
and `SIGKILL` always does, the child dying some time after the call; a child
that dies closes its end of the pipe. -/
def sysKill (w : SysWorld) (sig : Nat) : SysWorld :=
  match w.proc with
  | .running =>
    if sig = sigkill then { w with proc := .killed, writerOpen := false, later := [] }.record (.kill sig)
    else if w.termExits then
      { w with proc := .zombie (.signaled sig), writerOpen := false, later := [] }.record (.kill sig)
    else w.record (.kill sig)
  | .killed | .zombie _ => w.record (.kill sig)
  | .reaped => { w with errno := esrch }.record (.kill sig)

/-- `waitpid` on a child that has not exited yet and ends with `st`, or never
if `st = none`: under `WNOHANG` it is still running; a blocking wait waits for
it, unless a signal interrupts it first. -/
def waitLive (w : SysWorld) (nohang : Bool) (st : Option WaitStatus) : WaitOutcome × SysWorld :=
  if nohang then (.stillRunning, w.record (.waitpid nohang .stillRunning))
  else match w.waitSched with
    | true :: rest => (.fail, { w with waitSched := rest, errno := eintr }.record (.waitpid nohang .fail))
    | sched =>
      match st with
      | some st =>
        (.child st, { w with proc := .reaped, writerOpen := false, later := [],
                             waitSched := sched.tail }.record (.waitpid nohang (.child st)))
      | none => (.blocked, w.record (.waitpid nohang .blocked))

/-- `waitpid(pid, &status, nohang ? WNOHANG : 0)`.  A running child ends when
it exits on its own, a killed one by `SIGKILL`. -/
def sysWaitpid (w : SysWorld) (nohang : Bool) : WaitOutcome × SysWorld :=
  match w.proc with
  | .reaped => (.fail, { w with errno := echild }.record (.waitpid nohang .fail))
  | .zombie st => (.child st, { w with proc := .reaped }.record (.waitpid nohang (.child st)))
  | .running => waitLive w nohang (w.exitCode.map .exited)
  | .killed => waitLive w nohang (some (.signaled sigkill))

/-! ## `errno` -/

theorem sysRead_errno (w : SysWorld) (r : Nat) :
    (sysRead w r).1 = .fail ∨ (sysRead w r).2.errno = w.errno := by
  unfold sysRead
  split
  · exact .inl rfl
  · generalize readWait w.avail w.writerOpen w.later = waited
    rcases waited with _ | ⟨avail, o, later⟩ <;> exact .inr rfl

theorem sysSelect_errno (w : SysWorld) (t : Nat) :
    (sysSelect w t).1 < 0 ∨ (sysSelect w t).2.errno = w.errno := by
  unfold sysSelect
  split
  · exact .inl (show (-1 : Int) < 0 by decide)
  · exact .inr rfl

theorem waitLive_errno (w : SysWorld) (nohang : Bool) (st : Option WaitStatus) :
    (waitLive w nohang st).1 = .fail ∨ (waitLive w nohang st).2.errno = w.errno := by
  unfold waitLive
  split
  · exact .inr rfl
  · split
    · exact .inl rfl
    · split <;> exact .inr rfl

theorem sysWaitpid_errno (w : SysWorld) (nohang : Bool) :
    (sysWaitpid w nohang).1 = .fail ∨ (sysWaitpid w nohang).2.errno = w.errno := by
  unfold sysWaitpid
  split
  · exact .inl rfl
  · exact .inr rfl
  · exact waitLive_errno _ _ _
  · exact waitLive_errno _ _ _

theorem sysKill_errno (w : SysWorld) (sig : Nat) :
    w.proc = .reaped ∨ (sysKill w sig).errno = w.errno := by
  unfold sysKill
  split
  · split
    · exact .inr rfl
    · split <;> exact .inr rfl
  · exact .inr rfl
  · exact .inr rfl
  · next h => exact .inl h

end Lush
