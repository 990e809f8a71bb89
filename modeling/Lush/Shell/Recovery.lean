import Lush.Basic

/-!
# Error tracking and the three-tier reset

`lle_record_error` counts errors and hard-resets the editor at
`LLE_ERROR_THRESHOLD`; `lle_record_ctrl_g` counts Ctrl-G presses that come
within `LLE_CTRL_G_PANIC_WINDOW_US` of each other and hard-resets at
`LLE_CTRL_G_PANIC_COUNT`.  The three constants live in a header outside this
source set, so they are parameters (`Limits`); the two counts must be positive.

Over the code's state (`ShellIntegration`) we put the bookkeeping the reset
policy is stated in (`Tally`): errors since the last hard reset or counter
reset, and the position of each press in its streak.  `Refines` ties the two,
every operation keeps it (`Refines.step`), and along a whole run
(`runOps_refines`) it gives:

* **`recovery_counters`**: the counters stay below their thresholds, an error or
  a press triggers a hard reset exactly at the threshold of the tally, and the
  reset counters grow by one per hard and per nuclear reset.
-/

namespace Lush

/-- `LLE_ERROR_THRESHOLD`, `LLE_CTRL_G_PANIC_COUNT` and `LLE_CTRL_G_PANIC_WINDOW_US`. -/
structure Limits where
  errorThreshold : Nat
  ctrlGPanicCount : Nat
  ctrlGPanicWindowUs : UInt64
  errorThreshold_pos : 0 < errorThreshold
  ctrlGPanicCount_pos : 0 < ctrlGPanicCount

/-- The fields of `lle_editor_t` that the resets touch. -/
structure Editor where
  abortRequested : Bool
  /-- The contents of `editor->buffer`, when there is one. -/
  buffer : Option (List UInt8)
  historyNavigationPos : Nat
  historyNavSeenCount : Nat

/-- The fields of `lle_shell_integration_t` that error tracking and the resets use. -/
structure ShellIntegration where
  editor : Option Editor
  editorInitialized : Bool
  historyInitialized : Bool
  errorCount : Nat
  ctrlGCount : Nat
  lastCtrlGTimeUs : UInt64
  recoveryMode : Bool
  recoveryCount : Nat
  hardResetCount : Nat
  nuclearResetCount : Nat
  lastResetTimeUs : UInt64

/-- What a hard reset gets from outside: the clock, and the editor
`create_and_configure_editor` makes, or its error. -/
structure ResetEnv where
  now : UInt64
  created : Except LleResult Editor

/-- The integration as `lle_shell_integration_init` leaves it: its record comes
from `lle_arena_calloc`, so every counter is zero. -/
def ShellIntegration.fresh (editor : Option Editor) : ShellIntegration where
  editor := editor
  editorInitialized := editor.isSome
  historyInitialized := editor.isSome
  errorCount := 0
  ctrlGCount := 0
  lastCtrlGTimeUs := 0
  recoveryMode := false
  recoveryCount := 0
  hardResetCount := 0
  nuclearResetCount := 0
  lastResetTimeUs := 0

section Code

variable (L : Limits)

/-- `lle_soft_reset`: abort the current line, clear the buffer, restart history
navigation; no counter changes. -/
def lleSoftReset (s : ShellIntegration) : ShellIntegration :=
  { s with editor := s.editor.map fun e =>
      { e with abortRequested := true, buffer := e.buffer.map fun _ => [],
               historyNavigationPos := 0, historyNavSeenCount := 0 } }

/-- `destroy_editor`: free the editor and clear both flags; with no editor it
returns at once and leaves the flags as they are. -/
def destroyEditor (s : ShellIntegration) : ShellIntegration :=
  match s.editor with
  | some _ => { s with editor := none, editorInitialized := false, historyInitialized := false }
  | none => s

/-- `lle_hard_reset`: destroy and recreate the editor, setting both flags when
`create_and_configure_editor` succeeds, zero the error and Ctrl-G counters,
leave recovery mode, count the reset.  The two editor calls change only the
editor and its flags. -/
def lleHardReset (env : ResetEnv) (s : ShellIntegration) : ShellIntegration :=
  let d := destroyEditor s
  let d := match env.created with
    | .ok e => { d with editor := some e, editorInitialized := true, historyInitialized := true }
    | .error _ => d
  { s with editor := d.editor, editorInitialized := d.editorInitialized, historyInitialized := d.historyInitialized,
           errorCount := 0, ctrlGCount := 0, recoveryMode := false,
           hardResetCount := s.hardResetCount + 1, lastResetTimeUs := env.now }

/-- `lle_nuclear_reset`: a hard reset, the terminal reset sequence, and the count. -/
def lleNuclearReset (env : ResetEnv) (s : ShellIntegration) : ShellIntegration :=
  let s := lleHardReset env s
  { s with nuclearResetCount := s.nuclearResetCount + 1 }

/-- `lle_record_error`. -/
def lleRecordError (env : ResetEnv) (s : ShellIntegration) : ShellIntegration :=
  let s := { s with errorCount := s.errorCount + 1 }
  if L.errorThreshold ≤ s.errorCount then
    lleHardReset env { s with recoveryMode := true, recoveryCount := s.recoveryCount + 1 }
  else s

/-- `lle_reset_error_counter`. -/
def lleResetErrorCounter (s : ShellIntegration) : ShellIntegration :=
  { s with errorCount := 0, recoveryMode := false }

/-- `lle_record_ctrl_g`, the clock reading `now`: the count goes on while
`now - last_ctrl_g_time_us` (unsigned) is below the window and restarts at 1
otherwise; at the panic count it is zeroed and the editor hard-reset. -/
def lleRecordCtrlG (now : UInt64) (env : ResetEnv) (s : ShellIntegration) : ShellIntegration :=
  let count := if now - s.lastCtrlGTimeUs < L.ctrlGPanicWindowUs then s.ctrlGCount + 1 else 1
  let s := { s with ctrlGCount := count, lastCtrlGTimeUs := now }
  if L.ctrlGPanicCount ≤ s.ctrlGCount then lleHardReset env { s with ctrlGCount := 0 } else s

/-- The operations a run is made of. -/
inductive Op
  | recordError (env : ResetEnv)
  | resetErrorCounter
  | recordCtrlG (now : UInt64) (env : ResetEnv)
  | softReset
  | hardReset (env : ResetEnv)
  | nuclearReset (env : ResetEnv)

/-- One operation on the integration. -/
def Op.apply (s : ShellIntegration) : Op → ShellIntegration
  | .recordError env => lleRecordError L env s
  | .resetErrorCounter => lleResetErrorCounter s
  | .recordCtrlG now env => lleRecordCtrlG L now env s
  | .softReset => lleSoftReset s
  | .hardReset env => lleHardReset env s
  | .nuclearReset env => lleNuclearReset env s

/-- A run of operations. -/
def runOps (s : ShellIntegration) (ops : List Op) : ShellIntegration :=
  ops.foldl (Op.apply L) s

end Code

/-- The time of a press. -/
def Op.pressTime : Op → Option UInt64
  | .recordCtrlG now _ => some now
  | _ => none

/-- The number of nuclear resets an operation asks for. -/
def Op.nuclearResets : Op → Nat
  | .nuclearReset _ => 1
  | _ => 0

/-! ## The reset policy, in its own terms -/

/-- The bookkeeping the policy speaks of: the errors since the last hard reset or
`lle_reset_error_counter`, the length of the current Ctrl-G streak, the previous
press, and whether a hard reset came after it. -/
structure Tally where
  errors : Nat
  streak : Nat
  prevPress : Option UInt64
  resetAfterPress : Bool

namespace Tally

variable (L : Limits)

/-- Before any operation. -/
def init : Tally := ⟨0, 0, none, false⟩

/-- The position of a press at `now` in its streak: a streak starts at the first
press ever, at the first press after a hard reset, and at a press a whole window
or more after the previous one; otherwise the press continues the streak. -/
def streakPos (t : Tally) (now : UInt64) : Nat :=
  match t.prevPress with
  | none => 1
  | some prev =>
    if t.resetAfterPress ∨ L.ctrlGPanicWindowUs.toNat ≤ now.toNat - prev.toNat then 1 else t.streak + 1

/-- The hard resets an operation must perform: one for each explicit or nuclear
reset, one for the threshold-th error, one for the panic-count-th press of a streak. -/
def resets (t : Tally) : Op → Nat
  | .recordError _ => if t.errors + 1 = L.errorThreshold then 1 else 0
  | .recordCtrlG now _ => if t.streakPos L now = L.ctrlGPanicCount then 1 else 0
  | .hardReset _ => 1
  | .nuclearReset _ => 1
  | _ => 0

/-- After a hard reset: no errors counted, and the next press starts a streak. -/
def afterReset (t : Tally) : Tally := { t with errors := 0, resetAfterPress := true }

/-- The tally after an operation. -/
def step (t : Tally) : Op → Tally
  | .recordError _ =>
    if t.errors + 1 = L.errorThreshold then t.afterReset else { t with errors := t.errors + 1 }
  | .resetErrorCounter => { t with errors := 0 }
  | .recordCtrlG now _ =>
    let t' := { t with streak := t.streakPos L now, prevPress := some now, resetAfterPress := false }
    if t.streakPos L now = L.ctrlGPanicCount then t'.afterReset else t'
  | .softReset => t
  | .hardReset _ => t.afterReset
  | .nuclearReset _ => t.afterReset

/-- The tally after a run. -/
def run (ops : List Op) : Tally := ops.foldl (step L) init

end Tally

/-! ## The code keeps the tally -/

variable {L : Limits} {s : ShellIntegration} {t : Tally}

@[simp] theorem lleHardReset_errorCount (env : ResetEnv) (s : ShellIntegration) :
    (lleHardReset env s).errorCount = 0 := rfl

@[simp] theorem lleHardReset_ctrlGCount (env : ResetEnv) (s : ShellIntegration) :
    (lleHardReset env s).ctrlGCount = 0 := rfl

@[simp] theorem lleHardReset_lastCtrlGTimeUs (env : ResetEnv) (s : ShellIntegration) :
    (lleHardReset env s).lastCtrlGTimeUs = s.lastCtrlGTimeUs := rfl

@[simp] theorem lleHardReset_hardResetCount (env : ResetEnv) (s : ShellIntegration) :
    (lleHardReset env s).hardResetCount = s.hardResetCount + 1 := rfl

@[simp] theorem lleHardReset_nuclearResetCount (env : ResetEnv) (s : ShellIntegration) :
    (lleHardReset env s).nuclearResetCount = s.nuclearResetCount := rfl

/-- The code's counters are the tally's, within their thresholds. -/
structure Refines (L : Limits) (s : ShellIntegration) (t : Tally) : Prop where
  errors : s.errorCount = t.errors
  errors_lt : t.errors < L.errorThreshold
  streak : s.ctrlGCount = if t.resetAfterPress then 0 else t.streak
  streak_lt : s.ctrlGCount < L.ctrlGPanicCount
  last : s.lastCtrlGTimeUs = t.prevPress.getD 0
  first : t.prevPress = none → t.streak = 0

theorem refines_fresh (L : Limits) (e0 : Option Editor) :
    Refines L (ShellIntegration.fresh e0) Tally.init :=
  ⟨rfl, L.errorThreshold_pos, rfl, L.ctrlGPanicCount_pos, rfl, fun _ => rfl⟩

/-- A hard reset, from any state whose press record agrees with the tally. -/
theorem refines_hardReset (env : ResetEnv) (hlast : s.lastCtrlGTimeUs = t.prevPress.getD 0)
    (hfirst : t.prevPress = none → t.streak = 0) : Refines L (lleHardReset env s) t.afterReset :=
  ⟨rfl, L.errorThreshold_pos, rfl, L.ctrlGPanicCount_pos, hlast, hfirst⟩

/-- The code's new Ctrl-G count is the press's position in its streak, when
presses come in time order. -/
theorem Refines.ctrlG_count (h : Refines L s t) {now : UInt64} (hmono : ∀ p, t.prevPress = some p → p ≤ now) :
    (if now - s.lastCtrlGTimeUs < L.ctrlGPanicWindowUs then s.ctrlGCount + 1 else 1) = t.streakPos L now := by
  have hs := h.streak
  unfold Tally.streakPos
  cases hp : t.prevPress with
  | none =>
    rw [h.first hp] at hs
    split <;> simp [hs]
  | some p =>
    have hle := hmono p hp
    rw [h.last, hp, Option.getD_some]
    by_cases hr : t.resetAfterPress = true
    · simp only [hr, if_true] at hs
      simp [hs, hr]
    · simp only [hr, if_false, Bool.false_eq_true, false_or] at hs ⊢
      have hcond : now - p < L.ctrlGPanicWindowUs ↔ now.toNat - p.toNat < L.ctrlGPanicWindowUs.toNat := by
        rw [← UInt64.toNat_sub_of_le _ _ hle]
        exact Iff.rfl
      by_cases hw : L.ctrlGPanicWindowUs.toNat ≤ now.toNat - p.toNat
      · rw [if_neg (mt hcond.mp (by omega)), if_pos hw]
      · rw [if_pos (hcond.mpr (by omega)), if_neg hw, hs]

/-- **One operation.**  Every operation keeps the tally, performs the hard resets
the tally asks for, and counts its nuclear reset. -/
theorem Refines.step (h : Refines L s t) (op : Op)
    (hmono : ∀ now, op.pressTime = some now → ∀ p, t.prevPress = some p → p ≤ now) :
    Refines L (op.apply L s) (t.step L op) ∧
      (op.apply L s).hardResetCount = s.hardResetCount + t.resets L op ∧
      (op.apply L s).nuclearResetCount = s.nuclearResetCount + op.nuclearResets := by
  cases op with
  | recordError env =>
    simp only [Op.apply, lleRecordError, Tally.step, Tally.resets, Op.nuclearResets]
    have := h.errors_lt
    by_cases ht : t.errors + 1 = L.errorThreshold
    · rw [if_pos (by simp [h.errors, ht]), if_pos ht, if_pos ht]
      exact ⟨refines_hardReset env h.last h.first, rfl, rfl⟩
    · rw [if_neg (by simp [h.errors]; omega), if_neg ht, if_neg ht]
      exact ⟨⟨by simp [h.errors], show t.errors + 1 < _ by omega, h.streak, h.streak_lt, h.last,
        h.first⟩, rfl, rfl⟩
  | resetErrorCounter =>
    exact ⟨⟨rfl, L.errorThreshold_pos, h.streak, h.streak_lt, h.last, h.first⟩, rfl, rfl⟩
  | recordCtrlG now env =>
    have hcount := h.ctrlG_count (hmono now rfl)
    have hle : t.streakPos L now ≤ L.ctrlGPanicCount := by
      have := h.streak_lt
      rw [← hcount]
      split <;> omega
    simp only [Op.apply, lleRecordCtrlG, Tally.step, Tally.resets, Op.nuclearResets, hcount]
    by_cases hp : t.streakPos L now = L.ctrlGPanicCount
    · rw [if_pos (by simp [hp]), if_pos hp, if_pos hp]
      exact ⟨refines_hardReset env rfl nofun, rfl, rfl⟩
    · rw [if_neg (by simp; omega), if_neg hp, if_neg hp]
      exact ⟨⟨h.errors, h.errors_lt, rfl, by simp; omega, rfl, nofun⟩, rfl, rfl⟩
  | softReset =>
    exact ⟨⟨h.errors, h.errors_lt, h.streak, h.streak_lt, h.last, h.first⟩, rfl, rfl⟩
  | hardReset env => exact ⟨refines_hardReset env h.last h.first, rfl, rfl⟩
  | nuclearReset env =>
    have h' : Refines L (lleHardReset env s) t.afterReset := refines_hardReset env h.last h.first
    exact ⟨⟨h'.1, h'.2, h'.3, h'.4, h'.5, h'.6⟩, rfl, rfl⟩

/-- The tally's previous press is the last press time of the run. -/
theorem Tally.run_prevPress (L : Limits) (ops : List Op) :
    (Tally.run L ops).prevPress = (ops.filterMap Op.pressTime).getLast? := by
  induction ops using List.reverseRecOn with
  | nil => rfl
  | append_singleton ops op ih =>
    rw [Tally.run, List.foldl_append, List.filterMap_append, ← Tally.run]
    cases op <;> simp [Tally.step, Op.pressTime, ih, Tally.afterReset] <;> split <;> rfl

/-- **Whole runs.**  Along every run whose presses come in time order, the
code's counters are the tally's. -/
theorem runOps_refines (L : Limits) (e0 : Option Editor) (ops : List Op)
    (hmono : (ops.filterMap Op.pressTime).Chain' (· ≤ ·)) :
    Refines L (runOps L (.fresh e0) ops) (Tally.run L ops) := by
  induction ops using List.reverseRecOn with
  | nil => exact refines_fresh L e0
  | append_singleton ops op ih =>
    rw [List.filterMap_append, List.chain'_append] at hmono
    rw [runOps, Tally.run, List.foldl_append, List.foldl_append, ← runOps, ← Tally.run]
    refine ((ih hmono.1).step op fun now hnow p hp => hmono.2.2 p ?_ now ?_).1
    · rw [← Tally.run_prevPress, hp]; rfl
    · simp [hnow]

/-- **The reset policy.**  On a fresh integration, along every run whose Ctrl-G
presses come in time order, the next operation leaves the error count below
`LLE_ERROR_THRESHOLD` and the Ctrl-G count below `LLE_CTRL_G_PANIC_COUNT`; an
error hard-resets exactly when it is the threshold-th since the last hard reset
or counter reset; a press hard-resets exactly when it is the panic-count-th of
its streak; and the reset counters grow by the hard resets the operation
performs (explicit, nuclear or triggered) and by its nuclear reset. -/
theorem recovery_counters (L : Limits) (e0 : Option Editor) (ops : List Op) (op : Op)
    (hmono : ((ops ++ [op]).filterMap Op.pressTime).Chain' (· ≤ ·)) :
    (op.apply L (runOps L (.fresh e0) ops)).errorCount < L.errorThreshold ∧
    (op.apply L (runOps L (.fresh e0) ops)).ctrlGCount < L.ctrlGPanicCount ∧
    (∀ env, op = .recordError env →
      ((op.apply L (runOps L (.fresh e0) ops)).hardResetCount =
          (runOps L (.fresh e0) ops).hardResetCount + 1 ↔
        (Tally.run L ops).errors + 1 = L.errorThreshold)) ∧
    (∀ now env, op = .recordCtrlG now env →
      ((op.apply L (runOps L (.fresh e0) ops)).hardResetCount =
          (runOps L (.fresh e0) ops).hardResetCount + 1 ↔
        (Tally.run L ops).streakPos L now = L.ctrlGPanicCount)) ∧
    (op.apply L (runOps L (.fresh e0) ops)).hardResetCount =
      (runOps L (.fresh e0) ops).hardResetCount + (Tally.run L ops).resets L op ∧
    (op.apply L (runOps L (.fresh e0) ops)).nuclearResetCount =
      (runOps L (.fresh e0) ops).nuclearResetCount + op.nuclearResets := by
  rw [List.filterMap_append] at hmono
  have hmono' := List.chain'_append.mp hmono
  obtain ⟨hr, hhard, hnuc⟩ := (runOps_refines L e0 ops hmono'.1).step op fun now hnow p hp =>
    hmono'.2.2 p (by rw [← Tally.run_prevPress, hp]; rfl) now (by simp [hnow])
  refine ⟨hr.errors ▸ hr.errors_lt, hr.streak_lt, fun env hop => ?_, fun now env hop => ?_, hhard, hnuc⟩ <;>
    subst hop <;> rw [hhard] <;> simp only [Tally.resets] <;> split <;> simp_all

/-- Ten errors or three Ctrl-G presses within half a second. -/
def panicLimits : Limits := ⟨10, 3, 500000, by decide, by decide⟩

/-- A hard reset whose new editor cannot be created. -/
def failedEnv : ResetEnv := ⟨0, .error .errorOutOfMemory⟩

/-- Two presses a millisecond apart. -/
def twoPresses : List Op := [.recordCtrlG 1000 failedEnv, .recordCtrlG 2000 failedEnv]

theorem recovery_counters_third_press :
    (((twoPresses ++ [Op.recordCtrlG 3000 failedEnv]).filterMap Op.pressTime).Chain' (· ≤ ·)) ∧
    ((Op.recordCtrlG 3000 failedEnv).apply panicLimits (runOps panicLimits (.fresh none) twoPresses)).errorCount <
      panicLimits.errorThreshold ∧
    ((Op.recordCtrlG 3000 failedEnv).apply panicLimits (runOps panicLimits (.fresh none) twoPresses)).ctrlGCount <
      panicLimits.ctrlGPanicCount ∧
    (∀ env, Op.recordCtrlG 3000 failedEnv = .recordError env →
      (((Op.recordCtrlG 3000 failedEnv).apply panicLimits (runOps panicLimits (.fresh none) twoPresses)).hardResetCount =
          (runOps panicLimits (.fresh none) twoPresses).hardResetCount + 1 ↔
        (Tally.run panicLimits twoPresses).errors + 1 = panicLimits.errorThreshold)) ∧
    (∀ now env, Op.recordCtrlG 3000 failedEnv = .recordCtrlG now env →
      (((Op.recordCtrlG 3000 failedEnv).apply panicLimits (runOps panicLimits (.fresh none) twoPresses)).hardResetCount =
          (runOps panicLimits (.fresh none) twoPresses).hardResetCount + 1 ↔
        (Tally.run panicLimits twoPresses).streakPos panicLimits now = panicLimits.ctrlGPanicCount)) ∧
    ((Op.recordCtrlG 3000 failedEnv).apply panicLimits (runOps panicLimits (.fresh none) twoPresses)).hardResetCount =
      (runOps panicLimits (.fresh none) twoPresses).hardResetCount +
        (Tally.run panicLimits twoPresses).resets panicLimits (.recordCtrlG 3000 failedEnv) ∧
    ((Op.recordCtrlG 3000 failedEnv).apply panicLimits (runOps panicLimits (.fresh none) twoPresses)).nuclearResetCount =
      (runOps panicLimits (.fresh none) twoPresses).nuclearResetCount + (Op.recordCtrlG 3000 failedEnv).nuclearResets := by
  have hmono : ((twoPresses ++ [Op.recordCtrlG 3000 failedEnv]).filterMap Op.pressTime).Chain' (· ≤ ·) := by
    simp only [twoPresses, List.cons_append, List.nil_append, List.filterMap_cons, Op.pressTime,
      List.filterMap_nil, List.chain'_cons, List.chain'_singleton, and_true]
    decide
  exact ⟨hmono, recovery_counters panicLimits none twoPresses (.recordCtrlG 3000 failedEnv) hmono⟩

end Lush
