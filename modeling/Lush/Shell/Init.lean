import Lush.Shell.Recovery

/-!
# `lle_shell_integration_init` and what a failure leaves behind

`lle_shell_integration_init` brings the editor's subsystems up in order: it
checks the global memory pool, creates the session arena and the integration
record in it, creates the shell event hub, installs the shell-hook bridge
(`lle_shell_hooks_init`), and creates the editor; the prompt composer, the
`atexit` handler and the watchdog follow, and their failures are not fatal.
A fatal failure returns at once, after destroying what the function destroys on
that path.

The subsystems live outside this source set, so the model keeps, for each, how
many are alive (arenas, hubs, editors, composers) or whether it is up (the
hook bridge, the watchdog), and takes the outcome of each call as input
(`InitCalls`).  `lle_shell_hooks_cleanup`, the only call that removes the hook
bridge, is made by `lle_shell_integration_shutdown` alone.

Main results:

* **`lleShellIntegrationInit_failure`**: a failed call leaves
  `g_lle_integration` NULL and as many arenas, hubs, editors and composers as
  before, and changes the world at most by installing the hook bridge.
* **`lleShellIntegrationInit_failure_before_hooks`**: a failure before the
  hub exists leaves the world exactly as it was.
* **`lleShellIntegrationInit_editor_failure_keeps_hooks`**: when the editor
  cannot be created, the hub and the arena are destroyed, but the hook bridge
  stays installed.
-/

namespace Lush

/-- What `lle_shell_integration_init` reads and changes outside its own frame. -/
structure InitWorld where
  /-- `global_memory_pool != NULL`. -/
  memoryPool : Bool
  /-- Session arenas created and not destroyed. -/
  arenas : Nat
  /-- Shell event hubs created and not destroyed. -/
  hubs : Nat
  /-- Editors created and not destroyed. -/
  editors : Nat
  /-- Prompt composers created and registered with a hub. -/
  composers : Nat
  /-- The shell-hook bridge of `lle_shell_hooks_init` is installed. -/
  hooksInstalled : Bool
  watchdogUp : Bool
  /-- `atexit_registered`. -/
  atexitRegistered : Bool
  /-- `g_lle_integration`. -/
  integration : Option ShellIntegration

/-- How the calls of `lle_shell_integration_init` into other subsystems go. -/
structure InitCalls where
  /-- `lle_arena_create(NULL, "session", 64 * 1024)` returns an arena. -/
  arenaCreate : Bool
  /-- `lle_arena_calloc(session_arena, 1, sizeof(lle_shell_integration_t))`
  returns the record. -/
  arenaCalloc : Bool
  /-- `lle_shell_event_hub_create`. -/
  hubCreate : LleResult
  /-- `lle_editor_create`: its result, and the editor it stores. -/
  editorCreate : LleResult × Option Editor
  /-- `create_and_configure_prompt_composer`. -/
  composer : LleResult
  /-- `atexit(lle_shell_integration_atexit_handler) == 0`. -/
  atexitOk : Bool
  /-- `lle_watchdog_init`. -/
  watchdog : LleResult

/-- `create_and_configure_editor`, from what `lle_editor_create` returns and
stores; the history steps after it cannot fail the call. -/
def createAndConfigureEditor : LleResult × Option Editor → Except LleResult Editor
  | (.success, some e) => .ok e
  | (.success, none) => .error .errorOutOfMemory
  | (r, _) => .error r

theorem createAndConfigureEditor_error {c : LleResult × Option Editor} {r : LleResult}
    (h : createAndConfigureEditor c = .error r) : r ≠ .success := by
  rintro rfl
  rcases c with ⟨r0, _ | e⟩ <;> cases r0 <;> cases h

/-- The part of `lle_shell_integration_init` after the editor exists: the
optional steps, and `g_lle_integration` set. -/
def initOptional (calls : InitCalls) (e : Editor) (w : InitWorld) : InitWorld :=
  { w with
    editors := w.editors + 1,
    composers := if calls.composer = .success then w.composers + 1 else w.composers,
    atexitRegistered := w.atexitRegistered || calls.atexitOk,
    watchdogUp := w.watchdogUp || calls.watchdog = .success,
    integration := some (ShellIntegration.fresh (some e)) }

/-- `lle_shell_integration_init()`: its result and the world after it. -/
def lleShellIntegrationInit (calls : InitCalls) (w : InitWorld) : LleResult × InitWorld :=
  if w.integration.isSome then (.success, w)
  else if !w.memoryPool then (.errorNotInitialized, w)
  else if !calls.arenaCreate then (.errorOutOfMemory, w)
  else
    let w := { w with arenas := w.arenas + 1 }
    if !calls.arenaCalloc then (.errorOutOfMemory, { w with arenas := w.arenas - 1 })
    else if calls.hubCreate ≠ .success then (calls.hubCreate, { w with arenas := w.arenas - 1 })
    else
      -- the hub, then the hook bridge
      let w := { w with hubs := w.hubs + 1, hooksInstalled := true }
      match createAndConfigureEditor calls.editorCreate with
      | .error r => (r, { w with hubs := w.hubs - 1, arenas := w.arenas - 1 })
      | .ok e => (.success, initOptional calls e w)

/-- `lle_shell_integration_init` with no integration yet, each failure with the
world it leaves: a failure before the hub exists leaves the world as it was,
the editor failure leaves the hook bridge installed. -/
theorem lleShellIntegrationInit_eq {calls : InitCalls} {w : InitWorld} (hi : w.integration = none) :
    lleShellIntegrationInit calls w =
      if !w.memoryPool then (.errorNotInitialized, w)
      else if !calls.arenaCreate then (.errorOutOfMemory, w)
      else if !calls.arenaCalloc then (.errorOutOfMemory, w)
      else if calls.hubCreate ≠ .success then (calls.hubCreate, w)
      else match createAndConfigureEditor calls.editorCreate with
        | .error r => (r, { w with hooksInstalled := true })
        | .ok e => (.success, initOptional calls e
            { w with arenas := w.arenas + 1, hubs := w.hubs + 1, hooksInstalled := true }) := by
  unfold lleShellIntegrationInit
  rw [if_neg (by simp [hi])]
  rfl

/-- `lle_shell_integration_init` once the pool, the arena, the record and the
hub are there: the editor decides. -/
theorem lleShellIntegrationInit_of_checks {calls : InitCalls} {w : InitWorld} (hi : w.integration = none)
    (hp : w.memoryPool = true) (ha : calls.arenaCreate = true) (hc : calls.arenaCalloc = true)
    (hh : calls.hubCreate = .success) :
    lleShellIntegrationInit calls w =
      match createAndConfigureEditor calls.editorCreate with
        | .error r => (r, { w with hooksInstalled := true })
        | .ok e => (.success, initOptional calls e
            { w with arenas := w.arenas + 1, hubs := w.hubs + 1, hooksInstalled := true }) := by
  rw [lleShellIntegrationInit_eq hi]
  simp only [hp, ha, hc, hh, Bool.not_true, Bool.false_eq_true, if_false, ne_eq, not_true_eq_false]

section Failure

variable {calls : InitCalls} {w : InitWorld}

/-- **Failures before the hub exists change nothing**: a missing memory pool,
no arena, no record, or a failed hub. -/
theorem lleShellIntegrationInit_failure_before_hooks (hi : w.integration = none)
    (h : w.memoryPool = false ∨ calls.arenaCreate = false ∨ calls.arenaCalloc = false ∨
      calls.hubCreate ≠ .success) :
    (lleShellIntegrationInit calls w).1 ≠ .success ∧ (lleShellIntegrationInit calls w).2 = w := by
  rw [lleShellIntegrationInit_eq hi]
  split_ifs with hp ha hc hh
  · exact ⟨nofun, rfl⟩
  · exact ⟨nofun, rfl⟩
  · exact ⟨nofun, rfl⟩
  · exact ⟨hh, rfl⟩
  · -- every check passed
    simp only [Bool.not_eq_true', Bool.not_eq_false, ne_eq, not_not] at hp ha hc hh
    rcases h with h | h | h | h <;> simp_all

/-- **What a failure leaves.**  A call that finds no integration and fails
leaves `g_lle_integration` NULL, as many arenas, hubs, editors and composers
alive as before, and the world as it was except that the hook bridge may now be
installed. -/
theorem lleShellIntegrationInit_failure (hi : w.integration = none)
    (h : (lleShellIntegrationInit calls w).1 ≠ .success) :
    (lleShellIntegrationInit calls w).2 = w ∨
      (lleShellIntegrationInit calls w).2 = { w with hooksInstalled := true } := by
  by_cases hearly : w.memoryPool = false ∨ calls.arenaCreate = false ∨ calls.arenaCalloc = false ∨
      calls.hubCreate ≠ .success
  · exact .inl (lleShellIntegrationInit_failure_before_hooks hi hearly).2
  · simp only [not_or, Bool.not_eq_false, ne_eq, not_not] at hearly
    rw [lleShellIntegrationInit_of_checks hi hearly.1 hearly.2.1 hearly.2.2.1 hearly.2.2.2] at h ⊢
    rcases he : createAndConfigureEditor calls.editorCreate with r | e
    · exact .inr (by simp only [he])
    · simp only [he, ne_eq, not_true_eq_false] at h

end Failure

/-- **The editor failure keeps the hook bridge.**  For every world with no
integration, a memory pool and no hook bridge, when the arena, the record and
the hub are created but `create_and_configure_editor` fails with `r`: the call
returns `r`, destroys the hub and the arena, and leaves the hook bridge
installed, so a later call does not start from the world the first one found. -/
theorem lleShellIntegrationInit_editor_failure_keeps_hooks (w : InitWorld) (calls : InitCalls)
    (hi : w.integration = none) (hp : w.memoryPool = true) (hno : w.hooksInstalled = false)
    (ha : calls.arenaCreate = true) (hc : calls.arenaCalloc = true) (hh : calls.hubCreate = .success)
    (r : LleResult) (he : createAndConfigureEditor calls.editorCreate = .error r) :
    lleShellIntegrationInit calls w = (r, { w with hooksInstalled := true }) ∧ r ≠ .success ∧
      (lleShellIntegrationInit calls w).2 ≠ w := by
  have hrun : lleShellIntegrationInit calls w = (r, { w with hooksInstalled := true }) := by
    rw [lleShellIntegrationInit_of_checks hi hp ha hc hh, he]
  refine ⟨hrun, createAndConfigureEditor_error he, fun hw => ?_⟩
  have := congrArg InitWorld.hooksInstalled hw
  simp [hrun, hno] at this

/-- A world before any initialisation, with a memory pool. -/
def initFresh : InitWorld := ⟨true, 0, 0, 0, 0, false, false, false, none⟩

/-- Calls in which `lle_editor_create` runs out of memory. -/
def editorOomCalls : InitCalls :=
  ⟨true, true, .success, (.errorOutOfMemory, none), .success, true, .success⟩

theorem lleShellIntegrationInit_editor_failure_keeps_hooks_oom :
    initFresh.integration = none ∧ initFresh.memoryPool = true ∧ initFresh.hooksInstalled = false ∧
      editorOomCalls.arenaCreate = true ∧ editorOomCalls.arenaCalloc = true ∧
      editorOomCalls.hubCreate = .success ∧
      createAndConfigureEditor editorOomCalls.editorCreate = .error .errorOutOfMemory ∧
      (lleShellIntegrationInit editorOomCalls initFresh =
          (.errorOutOfMemory, { initFresh with hooksInstalled := true }) ∧ LleResult.errorOutOfMemory ≠ .success ∧
        (lleShellIntegrationInit editorOomCalls initFresh).2 ≠ initFresh) :=
  ⟨rfl, rfl, rfl, rfl, rfl, rfl, rfl,
    lleShellIntegrationInit_editor_failure_keeps_hooks initFresh editorOomCalls rfl rfl rfl rfl rfl rfl _ rfl⟩

end Lush
