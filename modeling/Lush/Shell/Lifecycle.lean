import Lush.Shell.Init

/-!
# The life of the shell integration

`lle_shell_integration_init` publishes `g_lle_integration`, which owns the
session arena, the shell event hub, the editor and the prompt composer; while
it is published, `lle_hard_reset` (called by itself, by `lle_nuclear_reset`,
by `lle_record_error` at the error threshold and by `lle_record_ctrl_g` at the
panic count) destroys the editor and creates a new one; and
`lle_shell_integration_shutdown`, called by the shell or once by the `atexit`
handler, destroys all of it.

`ShellIntegration` keeps the record's counters; here the resets act on the
whole world (`InitWorld.applyOp`), and `InitWorld.applyOp_owned` says that on
the record they are the operations of `Op.apply`.  A `Session` adds to the world
what the record of `Init` leaves out: whether the integration holds a prompt
composer, and the static flag of the `atexit` handler.

Main results:

* **`Session.reachable_owned`**: in every session reachable from a shell that
  never ran `lle_shell_integration_init`, through any sequence of
  initialisations (each call of each subsystem succeeding or failing), resets,
  error and Ctrl-G reports, shutdowns and `atexit` calls, the arenas, hubs,
  editors and prompt composers alive are exactly those the published
  integration owns, at most one of each, and `lle_is_active` holds exactly
  when the integration holds an editor.
* **`Session.shutdown_releases`**: from every such session, shutdown leaves no
  arena, hub, editor, composer or watchdog alive; the hook bridge stays
  installed only when a failed initialisation left it so.
-/

namespace Lush

/-- The editors alive after `lle_hard_reset` on `integ`: `destroy_editor` frees
the one it holds, and `create_and_configure_editor` makes a new one when it
succeeds. -/
def hardResetEditors (env : ResetEnv) (integ : ShellIntegration) (editors : Nat) : Nat :=
  (if integ.editor.isSome then editors - 1 else editors) + (if env.created.isOk then 1 else 0)

/-- `lle_is_active`. -/
def lleIsActive (w : InitWorld) : Bool :=
  match w.integration with
  | some integ => integ.editorInitialized
  | none => false

namespace InitWorld

/-- `lle_hard_reset`. -/
def hardReset (env : ResetEnv) (w : InitWorld) : InitWorld :=
  match w.integration with
  | none => w
  | some integ =>
    { w with editors := hardResetEditors env integ w.editors, integration := some (lleHardReset env integ) }

/-- `lle_nuclear_reset`: the hard reset and its count; the terminal reset
sequence is not part of the world. -/
def nuclearReset (env : ResetEnv) (w : InitWorld) : InitWorld :=
  match w.integration with
  | none => w
  | some _ =>
    let w := w.hardReset env
    { w with integration := w.integration.map fun integ =>
        { integ with nuclearResetCount := integ.nuclearResetCount + 1 } }

/-- `lle_record_error`. -/
def recordError (L : Limits) (env : ResetEnv) (w : InitWorld) : InitWorld :=
  match w.integration with
  | none => w
  | some integ =>
    let integ := { integ with errorCount := integ.errorCount + 1 }
    if L.errorThreshold ≤ integ.errorCount then
      hardReset env
        { w with integration := some { integ with recoveryMode := true, recoveryCount := integ.recoveryCount + 1 } }
    else { w with integration := some integ }

/-- `lle_record_ctrl_g`, the clock reading `now`. -/
def recordCtrlG (L : Limits) (now : UInt64) (env : ResetEnv) (w : InitWorld) : InitWorld :=
  match w.integration with
  | none => w
  | some integ =>
    let count := if now - integ.lastCtrlGTimeUs < L.ctrlGPanicWindowUs then integ.ctrlGCount + 1 else 1
    let integ := { integ with ctrlGCount := count, lastCtrlGTimeUs := now }
    if L.ctrlGPanicCount ≤ integ.ctrlGCount then hardReset env { w with integration := some { integ with ctrlGCount := 0 } }
    else { w with integration := some integ }

/-- One operation of `Op` on the world. -/
def applyOp (L : Limits) (w : InitWorld) : Op → InitWorld
  | .recordError env => w.recordError L env
  | .resetErrorCounter => { w with integration := w.integration.map lleResetErrorCounter }
  | .recordCtrlG now env => w.recordCtrlG L now env
  | .softReset => { w with integration := w.integration.map lleSoftReset }
  | .hardReset env => w.hardReset env
  | .nuclearReset env => w.nuclearReset env

end InitWorld

/-! ## The resets on the world -/

/-- The editors the integration owns: the one it holds, if any. -/
def ownedEditors : Option ShellIntegration → Nat
  | some integ => if integ.editor.isSome then 1 else 0
  | none => 0

section Resets

variable {L : Limits} {w : InitWorld}

theorem InitWorld.with_integration_none (hi : w.integration = none) : { w with integration := none } = w := by
  cases w
  cases hi
  rfl

/-- With no integration published, every reset returns at once. -/
theorem InitWorld.applyOp_of_none (hi : w.integration = none) (o : Op) : w.applyOp L o = w := by
  cases o <;> simp [InitWorld.applyOp, InitWorld.recordError, InitWorld.recordCtrlG, InitWorld.hardReset,
    InitWorld.nuclearReset, hi, InitWorld.with_integration_none hi]

theorem destroyEditor_editor (s : ShellIntegration) : (destroyEditor s).editor = none := by
  unfold destroyEditor
  split <;> simp_all

/-- With its flag in step with the editor, `destroy_editor` leaves the flag clear. -/
theorem destroyEditor_editorInitialized {s : ShellIntegration} (h : s.editorInitialized = s.editor.isSome) :
    (destroyEditor s).editorInitialized = false := by
  unfold destroyEditor
  split <;> simp_all

theorem lleHardReset_editor_isSome (env : ResetEnv) (s : ShellIntegration) :
    (lleHardReset env s).editor.isSome = env.created.isOk := by
  unfold lleHardReset
  cases env.created <;> simp [destroyEditor_editor, Except.isOk, Except.toBool]

theorem lleHardReset_editorInitialized (env : ResetEnv) {s : ShellIntegration}
    (h : s.editorInitialized = s.editor.isSome) :
    (lleHardReset env s).editorInitialized = env.created.isOk := by
  unfold lleHardReset
  cases env.created <;> simp [destroyEditor_editorInitialized h, Except.isOk, Except.toBool]

/-- Every operation keeps `editor_initialized` in step with the editor. -/
theorem Op.apply_editorInitialized {s : ShellIntegration} (h : s.editorInitialized = s.editor.isSome) (o : Op) :
    (o.apply L s).editorInitialized = (o.apply L s).editor.isSome := by
  cases o with
  | recordError env =>
    simp only [Op.apply, lleRecordError]
    split <;> simp [lleHardReset_editor_isSome, lleHardReset_editorInitialized, h]
  | resetErrorCounter => exact h
  | recordCtrlG now env =>
    simp only [Op.apply, lleRecordCtrlG]
    split_ifs <;> simp [lleHardReset_editor_isSome, lleHardReset_editorInitialized, h]
  | softReset => simpa [Op.apply, lleSoftReset] using h
  | hardReset env => simp [Op.apply, lleHardReset_editor_isSome, lleHardReset_editorInitialized env h]
  | nuclearReset env =>
    simp [Op.apply, lleNuclearReset, lleHardReset_editor_isSome, lleHardReset_editorInitialized env h]

/-- `destroy_editor` and `create_and_configure_editor` leave alive the editor
the reset record holds. -/
theorem hardResetEditors_owned (env : ResetEnv) {integ : ShellIntegration} {editors : Nat}
    (h : editors = ownedEditors (some integ)) :
    hardResetEditors env integ editors = ownedEditors (some (lleHardReset env integ)) := by
  simp only [ownedEditors, hardResetEditors, lleHardReset_editor_isSome] at h ⊢
  split <;> simp_all

/-- **The world's resets act on the record as `Op.apply` does**, change the
world only in its editors, and leave alive the editors the new record owns. -/
theorem InitWorld.applyOp_owned (o : Op) (h : w.editors = ownedEditors w.integration) :
    (w.applyOp L o).editors = ownedEditors (w.applyOp L o).integration ∧
      ∃ e, w.applyOp L o = { w with editors := e, integration := w.integration.map (o.apply L) } := by
  cases hi : w.integration with
  | none =>
    rw [InitWorld.applyOp_of_none hi]
    exact ⟨h, w.editors, by simp [hi, InitWorld.with_integration_none hi]⟩
  | some integ =>
    rw [hi] at h
    -- every branch either changes counters of the record only, or hard-resets it
    cases o <;>
      simp only [InitWorld.applyOp, InitWorld.recordError, InitWorld.recordCtrlG, InitWorld.hardReset,
        InitWorld.nuclearReset, hi, Option.map_some', Op.apply, lleRecordError, lleRecordCtrlG, lleNuclearReset] <;>
      (try split_ifs) <;>
      first
        | exact ⟨hardResetEditors_owned _ (by simpa [ownedEditors] using h), _, rfl⟩
        | exact ⟨by simpa [ownedEditors, lleResetErrorCounter, lleSoftReset] using h, _, rfl⟩

end Resets

/-! ## Sessions -/

/-- The world with what the integration record of `Init` leaves out. -/
structure Session where
  world : InitWorld
  /-- `integ->prompt_composer != NULL`. -/
  composer : Bool
  /-- The static `shutdown_complete` of `lle_shell_integration_atexit_handler`. -/
  shutdownComplete : Bool

namespace Session

/-- A shell that never ran `lle_shell_integration_init`, its memory pool set up or not. -/
def start (memoryPool : Bool) : Session :=
  ⟨⟨memoryPool, 0, 0, 0, 0, false, false, false, none⟩, false, false⟩

/-- `lle_shell_integration_init`: a call that publishes a new integration has run
`create_and_configure_prompt_composer`, which gave it a composer when it
succeeded. -/
def init (calls : InitCalls) (s : Session) : LleResult × Session :=
  let res := lleShellIntegrationInit calls s.world
  (res.1, { s with
    world := res.2
    composer := if s.world.integration.isNone ∧ res.1 = .success then decide (calls.composer = .success)
      else s.composer })

end Session

/-- `lle_shell_integration_shutdown`: `destroy_prompt_composer`,
`destroy_editor`, `lle_shell_hooks_cleanup`, the hub, `lle_watchdog_cleanup`,
`g_lle_integration = NULL`, and the session arena.  Every published
integration has a hub, so the hub is destroyed whenever the integration is. -/
def lleShellIntegrationShutdown (s : Session) : Session :=
  match s.world.integration with
  | none => s
  | some integ =>
    { s with
      world := { s.world with
        composers := if s.composer then s.world.composers - 1 else s.world.composers
        editors := if integ.editor.isSome then s.world.editors - 1 else s.world.editors
        hooksInstalled := false
        hubs := s.world.hubs - 1
        watchdogUp := false
        integration := none
        arenas := s.world.arenas - 1 }
      composer := false }

/-- `lle_shell_integration_atexit_handler`. -/
def lleShellIntegrationAtexitHandler (s : Session) : Session :=
  if s.shutdownComplete then s else lleShellIntegrationShutdown { s with shutdownComplete := true }

/-- The entry points of the integration's life. -/
inductive LifeStep (L : Limits) : Session → Session → Prop
  | init {s : Session} (calls : InitCalls) : LifeStep L s (s.init calls).2
  | shutdown {s : Session} : LifeStep L s (lleShellIntegrationShutdown s)
  | atexit {s : Session} : LifeStep L s (lleShellIntegrationAtexitHandler s)
  | op {s : Session} (o : Op) : LifeStep L s { s with world := s.world.applyOp L o }

/-- The sessions a shell can reach. -/
inductive Session.Reachable (L : Limits) : Session → Prop
  | start (memoryPool : Bool) : Session.Reachable L (.start memoryPool)
  | step {s s' : Session} : Session.Reachable L s → LifeStep L s s' → Session.Reachable L s'

/-! ## What is alive is what the integration owns -/

/-- The arenas, hubs, editors and composers alive are those the published
integration owns; the hook bridge is installed and the watchdog up only as the
life of the integration allows; `editor_initialized` follows the editor. -/
structure Session.Owned (s : Session) : Prop where
  arenas : s.world.arenas = if s.world.integration.isSome then 1 else 0
  hubs : s.world.hubs = s.world.arenas
  editors : s.world.editors = ownedEditors s.world.integration
  composers : s.world.composers = if s.composer then 1 else 0
  composer : s.composer → s.world.integration.isSome
  hooks : s.world.integration.isSome → s.world.hooksInstalled
  watchdog : s.world.watchdogUp → s.world.integration.isSome
  editorInitialized : ∀ integ, s.world.integration = some integ → integ.editorInitialized = integ.editor.isSome

namespace Session

variable {L : Limits} {s : Session}

/-- A session with no integration, nothing alive and the composer flag down is
owned: the state the shell starts in and the one a shutdown leaves. -/
theorem owned_of_released (hi : s.world.integration = none) (ha : s.world.arenas = 0) (hh : s.world.hubs = 0)
    (he : s.world.editors = 0) (hcs : s.world.composers = 0) (hc : s.composer = false)
    (hw : s.world.watchdogUp = false) : s.Owned where
  arenas := by rw [ha, hi]; rfl
  hubs := hh.trans ha.symm
  editors := by rw [he, hi]; rfl
  composers := by rw [hcs, hc]; rfl
  composer := fun h => Bool.noConfusion (hc.symm.trans h)
  hooks := fun h => by rw [hi] at h; cases h
  watchdog := fun h => Bool.noConfusion (hw.symm.trans h)
  editorInitialized := fun _ h => Option.noConfusion (hi.symm.trans h)

theorem owned_start (memoryPool : Bool) : (start memoryPool).Owned :=
  owned_of_released rfl rfl rfl rfl rfl rfl rfl

/-- `lle_shell_integration_shutdown` from an owned session releases all the
integration owned. -/
theorem Owned.shutdown_world (h : s.Owned) (integ : ShellIntegration) (hi : s.world.integration = some integ) :
    lleShellIntegrationShutdown s =
      { s with
        world := { s.world with
          composers := 0, editors := 0, hooksInstalled := false, hubs := 0, watchdogUp := false,
          integration := none, arenas := 0 }
        composer := false } := by
  have ha := h.arenas
  have hh := h.hubs
  have he := h.editors
  have hc := h.composers
  simp only [hi, Option.isSome_some, if_true, ownedEditors] at ha he
  have hcs : (if s.composer then s.world.composers - 1 else s.world.composers) = 0 := by
    split_ifs at hc ⊢ <;> omega
  have hes : (if integ.editor.isSome then s.world.editors - 1 else s.world.editors) = 0 := by
    split_ifs at he ⊢ <;> omega
  rw [lleShellIntegrationShutdown, hi]
  simp only [hcs, hes, hh, ha]

theorem Owned.shutdown (h : s.Owned) : (lleShellIntegrationShutdown s).Owned := by
  cases hi : s.world.integration with
  | none => simpa [lleShellIntegrationShutdown, hi] using h
  | some integ =>
    rw [h.shutdown_world integ hi]
    exact owned_of_released rfl rfl rfl rfl rfl rfl rfl

theorem Owned.atexit (h : s.Owned) : (lleShellIntegrationAtexitHandler s).Owned := by
  unfold lleShellIntegrationAtexitHandler
  split
  · exact h
  · exact Owned.shutdown ⟨h.1, h.2, h.3, h.4, h.5, h.6, h.7, h.8⟩

theorem Owned.op (h : s.Owned) (o : Op) : ({ s with world := s.world.applyOp L o } : Session).Owned := by
  obtain ⟨he, e, hw⟩ := s.world.applyOp_owned (L := L) o h.editors
  refine ⟨?_, ?_, he, ?_, ?_, ?_, ?_, ?_⟩ <;> simp only [hw, Option.isSome_map'] at *
  · exact h.arenas
  · exact h.hubs
  · exact h.composers
  · exact h.composer
  · exact h.hooks
  · exact h.watchdog
  · intro integ' hi'
    obtain ⟨integ, hi, rfl⟩ := Option.map_eq_some'.mp hi'
    exact Op.apply_editorInitialized (h.editorInitialized integ hi) o

/-- A call that finds no integration and succeeds has published a fresh one. -/
theorem lleShellIntegrationInit_success {calls : InitCalls} {w : InitWorld} (hi : w.integration = none)
    (h : (lleShellIntegrationInit calls w).1 = .success) :
    ∃ e, createAndConfigureEditor calls.editorCreate = .ok e ∧
      (lleShellIntegrationInit calls w).2 =
        initOptional calls e { w with arenas := w.arenas + 1, hubs := w.hubs + 1, hooksInstalled := true } := by
  by_cases hearly : w.memoryPool = false ∨ calls.arenaCreate = false ∨ calls.arenaCalloc = false ∨
      calls.hubCreate ≠ .success
  · exact absurd h (lleShellIntegrationInit_failure_before_hooks hi hearly).1
  · simp only [not_or, Bool.not_eq_false, ne_eq, not_not] at hearly
    rw [lleShellIntegrationInit_of_checks hi hearly.1 hearly.2.1 hearly.2.2.1 hearly.2.2.2] at h ⊢
    rcases he : createAndConfigureEditor calls.editorCreate with r | e
    · simp only [he] at h
      exact absurd h (createAndConfigureEditor_error he)
    · exact ⟨e, rfl, by simp only [he]⟩

/-- A call that finds an integration returns at once. -/
theorem init_of_isSome (calls : InitCalls) (hi : s.world.integration.isSome) : (s.init calls).2 = s := by
  have : lleShellIntegrationInit calls s.world = (.success, s.world) := by
    simp [lleShellIntegrationInit, hi]
  simp [init, this, Option.isNone_iff_eq_none, Option.isSome_iff_ne_none.mp hi]

/-- An owned session with no integration has nothing alive but, perhaps, the
hook bridge. -/
theorem Owned.of_none (h : s.Owned) (hi : s.world.integration = none) :
    s.composer = false ∧ s.world.watchdogUp = false ∧ s.world.arenas = 0 ∧ s.world.hubs = 0 ∧
      s.world.editors = 0 ∧ s.world.composers = 0 := by
  have hc : s.composer = false := Bool.eq_false_iff.mpr fun hc => by simpa [hi] using h.composer hc
  have hw : s.world.watchdogUp = false := Bool.eq_false_iff.mpr fun hw => by simpa [hi] using h.watchdog hw
  have ha := h.arenas
  have he := h.editors
  have hcs := h.composers
  simp only [hi, hc, Option.isSome_none, if_false, ownedEditors, Bool.false_eq_true] at ha he hcs
  exact ⟨hc, hw, ha, h.hubs.trans ha, he, hcs⟩

theorem Owned.init (h : s.Owned) (calls : InitCalls) : (s.init calls).2.Owned := by
  cases hi : s.world.integration with
  | some integ => rw [init_of_isSome calls (by simp [hi])]; exact h
  | none =>
    obtain ⟨hc, hw, ha, hh, he, hcs⟩ := h.of_none hi
    by_cases hr : (lleShellIntegrationInit calls s.world).1 = .success
    · -- a fresh integration is published, with its arena, hub, editor and perhaps a composer
      obtain ⟨e, -, hw'⟩ := lleShellIntegrationInit_success hi hr
      have hs : (s.init calls).2 = { s with
          world := initOptional calls e { s.world with
            arenas := s.world.arenas + 1, hubs := s.world.hubs + 1, hooksInstalled := true }
          composer := decide (calls.composer = .success) } := by
        simp [Session.init, hi, hr, hw']
      rw [hs]
      refine ⟨?_, ?_, ?_, ?_, ?_, ?_, ?_, ?_⟩ <;>
        simp [initOptional, ShellIntegration.fresh, ownedEditors, ha, hh, he, hcs]
    · -- nothing is published, and at most the hook bridge was installed
      have hs : (s.init calls).2 = { s with world := (lleShellIntegrationInit calls s.world).2 } := by
        simp [Session.init, hr]
      rw [hs]
      rcases lleShellIntegrationInit_failure hi hr with hw' | hw' <;> rw [hw']
      · exact h
      · exact ⟨by simp [hi, ha], hh.trans ha.symm, by simp [hi, he, ownedEditors], by simp [hc, hcs], by simp [hc],
          by simp [hi], by simp [hw], by simp [hi]⟩

theorem Owned.step (h : s.Owned) {s' : Session} (hs : LifeStep L s s') : s'.Owned := by
  cases hs with
  | init calls => exact h.init calls
  | shutdown => exact h.shutdown
  | atexit => exact h.atexit
  | op o => exact h.op o

theorem Reachable.owned (h : s.Reachable L) : s.Owned := by
  induction h with
  | start memoryPool => exact owned_start memoryPool
  | step _ hs ih => exact ih.step hs

theorem lleIsActive_iff (h : s.Owned) :
    lleIsActive s.world = true ↔ ∃ integ e, s.world.integration = some integ ∧ integ.editor = some e := by
  unfold lleIsActive
  cases hi : s.world.integration with
  | none => exact ⟨Bool.noConfusion, fun ⟨_, _, h, _⟩ => Option.noConfusion h⟩
  | some integ =>
    dsimp only
    rw [h.editorInitialized integ hi, Option.isSome_iff_exists]
    exact ⟨fun ⟨e, he⟩ => ⟨integ, e, rfl, he⟩, fun ⟨_, e, hs, he⟩ => ⟨e, Option.some.inj hs ▸ he⟩⟩

/-- **What is alive is what the integration owns.**  In every session a shell
can reach, through any sequence of initialisations (each subsystem call
succeeding or failing), resets, error and Ctrl-G reports, shutdowns and
`atexit` calls: one session arena and one event hub are alive exactly while
an integration is published; one editor exactly while `lle_is_active`, which
holds exactly when the integration holds an editor; one prompt composer
exactly while the integration holds one; the hook bridge is installed while an
integration is published, and the watchdog is up only then. -/
theorem reachable_owned (h : s.Reachable L) :
    s.world.arenas = (if s.world.integration.isSome then 1 else 0) ∧ s.world.hubs = s.world.arenas ∧
      s.world.editors = (if lleIsActive s.world then 1 else 0) ∧
      (lleIsActive s.world = true ↔ ∃ integ e, s.world.integration = some integ ∧ integ.editor = some e) ∧
      s.world.composers = (if s.composer then 1 else 0) ∧ (s.composer → s.world.integration.isSome) ∧
      (s.world.integration.isSome → s.world.hooksInstalled) ∧ (s.world.watchdogUp → s.world.integration.isSome) := by
  have ho := h.owned
  refine ⟨ho.arenas, ho.hubs, ?_, lleIsActive_iff ho, ho.composers, ho.composer, ho.hooks, ho.watchdog⟩
  rw [ho.editors, lleIsActive]
  cases hi : s.world.integration with
  | none => rfl
  | some integ => simp [ownedEditors, ho.editorInitialized integ hi]

/-- **Shutdown releases everything.**  From every session a shell can reach,
`lle_shell_integration_shutdown` leaves no arena, hub, editor, prompt composer
or watchdog alive and `g_lle_integration` NULL; the hook bridge stays
installed only when no integration was published and it was installed, which
only a failed `lle_shell_integration_init` leaves behind. -/
theorem shutdown_releases (h : s.Reachable L) :
    (lleShellIntegrationShutdown s).world.arenas = 0 ∧ (lleShellIntegrationShutdown s).world.hubs = 0 ∧
      (lleShellIntegrationShutdown s).world.editors = 0 ∧ (lleShellIntegrationShutdown s).world.composers = 0 ∧
      (lleShellIntegrationShutdown s).world.watchdogUp = false ∧
      (lleShellIntegrationShutdown s).world.integration = none ∧
      lleIsActive (lleShellIntegrationShutdown s).world = false ∧
      ((lleShellIntegrationShutdown s).world.hooksInstalled = true ↔
        s.world.integration = none ∧ s.world.hooksInstalled = true) := by
  have ho := h.owned
  cases hi : s.world.integration with
  | some integ => simp [ho.shutdown_world integ hi, lleIsActive]
  | none =>
    obtain ⟨-, hw, ha, hh, he, hcs⟩ := ho.of_none hi
    simp [lleShellIntegrationShutdown, lleIsActive, hi, ha, hh, he, hcs, hw]

/-- Calls in which every subsystem comes up, the editor holding an empty buffer. -/
def allOkCalls : InitCalls :=
  ⟨true, true, .success, (.success, some ⟨false, some [], 0, 0⟩), .success, true, .success⟩

/-- A shell whose editor could not be recreated by a hard reset. -/
def failedResetSession : Session :=
  { ((start true).init allOkCalls).2 with world := ((start true).init allOkCalls).2.world.applyOp panicLimits (.hardReset failedEnv) }

theorem failedResetSession_reachable : failedResetSession.Reachable panicLimits :=
  .step (.step (.start true) (.init allOkCalls)) (.op (.hardReset failedEnv))

theorem reachable_owned_failed_reset :
    failedResetSession.Reachable panicLimits ∧
      (failedResetSession.world.arenas = (if failedResetSession.world.integration.isSome then 1 else 0) ∧
        failedResetSession.world.hubs = failedResetSession.world.arenas ∧
        failedResetSession.world.editors = (if lleIsActive failedResetSession.world then 1 else 0) ∧
        (lleIsActive failedResetSession.world = true ↔
          ∃ integ e, failedResetSession.world.integration = some integ ∧ integ.editor = some e) ∧
        failedResetSession.world.composers = (if failedResetSession.composer then 1 else 0) ∧
        (failedResetSession.composer → failedResetSession.world.integration.isSome) ∧
        (failedResetSession.world.integration.isSome → failedResetSession.world.hooksInstalled) ∧
        (failedResetSession.world.watchdogUp → failedResetSession.world.integration.isSome)) :=
  ⟨failedResetSession_reachable, reachable_owned failedResetSession_reachable⟩

/-- A shell whose first initialisation failed at the editor. -/
def editorFailedSession : Session := ((start true).init editorOomCalls).2

theorem editorFailedSession_reachable : editorFailedSession.Reachable panicLimits :=
  .step (.start true) (.init editorOomCalls)

theorem shutdown_releases_editor_failure :
    editorFailedSession.Reachable panicLimits ∧
      ((lleShellIntegrationShutdown editorFailedSession).world.arenas = 0 ∧
        (lleShellIntegrationShutdown editorFailedSession).world.hubs = 0 ∧
        (lleShellIntegrationShutdown editorFailedSession).world.editors = 0 ∧
        (lleShellIntegrationShutdown editorFailedSession).world.composers = 0 ∧
        (lleShellIntegrationShutdown editorFailedSession).world.watchdogUp = false ∧
        (lleShellIntegrationShutdown editorFailedSession).world.integration = none ∧
        lleIsActive (lleShellIntegrationShutdown editorFailedSession).world = false ∧
        ((lleShellIntegrationShutdown editorFailedSession).world.hooksInstalled = true ↔
          editorFailedSession.world.integration = none ∧ editorFailedSession.world.hooksInstalled = true)) :=
  ⟨editorFailedSession_reachable, shutdown_releases editorFailedSession_reachable⟩

end Session

end Lush
