import Lush.Basic

/-!
# What prompt expansion reads from the process

Pass 2 of the expansion engine (`src/src/lle/prompt/prompt_expansion.c`) asks
POSIX for the user database entry, the host name, the working directory, the
terminal name and the local time, and reads the shell's version constants.
`Env` fixes all of these answers for one expansion; the helpers below are the
file's `get_*` functions over them, with the buffer sizes the file uses.

`lle_prompt_expand_ctx_t` is `LlePromptExpandCtx`.  Its template context is the
callback record that the template engine (Pass 1) consumes.
-/

namespace Lush

/-- The two fields of `struct passwd` the expansion reads; `pw_dir` may be NULL. -/
structure Passwd where
  name : CString
  dir : Option CString

/-- Everything the escape scanner reads from outside its arguments. -/
structure Env where
  /-- `getpwuid(getuid())`, or NULL. -/
  passwd : Option Passwd
  /-- `getuid()`. -/
  uid : Nat
  /-- The bytes `gethostname` stores in a 256-byte buffer, or its failure. -/
  hostname : Option (List UInt8)
  /-- The working directory `getcwd` reports. -/
  cwd : Option CString
  /-- `ttyname(STDIN_FILENO)`, or NULL. -/
  ttyname : Option CString
  /-- The string `strftime(buf, maxsize, fmt, &now)` leaves in `buf`. -/
  strftime : List UInt8 → Nat → CString
  /-- `LUSH_NAME`, `LUSH_VERSION_MAJOR`, `LUSH_VERSION_MINOR`, `LUSH_VERSION_STRING`. -/
  lushName : CString
  versionMajor : Int
  versionMinor : Int
  versionString : CString
  /-- Whether the platform's plain `char` is signed. -/
  signedChar : Bool

/-- The callbacks of `lle_template_render_ctx_t`. -/
structure TemplateRenderCtx where
  getSegment : List UInt8 → Option (List UInt8) → Option CString
  isVisible : List UInt8 → Option (List UInt8) → Bool
  getColor : List UInt8 → CString

/-- `lle_prompt_expand_ctx_t`. -/
structure LlePromptExpandCtx where
  templateCtx : Option TemplateRenderCtx
  lastExitStatus : Int
  jobCount : Int
  historyNumber : Int
  commandNumber : Int
  colorDepth : Int

/-- `PATH_MAX` on Linux. -/
def pathMax : Nat := 4096

section Getters
variable (env : Env)

/-- `get_username`. -/
def getUsername : List UInt8 :=
  match env.passwd with
  | some pw => pw.name.bytes
  | none => []

/-- `get_hostname_full` into a 256-byte buffer: `buf[255] = '\0'` caps the name. -/
def getHostnameFull : List UInt8 :=
  match env.hostname with
  | some h => cStr (h.take 255)
  | none => []

/-- `get_hostname_short`: the full name cut at its first `.`. -/
def getHostnameShort : List UInt8 := (getHostnameFull env).takeWhile (· != 0x2E)

/-- `get_cwd_full(buf, size)`: `getcwd` fails when the path and its NUL exceed `size`. -/
def getCwdFull (size : Nat) : List UInt8 :=
  match env.cwd with
  | some d => if d.bytes.length < size then d.bytes else []
  | none => []

/-- `get_cwd_tilde(buf, size)`: `$HOME` replaced by `~` when it is a whole-component
prefix of the working directory. -/
def getCwdTilde (size : Nat) : List UInt8 :=
  let cwd := getCwdFull env pathMax
  match env.passwd with
  | some ⟨_, some home⟩ =>
    let rest := cwd.drop home.bytes.length
    if home.bytes.isPrefixOf cwd && (cur rest == 0x2F || cur rest == 0) then
      snprintfStr size (0x7E :: rest)
    else snprintfStr size cwd
  | _ => snprintfStr size cwd

/-- `get_cwd_basename(buf, size)`: `~` and `/` stay as they are, anything else
loses all but its last component. -/
def getCwdBasename (size : Nat) : List UInt8 :=
  let tilde := getCwdTilde env pathMax
  if tilde = [0x7E] then snprintfStr size [0x7E]
  else if tilde = [0x2F] then snprintfStr size [0x2F]
  else snprintfStr size ((afterLast 0x2F tilde).getD tilde)

/-- `get_tty_name`: the part after `/dev/`, or `?` without a terminal. -/
def getTtyName : List UInt8 :=
  match env.ttyname with
  | none => [0x3F]
  | some t => (afterFirst (lit "/dev/") t.bytes).getD t.bytes

end Getters

/-! ## A sample session

The spec's scenario: user `alice` on host `hq.example`, in her home directory. -/

/-- User `alice` (uid 1000) on host `hq.example`, in her home directory. -/
def aliceEnv : Env where
  passwd := some ⟨⟨lit "alice", by decide⟩, some ⟨lit "/home/alice", by decide⟩⟩
  uid := 1000
  hostname := some (lit "hq.example")
  cwd := some ⟨lit "/home/alice", by decide⟩
  ttyname := none
  strftime := fun _ _ => ⟨[], by decide⟩
  lushName := ⟨lit "lush", by decide⟩
  versionMajor := 1
  versionMinor := 0
  versionString := ⟨lit "1.0.0", by decide⟩
  signedChar := true

/-! ## The home prefix of the working directory -/

/-- Modelled from the spec: a leading `~` replaced by the home directory. -/
def untilde (home : List UInt8) : List UInt8 → List UInt8
  | 0x7E :: r => home ++ r
  | s => s

theorem untilde_of_cur_ne {home s : List UInt8} (h : cur s ≠ 0x7E) : untilde home s = s := by
  rcases s with _ | ⟨c, s⟩
  · rfl
  · simp only [cur_cons] at h
    simp [untilde, h]

/-- `snprintf(buf, size, "%s", s)` copies a NUL-free string that fits whole. -/
theorem snprintfStr_of_lt {size : Nat} {s : List UInt8} (h0 : 0 ∉ s) (h : s.length < size) :
    snprintfStr size s = s := by
  rw [snprintfStr, show cStr s = s by simpa using cStr_append h0 [], List.take_of_length_le (by omega)]

/-- The test of `get_cwd_tilde`: `home` is a prefix of `cwd`, followed there by
`/` or by the end of the string. -/
theorem homePrefix_test_iff {home cwd : List UInt8} (hcwd : 0 ∉ cwd) :
    (home.isPrefixOf cwd && (cur (cwd.drop home.length) == 0x2F || cur (cwd.drop home.length) == 0)) = true ↔
      ∃ r, cwd = home ++ r ∧ (r = [] ∨ r.head? = some 0x2F) := by
  constructor
  · intro h
    simp only [Bool.and_eq_true, Bool.or_eq_true, beq_iff_eq, List.isPrefixOf_iff_prefix] at h
    obtain ⟨⟨r, rfl⟩, hcur⟩ := h
    rw [List.drop_left] at hcur
    refine ⟨r, rfl, ?_⟩
    rcases r with _ | ⟨a, r⟩
    · exact .inl rfl
    · rcases hcur with hcur | hcur
      · exact .inr (by simp [← hcur])
      · exact absurd (List.mem_append_right home (hcur ▸ List.mem_cons_self a r : (0 : UInt8) ∈ a :: r)) hcwd
  · rintro ⟨r, rfl, hr⟩
    have hp : home.isPrefixOf (home ++ r) = true := List.isPrefixOf_iff_prefix.mpr (List.prefix_append home r)
    rcases hr with rfl | hr
    · simp [hp]
    · obtain ⟨r', rfl⟩ : ∃ r', r = 0x2F :: r' := by
        rcases r with _ | ⟨a, r'⟩ <;> simp_all
      simp [hp]

section HomePrefix
variable {env : Env} {name home c : CString}

/-- `get_cwd_tilde` on a working directory that fits its buffers: the test, then
`~` and the rest, or the directory itself. -/
theorem getCwdTilde_eq_ite (hpw : env.passwd = some ⟨name, some home⟩) (hcwd : env.cwd = some c)
    (hlen : c.bytes.length < pathMax - 1) :
    getCwdTilde env pathMax =
      if (home.bytes.isPrefixOf c.bytes && (cur (c.bytes.drop home.bytes.length) == 0x2F ||
          cur (c.bytes.drop home.bytes.length) == 0)) = true
      then snprintfStr pathMax (0x7E :: c.bytes.drop home.bytes.length) else snprintfStr pathMax c.bytes := by
  have hfull : getCwdFull env pathMax = c.bytes := by
    simp only [getCwdFull, hcwd, if_pos (show c.bytes.length < pathMax by omega)]
  simp only [getCwdTilde, hpw, hfull]

/-- Below a whole-component home prefix, `~` replaces it. -/
theorem getCwdTilde_of_home (hpw : env.passwd = some ⟨name, some home⟩) (hcwd : env.cwd = some c)
    (hlen : c.bytes.length < pathMax - 1) {r : List UInt8} (hc : c.bytes = home.bytes ++ r)
    (hr : r = [] ∨ r.head? = some 0x2F) : getCwdTilde env pathMax = 0x7E :: r := by
  have hr0 : 0 ∉ 0x7E :: r := by
    simpa using fun h => c.nul_free (hc ▸ List.mem_append_right home.bytes h)
  have hrlen : r.length < c.bytes.length + 1 := by rw [hc, List.length_append]; omega
  rw [getCwdTilde_eq_ite hpw hcwd hlen, if_pos ((homePrefix_test_iff c.nul_free).mpr ⟨r, hc, hr⟩), hc,
    List.drop_left, snprintfStr_of_lt hr0 (by simp only [List.length_cons]; omega)]

/-- Anywhere else the working directory is shown as it is. -/
theorem getCwdTilde_of_not_home (hpw : env.passwd = some ⟨name, some home⟩) (hcwd : env.cwd = some c)
    (hlen : c.bytes.length < pathMax - 1) (hnot : ∀ r, c.bytes = home.bytes ++ r → r ≠ [] ∧ r.head? ≠ some 0x2F) :
    getCwdTilde env pathMax = c.bytes := by
  rw [getCwdTilde_eq_ite hpw hcwd hlen, if_neg, snprintfStr_of_lt c.nul_free (by omega)]
  intro ht
  obtain ⟨r, hc, hr⟩ := (homePrefix_test_iff c.nul_free).mp ht
  exact hr.elim (hnot r hc).1 (hnot r hc).2

/-- **`~` stands for a whole-component home prefix.**  Let the user database
give the home directory `home` and the working directory be `cwd`, with
`|cwd| < PATH_MAX - 1`.  If `cwd = home ++ r` with `r` empty or starting with
`/`, `get_cwd_tilde` returns `~` followed by `r`; otherwise it returns `cwd`
unchanged.  So replacing a leading `~` by `home` gives back `cwd`, whenever
`cwd` does not itself start with `~` (as no absolute path does). -/
theorem getCwdTilde_whole_component (hpw : env.passwd = some ⟨name, some home⟩) (hcwd : env.cwd = some c)
    (hlen : c.bytes.length < pathMax - 1) :
    (∀ r, c.bytes = home.bytes ++ r → (r = [] ∨ r.head? = some 0x2F) → getCwdTilde env pathMax = 0x7E :: r) ∧
      ((∀ r, c.bytes = home.bytes ++ r → r ≠ [] ∧ r.head? ≠ some 0x2F) → getCwdTilde env pathMax = c.bytes) ∧
      (cur c.bytes ≠ 0x7E → untilde home.bytes (getCwdTilde env pathMax) = c.bytes) := by
  refine ⟨fun _ => getCwdTilde_of_home hpw hcwd hlen, getCwdTilde_of_not_home hpw hcwd hlen, fun hc0 => ?_⟩
  by_cases hpre : ∃ r, c.bytes = home.bytes ++ r ∧ (r = [] ∨ r.head? = some 0x2F)
  · obtain ⟨r, hc, hr⟩ := hpre
    rw [getCwdTilde_of_home hpw hcwd hlen hc hr, untilde, hc]
  · have hnot : ∀ r, c.bytes = home.bytes ++ r → r ≠ [] ∧ r.head? ≠ some 0x2F :=
      fun r hc => ⟨fun h => hpre ⟨r, hc, .inl h⟩, fun h => hpre ⟨r, hc, .inr h⟩⟩
    rw [getCwdTilde_of_not_home hpw hcwd hlen hnot, untilde_of_cur_ne hc0]

end HomePrefix

/-- `alice` in `/home/alice2`, a sibling of her home directory. -/
def aliceSiblingEnv : Env := { aliceEnv with cwd := some ⟨lit "/home/alice2", by decide⟩ }

theorem getCwdTilde_whole_component_sibling :
    aliceSiblingEnv.passwd = some ⟨⟨lit "alice", by decide⟩, some ⟨lit "/home/alice", by decide⟩⟩ ∧
      aliceSiblingEnv.cwd = some ⟨lit "/home/alice2", by decide⟩ ∧
      (⟨lit "/home/alice2", by decide⟩ : CString).bytes.length < pathMax - 1 ∧
      ((∀ r, lit "/home/alice2" = lit "/home/alice" ++ r → (r = [] ∨ r.head? = some 0x2F) →
          getCwdTilde aliceSiblingEnv pathMax = 0x7E :: r) ∧
        ((∀ r, lit "/home/alice2" = lit "/home/alice" ++ r → r ≠ [] ∧ r.head? ≠ some 0x2F) →
          getCwdTilde aliceSiblingEnv pathMax = lit "/home/alice2") ∧
        (cur (lit "/home/alice2") ≠ 0x7E →
          untilde (lit "/home/alice") (getCwdTilde aliceSiblingEnv pathMax) = lit "/home/alice2")) :=
  ⟨rfl, rfl, by decide, @getCwdTilde_whole_component aliceSiblingEnv ⟨lit "alice", by decide⟩
    ⟨lit "/home/alice", by decide⟩ ⟨lit "/home/alice2", by decide⟩ rfl rfl (by decide)⟩

/-- The sibling directory is shown as it is, not as `~2`. -/
example : getCwdTilde aliceSiblingEnv pathMax = lit "/home/alice2" := by decide

/-- The context of a plain expansion: no template engine, truecolor. -/
def plainCtx : LlePromptExpandCtx := ⟨none, 0, 0, 0, 0, 3⟩

/-- A template context whose `directory` segment renders as `dir`. -/
def dirTemplate (dir : CString) : TemplateRenderCtx where
  getSegment := fun name _ => if name = lit "directory" then some dir else none
  isVisible := fun _ _ => true
  getColor := fun _ => ⟨[], by decide⟩

/-- The expansion context of the shell's prompt update, with that template context. -/
def dirCtx (dir : CString) : LlePromptExpandCtx := ⟨some (dirTemplate dir), 0, 0, 0, 0, 3⟩

end Lush
