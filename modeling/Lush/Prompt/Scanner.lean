import Lush.Prompt.Env
import Lush.Prompt.Color

/-!
# Pass 2: the escape scanner of `expand_prompt_escapes`

One iteration of the `while (*p)` loop looks at the byte under `p` and does one
of four things:

* `ESC [` starts an ANSI passthrough that copies parameter bytes up to and
  including a final byte (`csiCopy`);
* `\X` with `X` not NUL is looked up in the bash table (`bashEscape`);
* `%X` with `X` not NUL is looked up in the zsh table (`zshEscape`);
* any other byte is copied.

`escapeStep` returns the calls the iteration makes on the output buffer, as a
list of `Emit`s, and the input left after it.  The buffer never influences the
scan, so `expandLoop` threads any buffer through the iterations: the bounded
`expand_buf_t` of the source (`Lush.Prompt.ExpandBuf`) and the unbounded list
of bytes `expandUnbounded` that the buffer is compared with.

* `escapeStep_suffix`: each iteration consumes a prefix of the input, which
  is what makes the loop terminate.
-/

namespace Lush

/-- One call on the output buffer: `buf_append_char`, or `buf_append_str`
(`buf_append_int` is `buf_append_str` of the digits). -/
inductive Emit
  | char (c : UInt8)
  | str (s : List UInt8)
deriving DecidableEq

/-- What a call adds to a buffer without size limit: `buf_append_str` stops at NUL. -/
def Emit.bytes : Emit → List UInt8
  | .char c => [c]
  | .str s => cStr s

/-- `*p < 0x40` for a `char`: with a signed `char`, bytes from 0x80 up are negative. -/
def charLt0x40 (signedChar : Bool) (c : UInt8) : Bool := c < 0x40 || (signedChar && 0x80 ≤ c)

/-- The ANSI passthrough after `ESC [`: parameter bytes while `*p && *p < 0x40`,
then the final byte if the string has not ended. -/
def csiCopy (signedChar : Bool) : List UInt8 → List Emit × List UInt8
  | [] => ([], [])
  | c :: s =>
    if c = 0 then ([], c :: s)
    else if charLt0x40 signedChar c then
      ((csiCopy signedChar s).1.cons (.char c), (csiCopy signedChar s).2)
    else ([.char c], s)

/-- `\0NNN`: up to `k` more octal digits accumulated into `v`. -/
def readOctal : Nat → Nat → List UInt8 → Nat × List UInt8
  | 0, v, s => (v, s)
  | _ + 1, v, [] => (v, [])
  | k + 1, v, c :: s =>
    if 0x30 ≤ c ∧ c ≤ 0x37 then readOctal k (v * 8 + (c.toNat - 0x30)) s else (v, c :: s)

/-- `\xNN`: up to `k` more hex digits accumulated into `v`. -/
def readHex : Nat → Nat → List UInt8 → Nat × List UInt8
  | 0, v, s => (v, s)
  | _ + 1, v, [] => (v, [])
  | k + 1, v, c :: s => if isXDigit c then readHex k (v * 16 + hexVal c) s else (v, c :: s)

/-- The text of a `{…}` argument (up to `}` or the end of the string) and the
input after the closing brace. -/
def braceArg : List UInt8 → List UInt8 × List UInt8
  | [] => ([], [])
  | c :: s =>
    if c = 0 then ([], c :: s)
    else if c = 0x7D then ([], s)
    else ((braceArg s).1.cons c, (braceArg s).2)

section Tables
variable (env : Env) (ctx : LlePromptExpandCtx)

/-- The bash escape table of Pass 2: the calls for `\next`, and the input after it. -/
def bashEscape (next : UInt8) (p : List UInt8) : List Emit × List UInt8 :=
  match next with
  | 0x75 /- u -/ => ([.str (getUsername env)], p)
  | 0x68 /- h -/ => ([.str (getHostnameShort env)], p)
  | 0x48 /- H -/ => ([.str (getHostnameFull env)], p)
  | 0x77 /- w -/ => ([.str (getCwdTilde env pathMax)], p)
  | 0x57 /- W -/ => ([.str (getCwdBasename env pathMax)], p)
  | 0x64 /- d -/ => ([.str (env.strftime (lit "%a %b %d") 64).bytes], p)
  | 0x74 /- t -/ => ([.str (env.strftime (lit "%H:%M:%S") 16).bytes], p)
  | 0x54 /- T -/ => ([.str (env.strftime (lit "%I:%M:%S") 16).bytes], p)
  | 0x40 /- @ -/ => ([.str (env.strftime (lit "%I:%M %p") 16).bytes], p)
  | 0x41 /- A -/ => ([.str (env.strftime (lit "%H:%M") 16).bytes], p)
  | 0x24 /- $ -/ => ([.char (if env.uid = 0 then 0x23 else 0x24)], p)
  | 0x6E /- n -/ => ([.char 0x0A], p)
  | 0x72 /- r -/ => ([.char 0x0D], p)
  | 0x5C /- \ -/ => ([.char 0x5C], p)
  | 0x5B /- [ -/ => ([], p)
  | 0x5D /- ] -/ => ([], p)
  | 0x21 /- ! -/ => ([.str (fmtInt ctx.historyNumber)], p)
  | 0x23 /- # -/ => ([.str (fmtInt ctx.commandNumber)], p)
  | 0x6A /- j -/ => ([.str (fmtInt ctx.jobCount)], p)
  | 0x6C /- l -/ => ([.str ((afterLast 0x2F (getTtyName env)).getD (getTtyName env))], p)
  | 0x73 /- s -/ => ([.str env.lushName.bytes], p)
  | 0x76 /- v -/ =>
    ([.str (snprintfStr 16 (fmtInt env.versionMajor ++ [0x2E] ++ fmtInt env.versionMinor))], p)
  | 0x56 /- V -/ => ([.str env.versionString.bytes], p)
  | 0x65 /- e -/ => ([.char 0x1B], p)
  | 0x61 /- a -/ => ([.char 0x07], p)
  | 0x30 /- 0 -/ =>
    let r := readOctal 3 0 p
    (if r.1 ≤ 255 then [.char r.1.toUInt8] else [], r.2)
  | 0x78 /- x -/ =>
    let r := readHex 2 0 p
    (if r.1 ≤ 255 then [.char r.1.toUInt8] else [], r.2)
  | _ => ([.char 0x5C, .char next], p)

/-- `%F{spec}` / `%K{spec}`: the spec is cut to 63 bytes before `emit_color`. -/
def colorEscape (fg : Bool) (p : List UInt8) : List Emit × List UInt8 :=
  if cur p = 0x7B then
    let a := braceArg p.tail
    ((emitColor (a.1.take 63) ctx.colorDepth fg).toList.map .str, a.2)
  else ([], p)

/-- The zsh escape table of Pass 2: the calls for `%next`, and the input after it. -/
def zshEscape (next : UInt8) (p : List UInt8) : List Emit × List UInt8 :=
  match next with
  | 0x6E /- n -/ => ([.str (getUsername env)], p)
  | 0x6D /- m -/ => ([.str (getHostnameShort env)], p)
  | 0x4D /- M -/ => ([.str (getHostnameFull env)], p)
  | 0x64 /- d -/ | 0x2F /- / -/ => ([.str (getCwdFull env pathMax)], p)
  | 0x7E /- ~ -/ => ([.str (getCwdTilde env pathMax)], p)
  | 0x63 /- c -/ | 0x2E /- . -/ => ([.str (getCwdBasename env pathMax)], p)
  | 0x23 /- # -/ => ([.char (if env.uid = 0 then 0x23 else 0x25)], p)
  | 0x25 /- % -/ => ([.char 0x25], p)
  | 0x54 /- T -/ => ([.str (env.strftime (lit "%H:%M") 16).bytes], p)
  | 0x74 /- t -/ | 0x40 /- @ -/ => ([.str (env.strftime (lit "%l:%M %p") 16).bytes], p)
  | 0x2A /- * -/ => ([.str (env.strftime (lit "%H:%M:%S") 16).bytes], p)
  | 0x6A /- j -/ => ([.str (fmtInt ctx.jobCount)], p)
  | 0x6C /- l -/ => ([.str (getTtyName env)], p)
  | 0x3F /- ? -/ => ([.str (fmtInt ctx.lastExitStatus)], p)
  | 0x44 /- D -/ =>
    if cur p = 0x7B then
      let a := braceArg p.tail
      ([.str (env.strftime (a.1.take 127) 256).bytes], a.2)
    else ([.str (env.strftime (lit "%y-%m-%d") 32).bytes], p)
  | 0x42 /- B -/ => ([.str (lit "\x1b[1m")], p)
  | 0x62 /- b -/ => ([.str (lit "\x1b[22m")], p)
  | 0x55 /- U -/ => ([.str (lit "\x1b[4m")], p)
  | 0x75 /- u -/ => ([.str (lit "\x1b[24m")], p)
  | 0x53 /- S -/ => ([.str (lit "\x1b[7m")], p)
  | 0x73 /- s -/ => ([.str (lit "\x1b[27m")], p)
  | 0x46 /- F -/ => colorEscape ctx true p
  | 0x66 /- f -/ => ([.str (lit "\x1b[39m")], p)
  | 0x4B /- K -/ => colorEscape ctx false p
  | 0x6B /- k -/ => ([.str (lit "\x1b[49m")], p)
  | _ => ([.char 0x25, .char next], p)

/-- One iteration of the scan loop, at byte `c` (not NUL) followed by `p`. -/
def escapeStep (c : UInt8) (p : List UInt8) : List Emit × List UInt8 :=
  if c = 0x1B then
    match p with
    | 0x5B :: q => ((csiCopy env.signedChar q).1 |>.cons (.char 0x5B) |>.cons (.char 0x1B),
        (csiCopy env.signedChar q).2)
    | _ => ([.char 0x1B], p)
  else if c = 0x5C ∧ cur p ≠ 0 then bashEscape env ctx (cur p) p.tail
  else if c = 0x25 ∧ cur p ≠ 0 then zshEscape env ctx (cur p) p.tail
  else ([.char c], p)

/-- The bytes `X` for which `\X` has an entry in the bash table. -/
def bashEscapeChars : List UInt8 := lit "uhHwWdtT@A$nr\\[]!#jlsvVea0x"

/-- The bytes `X` for which `%X` has an entry in the zsh table. -/
def zshEscapeChars : List UInt8 := lit "nmMd/~c.#%Tt@*jl?DBbUuSsFfKk"

/-- `\X` outside the bash table is copied as it stands. -/
theorem bashEscape_of_not_mem {next : UInt8} (h : next ∉ bashEscapeChars) (p : List UInt8) :
    bashEscape env ctx next p = ([.char 0x5C, .char next], p) := by
  unfold bashEscape
  split <;> first | rfl | exact absurd (by decide) h

/-- `%X` outside the zsh table is copied as it stands. -/
theorem zshEscape_of_not_mem {next : UInt8} (h : next ∉ zshEscapeChars) (p : List UInt8) :
    zshEscape env ctx next p = ([.char 0x25, .char next], p) := by
  unfold zshEscape
  split <;> first | rfl | exact absurd (by decide) h

/-- A byte other than ESC, backslash and `%` is copied. -/
theorem escapeStep_plain {c : UInt8} (he : c ≠ 0x1B) (hb : c ≠ 0x5C) (hp : c ≠ 0x25)
    (p : List UInt8) : escapeStep env ctx c p = ([.char c], p) := by
  simp [escapeStep, he, hb, hp]

end Tables

theorem csiCopy_suffix (sc : Bool) (s : List UInt8) : (csiCopy sc s).2 <:+ s := by
  induction s with
  | nil => exact List.suffix_refl _
  | cons c s ih =>
    simp only [csiCopy]
    split_ifs
    · exact List.suffix_refl _
    · exact ih.trans (List.suffix_cons _ _)
    · exact List.suffix_cons _ _

theorem readOctal_suffix (k v : Nat) (s : List UInt8) : (readOctal k v s).2 <:+ s := by
  induction k, v, s using readOctal.induct with
  | case1 => exact List.suffix_refl _
  | case2 => exact List.suffix_refl _
  | case3 k v c s h ih => rw [readOctal, if_pos h]; exact ih.trans (List.suffix_cons _ _)
  | case4 k v c s h => rw [readOctal, if_neg h]

theorem readHex_suffix (k v : Nat) (s : List UInt8) : (readHex k v s).2 <:+ s := by
  induction k, v, s using readHex.induct with
  | case1 => exact List.suffix_refl _
  | case2 => exact List.suffix_refl _
  | case3 k v c s h ih => rw [readHex, if_pos h]; exact ih.trans (List.suffix_cons _ _)
  | case4 k v c s h => rw [readHex, if_neg h]

theorem braceArg_suffix (s : List UInt8) : (braceArg s).2 <:+ s := by
  induction s with
  | nil => exact List.suffix_refl _
  | cons c s ih =>
    simp only [braceArg]
    split_ifs
    · exact List.suffix_refl _
    · exact List.suffix_cons _ _
    · exact ih.trans (List.suffix_cons _ _)

section Steps
variable (env : Env) (ctx : LlePromptExpandCtx)

theorem bashEscape_suffix (next : UInt8) (p : List UInt8) : (bashEscape env ctx next p).2 <:+ p := by
  unfold bashEscape
  split
  all_goals first
    | exact List.suffix_refl _
    | exact readOctal_suffix _ _ _
    | exact readHex_suffix _ _ _

theorem colorEscape_suffix (fg : Bool) (p : List UInt8) : (colorEscape ctx fg p).2 <:+ p := by
  unfold colorEscape
  split
  · exact (braceArg_suffix _).trans (List.tail_suffix p)
  · exact List.suffix_refl _

theorem zshEscape_suffix (next : UInt8) (p : List UInt8) : (zshEscape env ctx next p).2 <:+ p := by
  unfold zshEscape
  split
  all_goals first
    | exact List.suffix_refl _
    | exact colorEscape_suffix _ _ _
    | skip
  split
  · exact (braceArg_suffix _).trans (List.tail_suffix p)
  · exact List.suffix_refl _

/-- Each iteration leaves a suffix of the bytes after its first one. -/
theorem escapeStep_suffix (c : UInt8) (p : List UInt8) : (escapeStep env ctx c p).2 <:+ p := by
  unfold escapeStep
  split_ifs
  · split
    · exact (csiCopy_suffix _ _).trans (List.suffix_cons _ _)
    · exact List.suffix_refl _
  · exact (bashEscape_suffix env ctx _ _).trans (List.tail_suffix p)
  · exact (zshEscape_suffix env ctx _ _).trans (List.tail_suffix p)
  · exact List.suffix_refl _

end Steps

/-- The `while (*p)` loop of `expand_prompt_escapes`, appending with `f` to `b`. -/
def expandLoop {α : Type} (env : Env) (ctx : LlePromptExpandCtx) (f : α → Emit → α) (b : α) :
    List UInt8 → α
  | [] => b
  | c :: p =>
    if c = 0 then b
    else expandLoop env ctx f ((escapeStep env ctx c p).1.foldl f b) (escapeStep env ctx c p).2
termination_by s => s.length
decreasing_by
  all_goals simp_wf
  exact Nat.lt_succ_of_le (escapeStep_suffix _ _ _ _).length_le

/-- An append on an output that never fills. -/
def appendUnbounded (u : List UInt8) (e : Emit) : List UInt8 := u ++ e.bytes

/-- The bytes Pass 2 produces for `s` when the output buffer never fills. -/
def expandUnbounded (env : Env) (ctx : LlePromptExpandCtx) (s : List UInt8) : List UInt8 :=
  expandLoop env ctx appendUnbounded [] s

end Lush
