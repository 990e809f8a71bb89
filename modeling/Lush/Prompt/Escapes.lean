import Lush.Prompt.Expand

/-!
# Escapes of Pass 2 that write bytes of their own

Most escapes of the two tables append a string that `buf_append_str` stops at
its first NUL.  A few append single bytes that the format itself names:

* `\\`, `%%` and `\e` write a backslash, a percent sign and `ESC`.  Writing each
  backslash, `%` and `ESC` of a text this way quotes it:
  **`expandUnbounded_quote`** says Pass 2 gives the text back, for every
  context and environment, and **`expandUnbounded_quote_append`** that the
  scan resumes right after it.
* `\0NNN` and `\xNN` write the byte their digits give, `0` when no digit
  follows.  **`expandPromptEscapes_hex_nul_hides_rest`**: `\xg\u` writes a NUL
  first, and the prompt string reads empty.
* `%F{…}` and `%K{…}` write the SGR sequence of `emit_color`, cut by
  `snprintf`.  **`expandUnbounded_signed_hex_color`**: `%F{#-1-1-1}` at
  truecolor depth writes an unfinished sequence with components of
  `4294967295`.
-/

namespace Lush

section Escapes
variable (env : Env) (ctx : LlePromptExpandCtx)

/-! ## Quoting -/

/-- Modelled from the spec: the quoting of one byte, a backslash as `\\`, `%`
as `%%`, `ESC` as `\e`, any other byte as itself. -/
def quoteByte (c : UInt8) : List UInt8 :=
  if c = 0x5C then [0x5C, 0x5C]
  else if c = 0x25 then [0x25, 0x25]
  else if c = 0x1B then [0x5C, 0x65]
  else [c]

/-- Modelled from the spec: the quoting of a text, byte by byte. -/
def quote (s : List UInt8) : List UInt8 := s.flatMap quoteByte

@[simp] theorem quote_nil : quote [] = [] := rfl

@[simp] theorem quote_cons (c : UInt8) (s : List UInt8) : quote (c :: s) = quoteByte c ++ quote s := rfl

/-- Pass 2 turns the quoting of one byte back into the byte. -/
theorem expandUnbounded_quoteByte_append {c : UInt8} (hc : c ≠ 0) (r : List UInt8) :
    expandUnbounded env ctx (quoteByte c ++ r) = c :: expandUnbounded env ctx r := by
  unfold quoteByte
  split_ifs with hb hp he
  · -- `\\`
    subst hb
    rw [List.cons_append, List.singleton_append, expandUnbounded_cons env ctx _ _ (by decide),
      show escapeStep env ctx 0x5C (0x5C :: r) = ([.char 0x5C], r) from rfl]
    rfl
  · -- `%%`
    subst hp
    rw [List.cons_append, List.singleton_append, expandUnbounded_cons env ctx _ _ (by decide),
      show escapeStep env ctx 0x25 (0x25 :: r) = ([.char 0x25], r) from rfl]
    rfl
  · -- `\e`
    subst he
    rw [List.cons_append, List.singleton_append, expandUnbounded_cons env ctx _ _ (by decide),
      show escapeStep env ctx 0x5C (0x65 :: r) = ([.char 0x1B], r) from rfl]
    rfl
  · rw [List.singleton_append, expandUnbounded_cons env ctx _ _ hc, escapeStep_plain env ctx he hb hp]
    rfl

/-- Pass 2 turns the quoting of a NUL-free text back into the text, and goes on
with what follows as if the text were not there. -/
theorem expandUnbounded_quote_append {s : List UInt8} (hs : 0 ∉ s) (r : List UInt8) :
    expandUnbounded env ctx (quote s ++ r) = s ++ expandUnbounded env ctx r := by
  induction s with
  | nil => rfl
  | cons c s ih =>
    rw [quote_cons, List.append_assoc,
      expandUnbounded_quoteByte_append env ctx (fun h => hs (h ▸ List.mem_cons_self c s)),
      ih (fun h => hs (List.mem_cons_of_mem c h))]
    rfl

/-- **Quoting is complete.**  For every NUL-free text, context and
environment, Pass 2 expands the quoted text to the text itself. -/
theorem expandUnbounded_quote {s : List UInt8} (hs : 0 ∉ s) : expandUnbounded env ctx (quote s) = s := by
  simpa using expandUnbounded_quote_append env ctx hs []

theorem expandUnbounded_quote_specials :
    0 ∉ lit "\\u%%F\x1b[" ∧ expandUnbounded aliceEnv plainCtx (quote (lit "\\u%%F\x1b[")) = lit "\\u%%F\x1b[" :=
  ⟨by decide, expandUnbounded_quote aliceEnv plainCtx (by decide)⟩

/-! ## Numeric escapes -/

/-- **A hex escape with no digit writes a NUL.**  `\x` before `g` has no hex
digit and appends the byte `0`; `g` and the user name follow it in the
output, but the prompt string ends at the NUL and reads empty, whatever the
context, environment and buffer. -/
theorem expandPromptEscapes_hex_nul_hides_rest (out : List UInt8) (h : 0 < out.length) :
    expandUnbounded env ctx (lit "\\xg\\u") = 0 :: 0x67 :: cStr (getUsername env) ∧
      cStr (expandPromptEscapes env ctx (lit "\\xg\\u") out h).buf = [] := by
  have hexp : expandUnbounded env ctx (lit "\\xg\\u") = 0 :: 0x67 :: cStr (getUsername env) := by
    show expandUnbounded env ctx (0x5C :: 0x78 :: 0x67 :: 0x5C :: 0x75 :: []) = _
    rw [expandUnbounded_cons env ctx _ _ (by decide),
      show escapeStep env ctx 0x5C (0x78 :: 0x67 :: 0x5C :: 0x75 :: []) =
        ([.char 0], 0x67 :: 0x5C :: 0x75 :: []) from rfl,
      expandUnbounded_cons env ctx _ _ (by decide), escapeStep_plain env ctx (by decide) (by decide) (by decide),
      expandUnbounded_cons env ctx _ _ (by decide),
      show escapeStep env ctx 0x5C (0x75 :: []) = ([.str (getUsername env)], []) from rfl]
    simp [Emit.bytes]
  refine ⟨hexp, ?_⟩
  rw [(shows_expandPromptEscapes env ctx _ out h).cStr_buf, hexp]
  rcases out.length - 1 with _ | n <;> rfl

theorem expandPromptEscapes_hex_nul_hides_rest_alice :
    0 < (List.replicate 64 (0 : UInt8)).length ∧
      expandUnbounded aliceEnv plainCtx (lit "\\xg\\u") = 0 :: 0x67 :: cStr (getUsername aliceEnv) ∧
      cStr (expandPromptEscapes aliceEnv plainCtx (lit "\\xg\\u") (List.replicate 64 0) (by decide)).buf = [] :=
  ⟨by decide, expandPromptEscapes_hex_nul_hides_rest aliceEnv plainCtx _ (by decide)⟩

/-! ## Colour escapes -/

/-- `emit_color` on `#-1-1-1`: `sscanf`'s `%2x` takes `-1` as a signed field
and stores `4294967295` three times, and at truecolor depth `snprintf` cuts
the 40-byte sequence to 31 bytes, before its final `m`. -/
theorem emitColor_signed_hex {depth : Int} (h : 3 ≤ depth) :
    emitColor (lit "#-1-1-1") depth true = some (lit "\x1b[38;2;4294967295;4294967295;42") := by
  have hs : sscanfHex3 (lit "-1-1-1") = some (4294967295, 4294967295, 4294967295) := rfl
  simp only [emitColor, show depth ≠ 0 by omega, if_false]
  rw [if_pos (show (lit "#-1-1-1").head? = some 0x23 ∧ (lit "#-1-1-1").length = 7 from ⟨rfl, rfl⟩),
    show (lit "#-1-1-1").tail = lit "-1-1-1" from rfl, hs]
  simp only [if_pos h]
  rfl

/-- **A colour escape can write a broken sequence.**  For every environment and
every context at truecolor depth, `%F{#-1-1-1}` appends
`ESC[38;2;4294967295;4294967295;42`: components far outside `0..255`, and no
final `m`, so the sequence is left open. -/
theorem expandUnbounded_signed_hex_color (h : 3 ≤ ctx.colorDepth) :
    expandUnbounded env ctx (lit "%F{#-1-1-1}") = lit "\x1b[38;2;4294967295;4294967295;42" := by
  show expandUnbounded env ctx (0x25 :: lit "F{#-1-1-1}") = _
  rw [expandUnbounded_cons env ctx _ _ (by decide),
    show escapeStep env ctx 0x25 (lit "F{#-1-1-1}") =
      ((emitColor (lit "#-1-1-1") ctx.colorDepth true).toList.map .str, []) from rfl,
    emitColor_signed_hex h]
  simp only [Option.toList_some, List.map_cons, List.map_nil, List.flatMap_cons, List.flatMap_nil,
    Emit.bytes, List.append_nil, expandUnbounded_nil]
  decide

end Escapes

theorem expandUnbounded_signed_hex_color_truecolor :
    3 ≤ (⟨none, 0, 0, 0, 0, 3⟩ : LlePromptExpandCtx).colorDepth ∧
      expandUnbounded aliceEnv ⟨none, 0, 0, 0, 0, 3⟩ (lit "%F{#-1-1-1}") =
        lit "\x1b[38;2;4294967295;4294967295;42" :=
  ⟨by decide, expandUnbounded_signed_hex_color aliceEnv _ (by decide)⟩

end Lush
