import Lush.Prompt.Expand
import Lush.Powerline.Collect

/-!
# The ANSI passthrough of Pass 2, against the spec's CSI scan

The spec has Pass 2 copy an `ESC [` sequence "until (and including) a final
byte in `0x40..=0x7E`" (`csiSpan`), which is also where `strip_ansi` ends the
sequences it skips.  The source copies while `*p < 0x40` and then one byte
more, reading `*p` as a plain `char` (`csiCopy`): `DEL` (`0x7F`) ends the
sequence on every target, and so does every byte from `0x80` up where `char`
is unsigned.

* **`csiCopy_eq_csiSpan_iff`**: the passthrough copies the spec's span exactly
  when no byte before the span's last is one the source takes for a final
  byte and the spec does not;
* **`stripAnsiLoop_csiSpan`**: `strip_ansi` skips the spec's span, unless the
  span runs into the NUL;
* **`expandUnbounded_csiSpan`**: where the two scans agree, Pass 2 copies the
  spec's span and expands what follows it;
* **`expandUnbounded_csi_closes_early`**: after `ESC [ b` with such a byte `b`,
  Pass 2 expands `\n` into a newline, where the spec's scan and `strip_ansi`
  end the sequence at the `\` and keep the `n`.
-/

namespace Lush

/-- Modelled from the spec: the ANSI passthrough after `ESC [` copies bytes up
to and including the first final byte in `0x40..0x7E`, or up to the end of the
string; the bytes copied and the input after them. -/
def csiSpan : List UInt8 → List UInt8 × List UInt8
  | [] => ([], [])
  | c :: s =>
    if c = 0 then ([], c :: s)
    else if 0x40 ≤ c ∧ c ≤ 0x7E then ([c], s)
    else ((csiSpan s).1.cons c, (csiSpan s).2)

theorem csiSpan_final {c : UInt8} (hf : 0x40 ≤ c ∧ c ≤ 0x7E) (s : List UInt8) :
    csiSpan (c :: s) = ([c], s) := by
  have h0 : c ≠ 0 := by rintro rfl; exact absurd hf.1 (by decide)
  simp only [csiSpan, if_neg h0, if_pos hf]

theorem csiSpan_param {c : UInt8} (h0 : c ≠ 0) (hf : ¬ (0x40 ≤ c ∧ c ≤ 0x7E)) (s : List UInt8) :
    csiSpan (c :: s) = ((csiSpan s).1.cons c, (csiSpan s).2) := by
  simp only [csiSpan, if_neg h0, if_neg hf]

/-- The span is empty only at the end of the string. -/
theorem csiSpan_snd_of_fst_eq_nil {s : List UInt8} (h : (csiSpan s).1 = []) : (csiSpan s).2 = s := by
  rcases s with _ | ⟨c, s⟩
  · rfl
  · unfold csiSpan at h ⊢
    split_ifs at h ⊢
    rfl

/-- A final byte of the spec is one for the source too, on every target. -/
theorem charLt0x40_final {sc : Bool} {c : UInt8} (hf : 0x40 ≤ c ∧ c ≤ 0x7E) : charLt0x40 sc c = false := by
  simp only [charLt0x40, byte_le_iff, byte_lt_iff] at hf ⊢
  simp [UInt8.size] at hf ⊢
  omega

/-- A byte the source takes for a final byte and the spec does not lies above `0x7E`. -/
theorem gt_0x7E_of_charLt0x40 {sc : Bool} {c : UInt8} (hlt : charLt0x40 sc c = false)
    (hf : ¬ (0x40 ≤ c ∧ c ≤ 0x7E)) : 0x7E < c := by
  simp only [charLt0x40, byte_le_iff, byte_lt_iff] at hlt hf ⊢
  simp [UInt8.size] at hlt hf ⊢
  omega

/-- A byte above `0x7E` is no final byte for the spec, but one for the source
where `char` is unsigned. -/
theorem above_0x7E {b : UInt8} (h : 0x7E < b) :
    b ≠ 0 ∧ ¬ (0x40 ≤ b ∧ b ≤ 0x7E) ∧ charLt0x40 false b = false := by
  simp only [charLt0x40, byte_le_iff, byte_lt_iff, ne_eq, byte_eq_iff] at h ⊢
  simp [UInt8.size] at h ⊢
  omega

/-- **Where the source's passthrough refines the spec's.**  For every byte
string and either signedness of `char`, `csiCopy` copies exactly the spec's
span, and leaves the same input, if and only if every byte of the span but its
last that lies above `0x7E` is read by the source as a parameter byte. -/
theorem csiCopy_eq_csiSpan_iff (sc : Bool) (s : List UInt8) :
    csiCopy sc s = ((csiSpan s).1.map .char, (csiSpan s).2) ↔
      ∀ c ∈ (csiSpan s).1.dropLast, 0x7E < c → charLt0x40 sc c = true := by
  induction s with
  | nil => simp [csiCopy, csiSpan]
  | cons c s ih =>
    by_cases h0 : c = 0
    · simp [csiCopy, csiSpan, h0]
    by_cases hf : 0x40 ≤ c ∧ c ≤ 0x7E
    · simp [csiCopy, csiSpan_final hf, h0, charLt0x40_final hf]
    rw [csiSpan_param h0 hf, csiCopy, if_neg h0]
    cases hlt : charLt0x40 sc c
    · -- the source ends the sequence at `c`; the spec goes on unless the string ends
      have h7E := gt_0x7E_of_charLt0x40 hlt hf
      rcases hS : (csiSpan s).1 with _ | ⟨d, S⟩
      · simp [csiSpan_snd_of_fst_eq_nil hS]
      · simp [h7E, hlt]
    · -- both scans read `c` as a parameter byte
      rw [if_pos rfl]
      rcases hS : (csiSpan s).1 with _ | ⟨d, S⟩
      · rw [hS] at ih
        simpa [Prod.ext_iff] using ih
      · rw [hS] at ih
        simpa [Prod.ext_iff, hlt] using ih

/-- **`strip_ansi` ends a sequence where the spec does.**  From inside a CSI
sequence, the scan of `strip_ansi` resumes right after the spec's span, unless
that span runs into the NUL (there `strip_ansi` steps past the NUL). -/
theorem stripAnsiLoop_csiSpan (dstSize : Nat) (out : List UInt8) (s : List UInt8)
    (h : (csiSpan s).2.head? ≠ some 0) :
    Powerline.stripAnsiLoop dstSize true out s = Powerline.stripAnsiLoop dstSize false out (csiSpan s).2 := by
  induction s with
  | nil => rfl
  | cons c s ih =>
    by_cases h0 : c = 0
    · simp [csiSpan, h0] at h
    by_cases hf : 0x40 ≤ c ∧ c ≤ 0x7E
    · rw [csiSpan_final hf, Powerline.stripAnsiLoop_csi_final (by simp [hf])]
    · rw [csiSpan_param h0 hf] at h ⊢
      rw [Powerline.stripAnsiLoop_csi_param ⟨h0, hf⟩]
      exact ih h

section Expand
variable (env : Env) (ctx : LlePromptExpandCtx)

/-- Pass 2 at `ESC [`: the passthrough, then the scan of what it leaves. -/
theorem expandUnbounded_esc_csi (s : List UInt8) :
    expandUnbounded env ctx (0x1B :: 0x5B :: s) =
      0x1B :: 0x5B :: (csiCopy env.signedChar s).1.flatMap Emit.bytes ++
        expandUnbounded env ctx (csiCopy env.signedChar s).2 := by
  rw [expandUnbounded_cons env ctx _ _ (by decide)]
  simp [escapeStep, Emit.bytes]

/-- Where the two scans agree, Pass 2 copies the spec's span as it stands and
expands what follows it. -/
theorem expandUnbounded_csiSpan (s : List UInt8)
    (h : ∀ c ∈ (csiSpan s).1.dropLast, 0x7E < c → charLt0x40 env.signedChar c = true) :
    expandUnbounded env ctx (0x1B :: 0x5B :: s) =
      0x1B :: 0x5B :: (csiSpan s).1 ++ expandUnbounded env ctx (csiSpan s).2 := by
  rw [expandUnbounded_esc_csi, (csiCopy_eq_csiSpan_iff _ s).mpr h, flatMap_bytes_chars]

/-- The source ends the sequence at a byte its `*p < 0x40` test rejects, and
scans what follows as fresh input. -/
theorem expandUnbounded_csi_ends_at {b : UInt8} (h0 : b ≠ 0) (hb : charLt0x40 env.signedChar b = false)
    (p : List UInt8) :
    expandUnbounded env ctx (0x1B :: 0x5B :: b :: p) = [0x1B, 0x5B, b] ++ expandUnbounded env ctx p := by
  rw [expandUnbounded_esc_csi]
  simp [csiCopy, h0, hb, Emit.bytes]

/-- Outside a sequence, `\n` is a newline. -/
theorem expandUnbounded_backslash_n (q : List UInt8) :
    expandUnbounded env ctx (0x5C :: 0x6E :: q) = 0x0A :: expandUnbounded env ctx q := by
  rw [expandUnbounded_cons env ctx _ _ (by decide),
    show escapeStep env ctx 0x5C (0x6E :: q) = ([.char 0x0A], q) from rfl]
  rfl

/-- **Pass 2 ends a CSI sequence early.**  In every environment and context,
let `b` be a byte the source's `*p < 0x40` test rejects and the spec does not
take for a final byte: `DEL` on every target, and every byte from `0x80` up
where `char` is unsigned.  Then on `ESC [ b \ n q` Pass 2 ends the sequence at
`b` and expands `\n` into a newline, whereas the spec's scan ends the sequence
at the final byte `\`, and `strip_ansi` skips `ESC [ b \` and copies the `n`. -/
theorem expandUnbounded_csi_closes_early (b : UInt8) (q : List UInt8)
    (hb : charLt0x40 env.signedChar b = false) (h7E : 0x7E < b) (dstSize : Nat) (out : List UInt8) :
    expandUnbounded env ctx (0x1B :: 0x5B :: b :: 0x5C :: 0x6E :: q) =
        [0x1B, 0x5B, b, 0x0A] ++ expandUnbounded env ctx q ∧
      csiSpan (b :: 0x5C :: 0x6E :: q) = ([b, 0x5C], 0x6E :: q) ∧
      Powerline.stripAnsiLoop dstSize false out (0x1B :: 0x5B :: b :: 0x5C :: 0x6E :: q) =
        Powerline.stripAnsiLoop dstSize false (Powerline.copyByte dstSize out 0x6E) q := by
  obtain ⟨h0, hf, -⟩ := above_0x7E h7E
  have hspan : csiSpan (b :: 0x5C :: 0x6E :: q) = ([b, 0x5C], 0x6E :: q) := by
    rw [csiSpan_param h0 hf, csiSpan_final (by decide)]
  refine ⟨?_, hspan, ?_⟩
  · rw [expandUnbounded_csi_ends_at env ctx h0 hb, expandUnbounded_backslash_n]
    rfl
  · rw [Powerline.stripAnsiLoop_esc_csi, stripAnsiLoop_csiSpan _ _ _ (by rw [hspan]; simp), hspan,
      Powerline.stripAnsiLoop_plain (by decide) (by decide)]

theorem expandUnbounded_csi_closes_early_del :
    charLt0x40 aliceEnv.signedChar 0x7F = false ∧ (0x7E : UInt8) < 0x7F ∧
      (expandUnbounded aliceEnv plainCtx [0x1B, 0x5B, 0x7F, 0x5C, 0x6E] =
          [0x1B, 0x5B, 0x7F, 0x0A] ++ expandUnbounded aliceEnv plainCtx [] ∧
        csiSpan [0x7F, 0x5C, 0x6E] = ([0x7F, 0x5C], [0x6E]) ∧
        Powerline.stripAnsiLoop 8 false [] [0x1B, 0x5B, 0x7F, 0x5C, 0x6E] =
          Powerline.stripAnsiLoop 8 false (Powerline.copyByte 8 [] 0x6E) []) :=
  ⟨by decide, by decide, expandUnbounded_csi_closes_early aliceEnv plainCtx 0x7F [] (by decide) (by decide) 8 []⟩

end Expand

end Lush
