import Lush.Powerline.Separators

/-!
# What a terminal shows of a powerline prompt

`lle_powerline_render` interleaves three kinds of bytes: the colour codes of
`lle_color_to_ansi` and the reset `ESC [ 0 m`, the blanks around each block, and
the segments' contents and separators.  `strip_ansi`, the function the renderer
uses on segment contents, reads such a string back: it skips every CSI sequence
and copies the rest.  So it decodes a rendering into the text a terminal shows
of it (`visibleText`), as long as the colour codes are CSI sequences and the
contents and the separator hold no `ESC`.

Main result:

* **`llePowerlineRender_visible`**: whenever the rendering fits the output
  array, for every `dst_size`, `strip_ansi` of the array stores the first
  `dst_size - 1` bytes of the prompt's visible text: each block's content
  between two blanks, and the separator after each block (left to right) or
  before it (right to left).
-/

namespace Lush
namespace Powerline

/-- A sequence `strip_ansi` skips whole: `ESC [`, bytes outside the final range
`0x40..0x7E`, then one final byte. -/
def IsCsi (s : List UInt8) : Prop :=
  ∃ ps f, s = 0x1B :: 0x5B :: ps ++ [f] ∧ (∀ x ∈ ps, x ≠ 0 ∧ ¬ (0x40 ≤ x ∧ x ≤ 0x7E)) ∧ 0x40 ≤ f ∧ f ≤ 0x7E

/-- Bytes a terminal shows as they are: no NUL and no `ESC`. -/
def IsText (s : List UInt8) : Prop := ∀ x ∈ s, x ≠ 0 ∧ x ≠ 0x1B

instance (s : List UInt8) : Decidable (IsText s) := inferInstanceAs (Decidable (∀ x ∈ s, x ≠ 0 ∧ x ≠ 0x1B))

variable {Color : Type} (ops : ColorOps Color)

/-- What a terminal shows of a rendering, colours aside: each block's content
between two blanks, and the separator after each block (left to right) or
before it (right to left). -/
def visibleText (dir : Direction) (sep : List UInt8) (segs : List (PowerlineSegment Color)) : List UInt8 :=
  match dir with
  | .leftToRight => segs.flatMap fun s => 0x20 :: s.content ++ 0x20 :: cStr sep
  | .rightToLeft => segs.flatMap fun s => cStr sep ++ 0x20 :: s.content ++ [0x20]

section Strip

variable {dstSize : Nat}

/-- `strip_ansi` skips a CSI sequence, whatever follows it. -/
theorem stripAnsiLoop_csi_append {p : List UInt8} (hp : IsCsi p) (out rest : List UInt8) :
    stripAnsiLoop dstSize false out (p ++ rest) = stripAnsiLoop dstSize false out rest := by
  obtain ⟨ps, f, rfl, hps, hf1, hf2⟩ := hp
  have hfin : ¬ (f ≠ 0 ∧ ¬ (0x40 ≤ f ∧ f ≤ 0x7E)) := fun h => h.2 ⟨hf1, hf2⟩
  simp only [List.cons_append, List.append_assoc, List.singleton_append]
  rw [stripAnsiLoop_esc_csi, stripAnsiLoop_params_append ps hps, stripAnsiLoop_csi_final hfin, List.nil_append]

/-- `strip_ansi` copies text, as far as `dst` has room. -/
theorem stripAnsiLoop_text_append {t : List UInt8} (ht : IsText t) (out rest : List UInt8) :
    stripAnsiLoop dstSize false out (t ++ rest) = stripAnsiLoop dstSize false (t.foldl (copyByte dstSize) out) rest :=
  stripAnsiLoop_plain_append t ht out rest

/-- The colour codes are CSI sequences, or empty. -/
def CodesCsi : Prop := ∀ c isFg, (ops.toAnsi c isFg).bytes = [] ∨ IsCsi (ops.toAnsi c isFg).bytes

variable {ops}

theorem stripAnsiLoop_code_append (hcodes : CodesCsi ops) (c : Color) (isFg : Bool) (out rest : List UInt8) :
    stripAnsiLoop dstSize false out ((ops.toAnsi c isFg).bytes ++ rest) = stripAnsiLoop dstSize false out rest := by
  rcases hcodes c isFg with h | h
  · rw [h, List.nil_append]
  · exact stripAnsiLoop_csi_append h out rest

theorem isCsi_reset : IsCsi (lit "\x1b[0m") :=
  ⟨[0x30], 0x6D, rfl, by decide, by decide, by decide⟩

/-- A block of content between two blanks is text. -/
theorem isText_blank_block {t : List UInt8} (ht : IsText t) : IsText (0x20 :: t ++ [0x20]) := by
  intro x hx
  rcases List.mem_append.mp hx with hx | hx
  · rcases List.mem_cons.mp hx with rfl | hx
    · decide
    · exact ht x hx
  · rw [List.mem_singleton.mp hx]
    decide

/-- A block shows its content between two blanks. -/
theorem stripAnsiLoop_blockBytes (hcodes : CodesCsi ops) {seg : PowerlineSegment Color} (hc : IsText seg.content)
    (out rest : List UInt8) :
    stripAnsiLoop dstSize false out (blockBytes ops seg ++ rest) =
      stripAnsiLoop dstSize false ((0x20 :: seg.content ++ [0x20]).foldl (copyByte dstSize) out) rest := by
  have hsplit : blockBytes ops seg ++ rest = (ops.toAnsi seg.bg false).bytes ++
      ((ops.toAnsi seg.fg true).bytes ++ ((0x20 :: seg.content ++ [0x20]) ++ rest)) := by
    simp [blockBytes]
  rw [hsplit, stripAnsiLoop_code_append hcodes, stripAnsiLoop_code_append hcodes,
    stripAnsiLoop_text_append (isText_blank_block hc)]

variable (hcodes : CodesCsi ops) {sep : List UInt8} (hsep : IsText (cStr sep))
include hcodes hsep

theorem stripAnsiLoop_renderLeftToRight {segs : List (PowerlineSegment Color)} (hsegs : ∀ s ∈ segs, IsText s.content)
    (out rest : List UInt8) :
    stripAnsiLoop dstSize false out (renderLeftToRight ops (· ++ ·) sep [] segs ++ rest) =
      stripAnsiLoop dstSize false ((visibleText .leftToRight sep segs).foldl (copyByte dstSize) out) rest := by
  induction segs generalizing out with
  | nil => rfl
  | cons seg segs ih =>
    have hc := hsegs seg (List.mem_cons_self _ _)
    have hvis : visibleText .leftToRight sep (seg :: segs) =
        (0x20 :: seg.content ++ [0x20]) ++ (cStr sep ++ visibleText .leftToRight sep segs) := by
      simp [visibleText]
    rw [hvis, List.foldl_append, List.foldl_append]
    cases segs with
    | nil =>
      have hsplit : renderLeftToRight ops (· ++ ·) sep [] [seg] ++ rest = blockBytes ops seg ++
          (lit "\x1b[0m" ++ ((ops.toAnsi seg.bg true).bytes ++ (cStr sep ++ (lit "\x1b[0m" ++ rest)))) := by
        simp [renderLeftToRight_singleton]
      rw [hsplit, stripAnsiLoop_blockBytes hcodes hc, stripAnsiLoop_csi_append isCsi_reset,
        stripAnsiLoop_code_append hcodes, stripAnsiLoop_text_append hsep, stripAnsiLoop_csi_append isCsi_reset]
      rfl
    | cons next segs =>
      have hsplit : renderLeftToRight ops (· ++ ·) sep [] (seg :: next :: segs) ++ rest = blockBytes ops seg ++
          ((ops.toAnsi seg.bg true).bytes ++ ((ops.toAnsi next.bg false).bytes ++
            (cStr sep ++ (renderLeftToRight ops (· ++ ·) sep [] (next :: segs) ++ rest)))) := by
        simp [renderLeftToRight_cons_cons]
      rw [hsplit, stripAnsiLoop_blockBytes hcodes hc, stripAnsiLoop_code_append hcodes,
        stripAnsiLoop_code_append hcodes, stripAnsiLoop_text_append hsep,
        ih fun s hs => hsegs s (List.mem_cons_of_mem seg hs)]

theorem stripAnsiLoop_renderRightToLeftLoop (prev : Option (PowerlineSegment Color))
    {segs : List (PowerlineSegment Color)} (hsegs : ∀ s ∈ segs, IsText s.content) (out rest : List UInt8) :
    stripAnsiLoop dstSize false out (renderRightToLeftLoop ops (· ++ ·) sep prev [] segs ++ rest) =
      stripAnsiLoop dstSize false ((visibleText .rightToLeft sep segs).foldl (copyByte dstSize) out) rest := by
  induction segs generalizing prev out with
  | nil => rfl
  | cons seg segs ih =>
    have hc := hsegs seg (List.mem_cons_self _ _)
    have hprev : ∀ out rest, stripAnsiLoop dstSize false out (prevBgBytes ops prev ++ rest) =
        stripAnsiLoop dstSize false out rest := by
      cases prev with
      | none => exact fun _ _ => rfl
      | some p => exact stripAnsiLoop_code_append hcodes _ _
    have hsplit : renderRightToLeftLoop ops (· ++ ·) sep prev [] (seg :: segs) ++ rest =
        (ops.toAnsi seg.bg true).bytes ++ (prevBgBytes ops prev ++ (cStr sep ++ (blockBytes ops seg ++
          (renderRightToLeftLoop ops (· ++ ·) sep (some seg) [] segs ++ rest)))) := by
      simp [renderRightToLeftLoop_cons]
    have hvis : visibleText .rightToLeft sep (seg :: segs) =
        cStr sep ++ ((0x20 :: seg.content ++ [0x20]) ++ visibleText .rightToLeft sep segs) := by
      simp [visibleText]
    rw [hsplit, hvis, List.foldl_append, List.foldl_append, stripAnsiLoop_code_append hcodes, hprev,
      stripAnsiLoop_text_append hsep, stripAnsiLoop_blockBytes hcodes hc,
      ih _ fun s hs => hsegs s (List.mem_cons_of_mem seg hs)]

/-- Either render loop, read by `strip_ansi` into `dst`. -/
theorem stripAnsiLoop_renderSegments (dir : Direction) {segs : List (PowerlineSegment Color)}
    (hsegs : ∀ s ∈ segs, IsText s.content) (out rest : List UInt8) :
    stripAnsiLoop dstSize false out (renderSegments ops (· ++ ·) dir sep [] segs ++ rest) =
      stripAnsiLoop dstSize false ((visibleText dir sep segs).foldl (copyByte dstSize) out) rest := by
  cases dir with
  | leftToRight => exact stripAnsiLoop_renderLeftToRight hcodes hsep hsegs out rest
  | rightToLeft =>
    have hsplit : renderSegments ops (· ++ ·) .rightToLeft sep [] segs ++ rest =
        renderRightToLeftLoop ops (· ++ ·) sep none [] segs ++ (lit "\x1b[0m" ++ rest) := by
      simp [renderSegments, renderRightToLeft, bufAppendReset]
    rw [hsplit, stripAnsiLoop_renderRightToLeftLoop hcodes hsep none hsegs, stripAnsiLoop_csi_append isCsi_reset]

end Strip

/-- At the NUL, `strip_ansi` has stored the first `dst_size - 1` bytes it copied. -/
theorem stripAnsiLoop_foldl_nul (dstSize : Nat) (u tail : List UInt8) :
    stripAnsiLoop dstSize false (u.foldl (copyByte dstSize) []) (0 :: tail) = some (u.take (dstSize - 1)) := by
  rw [foldl_copyByte, List.nil_append, List.length_nil, Nat.sub_zero, stripAnsiLoop_nul]

variable (lleSegmentOutputMax : Nat) (theme : Theme Color) (registry : SegmentRegistry Color)
  (ctx : PromptContext) (dir : Direction)

/-- **`strip_ansi` reads a rendered prompt back.**  Let the colour codes be CSI
sequences, and the separator and the collected contents hold no `ESC` (and no
NUL).  Whenever `lle_powerline_render` collects segments and its rendering fits
the output array, then for every `dst_size`, `strip_ansi` of the array stores
the first `dst_size - 1` bytes of the prompt's visible text: every colour code
and reset is skipped whole, and no blank, content byte or separator byte is
lost, added or reordered. -/
theorem llePowerlineRender_visible (output : List UInt8) (h : 0 < output.length)
    {segs : List (PowerlineSegment Color)}
    (hc : collectVisibleSegments ops lleSegmentOutputMax theme registry ctx powerlineMaxVisible
      theme.enabledSegments = some segs)
    (hcodes : CodesCsi ops) (hsep : IsText (cStr (separatorFor theme dir)))
    (hsegs : ∀ s ∈ segs, IsText s.content)
    (hfit : ∀ u, llePowerlineRenderUnbounded ops lleSegmentOutputMax theme registry ctx dir = some u →
      u.length < output.length) (dstSize : Nat) :
    ∃ out, llePowerlineRender ops lleSegmentOutputMax theme registry ctx dir output = some (.success, out) ∧
      stripAnsi out dstSize = some ((visibleText dir (separatorFor theme dir) segs).take (dstSize - 1)) := by
  obtain ⟨o, os, ho⟩ := List.exists_cons_of_length_pos h
  by_cases hne : segs = []
  · -- nothing collected: the array starts with a NUL
    subst hne
    refine ⟨output.set 0 0, ?_, by cases dir <;> simpa [ho, visibleText] using stripAnsiLoop_foldl_nul dstSize [] os⟩
    by_cases hen : theme.enabledSegments = []
    · simp [llePowerlineRender, hen, Nat.pos_iff_ne_zero.mp h]
    · simp [llePowerlineRender, hen, hc, Nat.pos_iff_ne_zero.mp h]
  · obtain ⟨a, hrun, hholds, hunb⟩ := llePowerlineRender_holds ops lleSegmentOutputMax theme registry ctx dir output h hc hne
    rw [fitPieces_of_lt (hfit _ hunb), ← renderSegments_append_eq] at hholds
    obtain ⟨-, hpos, htake, hnul, -⟩ := hholds
    obtain ⟨hlt, h0⟩ := List.getElem?_eq_some.mp hnul
    have hbuf : a.buf = renderSegments ops (· ++ ·) dir (separatorFor theme dir) [] segs ++ 0 :: a.buf.drop (a.pos + 1) := by
      rw [← htake, ← h0, ← List.drop_eq_getElem_cons hlt, List.take_append_drop]
    refine ⟨a.buf, hrun, ?_⟩
    rw [stripAnsi, hbuf, stripAnsiLoop_renderSegments hcodes hsep dir hsegs, stripAnsiLoop_foldl_nul]


theorem codesCsi_monoOps : CodesCsi monoOps := by
  intro c isFg
  right
  cases isFg
  · exact ⟨[0x34, 0x30], 0x6D, rfl, by decide, by decide, by decide⟩
  · exact ⟨[0x39, 0x37], 0x6D, rfl, by decide, by decide, by decide⟩

theorem llePowerlineRender_visible_three :
    0 < (List.replicate 128 (0 : UInt8)).length ∧
      collectVisibleSegments monoOps 256 (xyzTheme monoOps) (xyzRegistry 256) ⟨true, true⟩ powerlineMaxVisible
        (xyzTheme monoOps).enabledSegments = some xyzCollected ∧
      CodesCsi monoOps ∧ IsText (cStr (separatorFor (xyzTheme monoOps) .rightToLeft)) ∧
      (∀ s ∈ xyzCollected, IsText s.content) ∧
      (∀ u, llePowerlineRenderUnbounded monoOps 256 (xyzTheme monoOps) (xyzRegistry 256) ⟨true, true⟩ .rightToLeft =
        some u → u.length < (List.replicate 128 (0 : UInt8)).length) ∧
      ∃ out, llePowerlineRender monoOps 256 (xyzTheme monoOps) (xyzRegistry 256) ⟨true, true⟩ .rightToLeft
          (List.replicate 128 0) = some (.success, out) ∧
        stripAnsi out 64 = some ((visibleText .rightToLeft (separatorFor (xyzTheme monoOps) .rightToLeft)
          xyzCollected).take (64 - 1)) := by
  have hsepText : IsText (cStr (separatorFor (xyzTheme monoOps) .rightToLeft)) := by
    rw [separatorFor_xyz]
    decide
  have hsegs : ∀ s ∈ xyzCollected, IsText s.content := by decide
  have hlen : 0 < (List.replicate 128 (0 : UInt8)).length := by simp
  exact ⟨hlen, collect_xyz, codesCsi_monoOps, hsepText, hsegs, unbounded_xyz_fits,
    llePowerlineRender_visible monoOps 256 (xyzTheme monoOps) (xyzRegistry 256) ⟨true, true⟩ .rightToLeft
      (List.replicate 128 0) hlen collect_xyz codesCsi_monoOps hsepText hsegs unbounded_xyz_fits 64⟩

end Powerline
end Lush
