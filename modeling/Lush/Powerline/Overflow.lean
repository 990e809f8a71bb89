import Lush.Powerline.Render

/-!
# What `lle_powerline_render` keeps when the output overflows

The render loops reach the output only through `append`, so one simulation
lemma (`renderSegments_sim`) relates any two sinks.  Logging the appends gives
the sequence of pieces a rendering is made of (`renderPieces`); the unbounded
output is their concatenation, and the bounded one is `fitPieces`: `buf_append`
keeps each piece whole if it still fits after the pieces kept before it, and
drops it otherwise, then goes on with the next piece.

Main results:

* `llePowerlineRender_holds`: the output array holds `fitPieces` of the pieces,
  then a NUL, then the caller's bytes;
* `llePowerlineRender_drops_inner_piece`: a piece dropped in the middle is
  followed by a shorter one that is kept, so the output is not a prefix of the
  unbounded rendering, whatever the colour functions.
-/

namespace Lush
namespace Powerline

variable {Color : Type} (ops : ColorOps Color)

/-! ## Any two sinks -/

section Sim

variable {α β : Type} (f : α → List UInt8 → α) (g : β → List UInt8 → β) (R : α → β → Prop)
  (hR : ∀ a b s, R a b → R (f a s) (g b s))
include hR

theorem bufAppendColor_sim {a : α} {b : β} (h : R a b) (isFg : Bool) (c : Color) :
    R (bufAppendColor ops f isFg a c) (bufAppendColor ops g isFg b c) := by
  unfold bufAppendColor
  split
  · exact hR _ _ _ h
  · exact h

theorem segmentBody_sim {a : α} {b : β} (h : R a b) (seg : PowerlineSegment Color) :
    R (segmentBody ops f a seg) (segmentBody ops g b seg) :=
  hR _ _ _ <| hR _ _ _ <| hR _ _ _ <|
    bufAppendColor_sim ops f g R hR (bufAppendColor_sim ops f g R hR h _ _) _ _

theorem renderLeftToRight_sim (sep : List UInt8) (segs : List (PowerlineSegment Color)) {a : α}
    {b : β} (h : R a b) : R (renderLeftToRight ops f sep a segs) (renderLeftToRight ops g sep b segs) := by
  induction segs generalizing a b with
  | nil => exact h
  | cons seg rest ih =>
    have hbody := segmentBody_sim ops f g R hR h seg
    refine ih ?_
    cases rest with
    | cons next _ =>
      exact hR _ _ _ (bufAppendColor_sim ops f g R hR (bufAppendColor_sim ops f g R hR hbody _ _) _ _)
    | nil =>
      exact hR _ _ _ (hR _ _ _ (bufAppendColor_sim ops f g R hR (hR _ _ _ hbody) _ _))

theorem renderRightToLeftLoop_sim (sep : List UInt8) (segs : List (PowerlineSegment Color))
    (prev : Option (PowerlineSegment Color)) {a : α} {b : β} (h : R a b) :
    R (renderRightToLeftLoop ops f sep prev a segs) (renderRightToLeftLoop ops g sep prev b segs) := by
  induction segs generalizing prev a b with
  | nil => exact h
  | cons seg rest ih =>
    have hfg := bufAppendColor_sim ops f g R hR h true seg.bg
    refine ih _ (segmentBody_sim ops f g R hR (hR _ _ _ ?_) seg)
    cases prev with
    | none => exact hfg
    | some p => exact bufAppendColor_sim ops f g R hR hfg false p.bg

/-- **Simulation.**  A relation that every append keeps is kept by a whole rendering. -/
theorem renderSegments_sim (dir : Direction) (sep : List UInt8) (segs : List (PowerlineSegment Color))
    {a : α} {b : β} (h : R a b) :
    R (renderSegments ops f dir sep a segs) (renderSegments ops g dir sep b segs) := by
  cases dir with
  | leftToRight => exact renderLeftToRight_sim ops f g R hR sep segs h
  | rightToLeft => exact hR _ _ _ (renderRightToLeftLoop_sim ops f g R hR sep segs none h)

end Sim

/-! ## The pieces of a rendering -/

/-- The sink that logs each append as one piece. -/
def pieceLog (l : List (List UInt8)) (s : List UInt8) : List (List UInt8) := l ++ [s]

/-- The pieces a rendering appends, in order. -/
def renderPieces (dir : Direction) (sep : List UInt8) (segs : List (PowerlineSegment Color)) :
    List (List UInt8) :=
  renderSegments ops pieceLog dir sep [] segs

/-- The unbounded rendering is the concatenation of its pieces. -/
theorem renderSegments_append_eq (dir : Direction) (sep : List UInt8)
    (segs : List (PowerlineSegment Color)) :
    renderSegments ops (· ++ ·) dir sep [] segs = (renderPieces ops dir sep segs).flatten :=
  renderSegments_sim ops (· ++ ·) pieceLog (fun u l => u = l.flatten)
    (fun _ _ _ h => by simp [pieceLog, h]) dir sep segs rfl

/-- One step of `buf_append` on what the array holds: the piece whole if it fits
with its NUL in `size` bytes, else nothing. -/
def fitStep (size : Nat) (u s : List UInt8) : List UInt8 :=
  if u.length + s.length < size then u ++ s else u

/-- What `buf_append` keeps of a sequence of pieces in an array of `size` bytes. -/
def fitPieces (size : Nat) (pieces : List (List UInt8)) : List UInt8 :=
  pieces.foldl (fitStep size) []

/-- The array holds `u`, then a NUL, then the caller's bytes `out`. -/
def Holds (out u : List UInt8) (a : AppendCtx) : Prop :=
  a.buf.length = out.length ∧ a.pos = u.length ∧ a.buf.take a.pos = u ∧ a.buf[a.pos]? = some 0 ∧
    ∀ i, a.pos < i → a.buf[i]? = out[i]?

/-- `buf_append` is `fitStep` on what the array holds. -/
theorem Holds.bufAppend {out u : List UInt8} {a : AppendCtx} (h : Holds out u a) (s : List UInt8) :
    Holds out (fitStep out.length u s) (bufAppend a s) := by
  obtain ⟨hlen, hpos, htake, hnul, hframe⟩ := h
  unfold Powerline.bufAppend fitStep
  by_cases hfit : a.pos + s.length < a.buf.length
  · rw [dif_pos hfit, if_pos (by omega)]
    have hA : (a.buf.take a.pos ++ s).length = a.pos + s.length := by
      simp only [List.length_append, List.length_take_of_le a.pos_lt.le]
    refine ⟨?_, by simp [hpos], ?_, ?_, fun i hi => ?_⟩ <;> dsimp only at *
    · simp only [List.length_append, hA, List.length_cons, List.length_drop]
      omega
    · rw [List.take_left' hA, htake]
    · rw [List.getElem?_append_right hA.le, hA, Nat.sub_self, List.getElem?_cons_zero]
    · rw [List.getElem?_append_right (by omega), hA, List.getElem?_cons, if_neg (by omega),
        List.getElem?_drop, ← hframe _ (by omega)]
      congr 1
      omega
  · rw [dif_neg hfit, if_neg (by omega)]
    exact ⟨hlen, hpos, htake, hnul, hframe⟩

/-- A rendering through `buf_append` holds `fitPieces` of its pieces. -/
theorem renderSegments_holds {out : List UInt8} {a : AppendCtx} (h : Holds out [] a) (dir : Direction)
    (sep : List UInt8) (segs : List (PowerlineSegment Color)) :
    Holds out (fitPieces out.length (renderPieces ops dir sep segs)) (renderSegments ops bufAppend dir sep a segs) :=
  renderSegments_sim ops bufAppend pieceLog (fun a l => Holds out (fitPieces out.length l) a)
    (fun _ l s h => by simpa [fitPieces, pieceLog, List.foldl_append] using h.bufAppend s) dir sep segs h

/-- What the array holds reads back as a C string when it has no NUL. -/
theorem Holds.cStr_eq {out u : List UInt8} {a : AppendCtx} (h : Holds out u a) (hu : 0 ∉ u) :
    cStr a.buf = u := by
  obtain ⟨-, -, htake, hnul, -⟩ := h
  obtain ⟨hlt, h0⟩ := List.getElem?_eq_some.mp hnul
  rw [← List.take_append_drop a.pos a.buf, List.drop_eq_getElem_cons hlt, h0, htake, cStr_append_nul hu]

/-- The array `lle_powerline_render` starts from: a NUL at `output[0]`. -/
theorem holds_start (output : List UInt8) (h : 0 < output.length) :
    Holds output [] ⟨output.set 0 0, 0, by simpa using h⟩ := by
  refine ⟨by simp, rfl, rfl, by simp [h], fun i hi => ?_⟩
  rw [List.getElem?_set_ne (by omega)]

variable (lleSegmentOutputMax : Nat) (theme : Theme Color) (registry : SegmentRegistry Color)
  (ctx : PromptContext) (dir : Direction)

/-- **The bounded output.**  When `lle_powerline_render` collects segments, the
array holds what `buf_append` keeps of the rendering's pieces, then a NUL, then
the caller's bytes; the unbounded rendering is all of the pieces. -/
theorem llePowerlineRender_holds (output : List UInt8) (h : 0 < output.length)
    {segs : List (PowerlineSegment Color)}
    (hc : collectVisibleSegments ops lleSegmentOutputMax theme registry ctx powerlineMaxVisible
      theme.enabledSegments = some segs) (hne : segs ≠ []) :
    ∃ a, llePowerlineRender ops lleSegmentOutputMax theme registry ctx dir output = some (.success, a.buf) ∧
      Holds output (fitPieces output.length (renderPieces ops dir (separatorFor theme dir) segs)) a ∧
      llePowerlineRenderUnbounded ops lleSegmentOutputMax theme registry ctx dir =
        some (renderPieces ops dir (separatorFor theme dir) segs).flatten := by
  have hen : theme.enabledSegments ≠ [] := by
    intro he
    rw [he] at hc
    cases segs with
    | nil => exact hne rfl
    | cons _ _ => simp [collectVisibleSegments] at hc
  have hse : segs.isEmpty = false := by cases segs <;> simp_all
  refine ⟨_, ?_, renderSegments_holds ops (holds_start output h) dir _ segs, ?_⟩
  · simp [llePowerlineRender, hc, hen, hse, Nat.pos_iff_ne_zero.mp h]
  · simp [llePowerlineRenderUnbounded, hc, hse, renderSegments_append_eq]

/-! ## A piece dropped in the middle -/

/-- A colour code as the pieces it adds: none when it is empty. -/
def colorPiece (c : Color) (isFg : Bool) : List (List UInt8) :=
  if 0 < (ops.toAnsi c isFg).bytes.length then [(ops.toAnsi c isFg).bytes] else []

theorem bufAppendColor_pieceLog (isFg : Bool) (l : List (List UInt8)) (c : Color) :
    bufAppendColor ops pieceLog isFg l c = l ++ colorPiece ops c isFg := by
  unfold bufAppendColor colorPiece
  split <;> simp [pieceLog]

theorem foldl_fitStep_colorPiece (n : Nat) (u : List UInt8) (c : Color) (isFg : Bool) :
    (colorPiece ops c isFg).foldl (fitStep n) u = fitStep n u (ops.toAnsi c isFg).bytes := by
  unfold colorPiece fitStep
  split
  · rfl
  next h => simp [List.length_eq_zero.mp (Nat.eq_zero_of_not_pos h)]

theorem flatten_colorPiece (c : Color) (isFg : Bool) :
    (colorPiece ops c isFg).flatten = (ops.toAnsi c isFg).bytes := by
  unfold colorPiece
  split
  · simp
  next h => simp [List.length_eq_zero.mp (Nat.eq_zero_of_not_pos h)]

theorem fitStep_of_lt {n : Nat} {u s : List UInt8} (h : u.length + s.length < n) :
    fitStep n u s = u ++ s := if_pos h

theorem fitStep_of_le {n : Nat} {u s : List UInt8} (h : n ≤ u.length + s.length) :
    fitStep n u s = u := if_neg (by omega)

/-- Pieces that fit all together are all kept. -/
theorem foldl_fitStep_of_lt {n : Nat} (pieces : List (List UInt8)) :
    ∀ {u : List UInt8}, u.length + pieces.flatten.length < n → pieces.foldl (fitStep n) u = u ++ pieces.flatten := by
  induction pieces with
  | nil => simp
  | cons p ps ih =>
    intro u hu
    simp only [List.flatten_cons, List.length_append] at hu
    rw [List.foldl_cons, fitStep_of_lt (by omega), ih (by simp only [List.length_append]; omega), List.flatten_cons,
      List.append_assoc]

/-- An array larger than the unbounded rendering holds all of it. -/
theorem fitPieces_of_lt {n : Nat} {pieces : List (List UInt8)} (h : pieces.flatten.length < n) :
    fitPieces n pieces = pieces.flatten :=
  foldl_fitStep_of_lt pieces (by simpa using h)

/-- The name of the one segment of the failing input. -/
def segX : CString := ⟨lit "x", by decide⟩

/-- A segment that is always visible and renders `ab` into a content array of `n` bytes. -/
def abSegment (n : Nat) : PromptSegment Color :=
  ⟨none, fun _ _ => .ok ⟨lit "ab" ++ List.replicate (n - 2) 0, 2, false⟩⟩

/-- A registry that knows the segment `x` only. -/
def abRegistry (n : Nat) : SegmentRegistry Color :=
  ⟨fun name => if name = segX then some (abSegment n) else none⟩

/-- The theme of the failing input: the segment `x`, no per-segment entries, the
default separators. -/
def abTheme : Theme Color := ⟨[segX], [], ops.rgb 255 255 255, [0], [0]⟩

/-- The colours `x` gets, `(fg, bg)`. -/
def abColors : Color × Color := resolveSegmentColors ops (abTheme ops) segX ctx

/-- An output size that leaves room, after the two colour codes and a space, for
one more byte and the NUL. -/
def abSize : Nat :=
  (ops.toAnsi (abColors ops ctx).2 false).bytes.length + (ops.toAnsi (abColors ops ctx).1 true).bytes.length + 3

theorem stripAnsiLoop_nul (dstSize : Nat) (out s : List UInt8) :
    stripAnsiLoop dstSize false out (0 :: s) = some out := by
  unfold stripAnsiLoop
  simp

theorem stripAnsi_ab {n : Nat} (hn : 3 ≤ n) : stripAnsi (lit "ab" ++ List.replicate (n - 2) 0) n = some (lit "ab") := by
  obtain ⟨k, rfl⟩ : ∃ k, n = k + 3 := ⟨n - 3, by omega⟩
  show stripAnsiLoop (k + 3) false [] (0x61 :: 0x62 :: 0 :: List.replicate k 0) = some [0x61, 0x62]
  simp [stripAnsiLoop, copyByte, stripAnsiLoop_nul]

theorem collect_ab {n : Nat} (hn : 3 ≤ n) :
    collectVisibleSegments ops n (abTheme ops) (abRegistry n) ctx powerlineMaxVisible
      (abTheme ops).enabledSegments = some [⟨lit "ab", (abColors ops ctx).1, (abColors ops ctx).2⟩] := by
  simp [collectVisibleSegments, powerlineMaxVisible, abTheme, collectOne, abRegistry, abSegment,
    hiddenByConfig, stripAnsi_ab hn, abColors]

theorem renderPieces_ab (seg : PowerlineSegment Color) :
    renderPieces ops .leftToRight (separatorFor (abTheme ops) .leftToRight) [seg] =
      colorPiece ops seg.bg false ++ colorPiece ops seg.fg true ++
        [lit " ", seg.content, lit " ", lit "\x1b[0m"] ++ colorPiece ops seg.bg true ++
        [[0xEE, 0x82, 0xB0], lit "\x1b[0m"] := by
  simp [renderPieces, renderSegments, renderLeftToRight, segmentBody, bufAppendColorBg,
    bufAppendColorFg, bufAppendColor_pieceLog, bufAppendStr, bufAppendReset, pieceLog, separatorFor,
    abTheme, cStr_cons]
  rfl

/-- `buf_append` over the pieces of the failing input, in `|B| + |F| + 3` bytes:
the two colour codes and the space fit, `ab` does not, the space after it does,
and nothing after that. -/
theorem fitStep_ab (B F BB : List UInt8) :
    [[0xEE, 0x82, 0xB0], lit "\x1b[0m"].foldl (fitStep (B.length + F.length + 3))
      (fitStep (B.length + F.length + 3)
        ([lit " ", lit "ab", lit " ", lit "\x1b[0m"].foldl (fitStep (B.length + F.length + 3))
          (fitStep (B.length + F.length + 3) (fitStep (B.length + F.length + 3) [] B) F)) BB) =
      B ++ F ++ lit "  " := by
  have hsp : (lit " ").length = 1 := rfl
  have hab : (lit "ab").length = 2 := rfl
  have hrs : (lit "\x1b[0m").length = 4 := rfl
  have e1 : fitStep (B.length + F.length + 3) [] B = B := fitStep_of_lt (by simp; omega)
  have e2 : fitStep (B.length + F.length + 3) B F = B ++ F := fitStep_of_lt (by omega)
  have e3 : fitStep (B.length + F.length + 3) (B ++ F) (lit " ") = B ++ F ++ lit " " :=
    fitStep_of_lt (by simp [hsp])
  have e4 : fitStep (B.length + F.length + 3) (B ++ F ++ lit " ") (lit "ab") = B ++ F ++ lit " " :=
    fitStep_of_le (by simp [hsp, hab]; omega)
  have e5 : fitStep (B.length + F.length + 3) (B ++ F ++ lit " ") (lit " ") = B ++ F ++ lit "  " :=
    (fitStep_of_lt (by simp [hsp]; omega)).trans (by simp only [List.append_assoc]; rfl)
  have hlen : (B ++ F ++ lit "  ").length = B.length + F.length + 2 := by
    simp only [List.length_append]; rfl
  have e6 : ∀ s : List UInt8, 1 ≤ s.length →
      fitStep (B.length + F.length + 3) (B ++ F ++ lit "  ") s = B ++ F ++ lit "  " :=
    fun s hs => fitStep_of_le (by omega)
  have e7 : fitStep (B.length + F.length + 3) (B ++ F ++ lit "  ") BB = B ++ F ++ lit "  " := by
    unfold fitStep
    split
    · rw [List.length_eq_zero.mp (show BB.length = 0 by omega), List.append_nil]
    · rfl
  simp only [List.foldl_cons, List.foldl_nil, e1, e2, e3, e4, e5, e7, e6 [0xEE, 0x82, 0xB0] (by decide),
    e6 _ (by decide : 1 ≤ (lit "\x1b[0m").length)]

/-- **Overflow drops a piece in the middle.**  For any colour functions and any
context, take the one segment `x` rendering `ab`, left to right, in `abSize`
bytes: the content does not fit and is dropped, but the space after it fits and
is appended.  The output reads bg, fg, space, space, which is not a prefix of
the unbounded rendering bg, fg, space, `ab`, …. -/
theorem llePowerlineRender_drops_inner_piece (lleSegmentOutputMax : Nat) (hmax : 3 ≤ lleSegmentOutputMax) :
    ∃ out u, llePowerlineRender ops lleSegmentOutputMax (abTheme ops) (abRegistry lleSegmentOutputMax) ctx
        .leftToRight (List.replicate (abSize ops ctx) 0) = some (.success, out) ∧
      llePowerlineRenderUnbounded ops lleSegmentOutputMax (abTheme ops) (abRegistry lleSegmentOutputMax) ctx
        .leftToRight = some u ∧
      cStr out = (ops.toAnsi (abColors ops ctx).2 false).bytes ++ (ops.toAnsi (abColors ops ctx).1 true).bytes ++
        lit "  " ∧
      ¬ cStr out <+: cStr u := by
  obtain ⟨a, hrender, hholds, hunb⟩ := llePowerlineRender_holds ops lleSegmentOutputMax (abTheme ops)
    (abRegistry lleSegmentOutputMax) ctx .leftToRight (List.replicate (abSize ops ctx) 0)
    (by simp [abSize]) (collect_ab ops ctx hmax) (List.cons_ne_nil _ _)
  have hB := (ops.toAnsi (abColors ops ctx).2 false).nul_free
  have hF := (ops.toAnsi (abColors ops ctx).1 true).nul_free
  rw [List.length_replicate, renderPieces_ab] at hholds
  rw [renderPieces_ab] at hunb
  simp only [fitPieces, List.foldl_append, foldl_fitStep_colorPiece, abSize, fitStep_ab] at hholds
  have hout : cStr a.buf = (ops.toAnsi (abColors ops ctx).2 false).bytes ++
      (ops.toAnsi (abColors ops ctx).1 true).bytes ++ lit "  " :=
    hholds.cStr_eq (by simp [hB, hF]; decide)
  refine ⟨a.buf, _, hrender, hunb, hout, ?_⟩
  simp only [hout, List.flatten_append, flatten_colorPiece, List.flatten_cons, List.append_assoc]
  rw [cStr_append hB, cStr_append hF, cStr_append (by decide : 0 ∉ lit " "),
    List.prefix_append_right_inj, List.prefix_append_right_inj]
  intro h
  exact absurd (List.cons_prefix_cons.mp (List.cons_prefix_cons.mp
    (h : [(0x20 : UInt8), 0x20] <+: 0x20 :: 0x61 :: _)).2).1 (by decide)

/-- Colour functions that write `ESC[97m` for every foreground and `ESC[40m` for
every background. -/
def monoOps : ColorOps Unit :=
  ⟨fun _ _ _ => (), id, fun _ => true, fun c _ _ => c,
    fun _ isFg => if isFg then ⟨lit "\x1b[97m", by decide⟩ else ⟨lit "\x1b[40m", by decide⟩⟩

theorem llePowerlineRender_drops_inner_piece_mono :
    3 ≤ 256 ∧
      ∃ out u, llePowerlineRender monoOps 256 (abTheme monoOps) (abRegistry 256) ⟨true, true⟩
          .leftToRight (List.replicate (abSize monoOps ⟨true, true⟩) 0) = some (.success, out) ∧
        llePowerlineRenderUnbounded monoOps 256 (abTheme monoOps) (abRegistry 256) ⟨true, true⟩
          .leftToRight = some u ∧
        cStr out = (monoOps.toAnsi (abColors monoOps ⟨true, true⟩).2 false).bytes ++
          (monoOps.toAnsi (abColors monoOps ⟨true, true⟩).1 true).bytes ++ lit "  " ∧
        ¬ cStr out <+: cStr u :=
  ⟨by decide, llePowerlineRender_drops_inner_piece monoOps ⟨true, true⟩ 256 (by decide)⟩

end Powerline
end Lush
