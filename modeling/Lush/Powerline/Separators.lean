import Lush.Powerline.Collect

/-!
# One separator per segment

The renderer's tests count separators with `count_occurrences`: `strstr`
finds the next copy of the glyph, and the scan resumes after it.  When the
glyph is made of bytes from `0x80` up, as the default arrows are, a copy can
only sit where no ASCII byte is, and every colour code, space and reset the
renderer writes is ASCII.  A copy is then a separator the renderer wrote, or
lies in a segment's content.

Main results:

* **`countOccurrencesFrom_append`**: an ASCII byte at the junction of two
  texts splits the count between them;
* **`renderLeftToRight_count`**, **`renderRightToLeft_count`**: the
  unbounded renderings in either direction hold one copy per segment, when no
  content holds one;
* **`llePowerlineRender_separator_count`**: so does the output array, when
  it is larger than the unbounded rendering.
-/

namespace Lush
namespace Powerline

/-! ## The count of the tests -/

/-- The scan of `count_occurrences(haystack, needle)`, for a non-empty needle:
at a match `count++` and the scan resumes `strlen(needle)` bytes after its
start; `skip` is how many bytes of the last match are still ahead. -/
def countOccurrencesFrom (needle : List UInt8) : Nat → List UInt8 → Nat
  | _, [] => 0
  | skip + 1, _ :: s => countOccurrencesFrom needle skip s
  | 0, c :: s =>
    if needle <+: c :: s then countOccurrencesFrom needle (needle.length - 1) s + 1
    else countOccurrencesFrom needle 0 s

@[simp] theorem countOccurrencesFrom_nil (needle : List UInt8) (k : Nat) :
    countOccurrencesFrom needle k [] = 0 := by
  cases k <;> rfl

@[simp] theorem countOccurrencesFrom_succ_cons (needle : List UInt8) (k : Nat) (c : UInt8) (s : List UInt8) :
    countOccurrencesFrom needle (k + 1) (c :: s) = countOccurrencesFrom needle k s := rfl

theorem countOccurrencesFrom_zero_cons (needle : List UInt8) (c : UInt8) (s : List UInt8) :
    countOccurrencesFrom needle 0 (c :: s) =
      if needle <+: c :: s then countOccurrencesFrom needle (needle.length - 1) s + 1
      else countOccurrencesFrom needle 0 s := rfl

/-- `count_occurrences(haystack, needle)` of the renderer's tests, over the C
string in `haystack`. -/
def countOccurrences (haystack needle : List UInt8) : Nat := countOccurrencesFrom needle 0 (cStr haystack)

/-- Every byte is ASCII. -/
def Ascii (l : List UInt8) : Prop := ∀ b ∈ l, b < 0x80

/-- The text is empty or starts with an ASCII byte. -/
def StartsAscii (l : List UInt8) : Prop := ∀ b ∈ l.head?, b < 0x80

theorem Ascii.startsAscii {l : List UInt8} (h : Ascii l) : StartsAscii l := by
  cases l with
  | nil => nofun
  | cons b l => exact fun c hc => h c (by simp_all)

theorem startsAscii_append {A : List UInt8} (hA : Ascii A) {b : UInt8} (hb : b < 0x80) (B : List UInt8) :
    StartsAscii (A ++ b :: B) := by
  cases A with
  | nil => exact fun c hc => by simp_all
  | cons a A => exact fun c hc => hA c (by simp_all)

theorem countOccurrencesFrom_length (needle l : List UInt8) : countOccurrencesFrom needle l.length l = 0 := by
  induction l with
  | nil => rfl
  | cons _ l ih => exact ih

theorem countOccurrencesFrom_eq_zero {S L : List UInt8} (h : ¬ S <:+: L) : countOccurrencesFrom S 0 L = 0 := by
  induction L with
  | nil => rfl
  | cons c L ih =>
    rw [countOccurrencesFrom_zero_cons, if_neg fun hp => h hp.isInfix]
    exact ih fun hi => h (List.infix_cons hi)

section Count

variable {S : List UInt8} (hna : ∀ b ∈ S, 0x80 ≤ b)
include hna

theorem not_prefix_of_ascii (hS : S ≠ []) {b : UInt8} (hb : b < 0x80) (r : List UInt8) : ¬ S <+: b :: r := by
  obtain ⟨s, S', rfl⟩ := List.exists_cons_of_ne_nil hS
  intro h
  obtain rfl : s = b := (List.cons_prefix_cons.mp h).1
  exact absurd (hna s (List.mem_cons_self _ _)) (by simpa using hb)

/-- A match of `S` never runs over an ASCII byte. -/
theorem prefix_of_prefix_append_cons {A B : List UInt8} {b : UInt8} (hb : b < 0x80) (h : S <+: A ++ b :: B) :
    S <+: A := by
  have hbS : b ∉ S := fun hm => absurd (hna b hm) (by simpa using hb)
  have hbA : b ∈ A ++ [b] := List.mem_append_right A (List.mem_singleton_self b)
  rcases List.prefix_or_prefix_of_prefix h (show A ++ [b] <+: A ++ b :: B from ⟨B, by simp⟩) with h' | h'
  · exact (List.prefix_concat_iff.mp h').resolve_left fun he => hbS (he ▸ hbA)
  · exact absurd (h'.subset hbA) hbS

/-- An ASCII head is passed over. -/
theorem countOccurrencesFrom_ascii (hS : S ≠ []) {A : List UInt8} (hA : Ascii A) (B : List UInt8) :
    countOccurrencesFrom S 0 (A ++ B) = countOccurrencesFrom S 0 B := by
  induction A with
  | nil => rfl
  | cons a A ih =>
    rw [List.cons_append, countOccurrencesFrom_zero_cons,
      if_neg (not_prefix_of_ascii hna hS (hA a (List.mem_cons_self _ _)) _),
      ih fun b hb => hA b (List.mem_cons_of_mem _ hb)]

/-- An ASCII byte splits the scan: what is before it is counted alone, and the
scan resumes after it with nothing left to skip. -/
theorem countOccurrencesFrom_split (hS : S ≠ []) {b : UInt8} (hb : b < 0x80) (B : List UInt8) :
    ∀ {k : Nat} {A : List UInt8}, k ≤ A.length →
      countOccurrencesFrom S k (A ++ b :: B) = countOccurrencesFrom S k A + countOccurrencesFrom S 0 B
  | 0, [], _ => by
    rw [List.nil_append, countOccurrencesFrom_zero_cons, if_neg (not_prefix_of_ascii hna hS hb B),
      countOccurrencesFrom_nil, Nat.zero_add]
  | k + 1, a :: A, hk => by
    rw [List.cons_append, countOccurrencesFrom_succ_cons, countOccurrencesFrom_succ_cons,
      countOccurrencesFrom_split hS hb B (by simp only [List.length_cons] at hk; omega)]
  | 0, a :: A, _ => by
    rw [List.cons_append, countOccurrencesFrom_zero_cons, countOccurrencesFrom_zero_cons]
    by_cases hp : S <+: a :: A
    · have hlen : S.length - 1 ≤ A.length := by
        have := hp.length_le
        simp only [List.length_cons] at this
        omega
      rw [if_pos (show S <+: a :: (A ++ b :: B) from hp.trans ⟨b :: B, rfl⟩), if_pos hp,
        countOccurrencesFrom_split hS hb B hlen]
      omega
    · rw [if_neg (show ¬ S <+: a :: (A ++ b :: B) from fun h =>
          hp (prefix_of_prefix_append_cons hna hb (show S <+: (a :: A) ++ b :: B from h))),
        if_neg hp, countOccurrencesFrom_split hS hb B (Nat.zero_le _)]

/-- **The count splits at an ASCII junction.** -/
theorem countOccurrencesFrom_append (hS : S ≠ []) {A B : List UInt8} (hB : StartsAscii B) :
    countOccurrencesFrom S 0 (A ++ B) = countOccurrencesFrom S 0 A + countOccurrencesFrom S 0 B := by
  cases B with
  | nil => simp [countOccurrencesFrom]
  | cons b B =>
    have hb : b < 0x80 := hB b rfl
    rw [countOccurrencesFrom_split hna hS hb B (Nat.zero_le _),
      ← List.singleton_append, countOccurrencesFrom_ascii hna hS (fun c hc => by simp_all)]

/-- An ASCII text holds no copy of `S`. -/
theorem countOccurrencesFrom_ascii_eq_zero (hS : S ≠ []) {A : List UInt8} (hA : Ascii A) :
    countOccurrencesFrom S 0 A = 0 := by
  simpa using countOccurrencesFrom_ascii hna hS hA []

theorem cStr_separator : cStr S = S := by
  simpa using cStr_append (fun h => absurd (hna 0 h) (by decide)) []

end Count

theorem countOccurrencesFrom_self {S : List UInt8} (hS : S ≠ []) : countOccurrencesFrom S 0 S = 1 := by
  obtain ⟨s, S', rfl⟩ := List.exists_cons_of_ne_nil hS
  rw [countOccurrencesFrom_zero_cons, if_pos (List.prefix_refl _), List.length_cons, Nat.add_sub_cancel,
    countOccurrencesFrom_length]

/-! ## The unbounded renderings -/

variable {Color : Type} (ops : ColorOps Color)

theorem bufAppendColor_append (isFg : Bool) (a : List UInt8) (c : Color) :
    bufAppendColor ops (· ++ ·) isFg a c = a ++ (ops.toAnsi c isFg).bytes := by
  unfold bufAppendColor
  split
  · rfl
  next h => simp [List.length_eq_zero.mp (Nat.eq_zero_of_not_pos h)]

/-- The bytes of a segment's block. -/
def blockBytes (seg : PowerlineSegment Color) : List UInt8 :=
  (ops.toAnsi seg.bg false).bytes ++ (ops.toAnsi seg.fg true).bytes ++ 0x20 :: seg.content ++ [0x20]

theorem segmentBody_append (a : List UInt8) (seg : PowerlineSegment Color) :
    segmentBody ops (· ++ ·) a seg = a ++ blockBytes ops seg := by
  have hsp : cStr (lit " ") = [0x20] := rfl
  simp [segmentBody, bufAppendColorBg, bufAppendColorFg, bufAppendColor_append, bufAppendStr, blockBytes, hsp]

theorem renderLeftToRight_append (sep a : List UInt8) (segs : List (PowerlineSegment Color)) :
    renderLeftToRight ops (· ++ ·) sep a segs = a ++ renderLeftToRight ops (· ++ ·) sep [] segs :=
  renderLeftToRight_sim ops (· ++ ·) (· ++ ·) (fun u v => u = a ++ v) (fun _ _ _ h => by simp [h]) sep segs
    (List.append_nil a).symm

theorem renderRightToLeftLoop_append (sep a : List UInt8) (prev : Option (PowerlineSegment Color))
    (segs : List (PowerlineSegment Color)) :
    renderRightToLeftLoop ops (· ++ ·) sep prev a segs = a ++ renderRightToLeftLoop ops (· ++ ·) sep prev [] segs :=
  renderRightToLeftLoop_sim ops (· ++ ·) (· ++ ·) (fun u v => u = a ++ v) (fun _ _ _ h => by simp [h]) sep segs
    prev (List.append_nil a).symm

/-- The code for the previous segment's background, in `render_right_to_left`. -/
def prevBgBytes : Option (PowerlineSegment Color) → List UInt8
  | none => []
  | some p => (ops.toAnsi p.bg false).bytes

/-- One segment of `render_right_to_left`: codes, the separator, the block. -/
theorem renderRightToLeftLoop_cons (sep : List UInt8) (prev : Option (PowerlineSegment Color))
    (seg : PowerlineSegment Color) (rest : List (PowerlineSegment Color)) :
    renderRightToLeftLoop ops (· ++ ·) sep prev [] (seg :: rest) =
      (ops.toAnsi seg.bg true).bytes ++ prevBgBytes ops prev ++ cStr sep ++ blockBytes ops seg ++
        renderRightToLeftLoop ops (· ++ ·) sep (some seg) [] rest := by
  rcases prev with _ | p <;> simp only [renderRightToLeftLoop.eq_2, renderRightToLeftLoop.eq_3] <;>
    rw [renderRightToLeftLoop_append] <;>
    simp [bufAppendColorFg, bufAppendColorBg, bufAppendColor_append, bufAppendStr, segmentBody_append, prevBgBytes]

/-- One segment of `render_left_to_right` before another: the block, codes and
the separator. -/
theorem renderLeftToRight_cons_cons (sep : List UInt8) (seg next : PowerlineSegment Color)
    (rest : List (PowerlineSegment Color)) :
    renderLeftToRight ops (· ++ ·) sep [] (seg :: next :: rest) =
      blockBytes ops seg ++ (ops.toAnsi seg.bg true).bytes ++ (ops.toAnsi next.bg false).bytes ++ cStr sep ++
        renderLeftToRight ops (· ++ ·) sep [] (next :: rest) := by
  rw [renderLeftToRight, renderLeftToRight_append]
  simp [bufAppendColorFg, bufAppendColorBg, bufAppendColor_append, bufAppendStr, segmentBody_append]

/-- The last segment of `render_left_to_right`: the block, a reset, a code, the
separator and a reset. -/
theorem renderLeftToRight_singleton (sep : List UInt8) (seg : PowerlineSegment Color) :
    renderLeftToRight ops (· ++ ·) sep [] [seg] =
      blockBytes ops seg ++ lit "\x1b[0m" ++ (ops.toAnsi seg.bg true).bytes ++ cStr sep ++ lit "\x1b[0m" := by
  simp [renderLeftToRight, bufAppendColorFg, bufAppendReset, bufAppendColor_append, bufAppendStr,
    segmentBody_append]

theorem ascii_reset : Ascii (lit "\x1b[0m") := by
  unfold Ascii
  decide

section Count

variable (hansi : ∀ c isFg, Ascii (ops.toAnsi c isFg).bytes)
include hansi

theorem ascii_codes (c c' : Color) (isFg isFg' : Bool) :
    Ascii ((ops.toAnsi c isFg).bytes ++ (ops.toAnsi c' isFg').bytes) := fun b hb => by
  rcases List.mem_append.mp hb with hb | hb
  exacts [hansi _ _ b hb, hansi _ _ b hb]

theorem ascii_prevBgBytes (prev : Option (PowerlineSegment Color)) : Ascii (prevBgBytes ops prev) := by
  cases prev with
  | none => nofun
  | some p => exact hansi _ _

theorem startsAscii_blockBytes (seg : PowerlineSegment Color) (r : List UInt8) :
    StartsAscii (blockBytes ops seg ++ r) := by
  simpa [blockBytes] using startsAscii_append (ascii_codes ops hansi seg.bg seg.fg false true)
    (show (0x20 : UInt8) < 0x80 by decide) (seg.content ++ 0x20 :: r)

theorem startsAscii_renderLeftToRight (S : List UInt8) (segs : List (PowerlineSegment Color)) :
    StartsAscii (renderLeftToRight ops (· ++ ·) S [] segs) := by
  match segs with
  | [] => exact nofun
  | [seg] =>
    rw [renderLeftToRight_singleton]
    simpa only [List.append_assoc] using startsAscii_blockBytes ops hansi seg _
  | seg :: next :: rest =>
    rw [renderLeftToRight_cons_cons]
    simpa only [List.append_assoc] using startsAscii_blockBytes ops hansi seg _

variable {S : List UInt8} (hS : S ≠ []) (hna : ∀ b ∈ S, 0x80 ≤ b)
include hS hna

/-- A block holds no copy of `S` when its content holds none: its colour codes
and spaces are ASCII. -/
theorem countOccurrencesFrom_blockBytes {seg : PowerlineSegment Color} (hc : ¬ S <:+: seg.content)
    (r : List UInt8) : countOccurrencesFrom S 0 (blockBytes ops seg ++ r) = countOccurrencesFrom S 0 r := by
  have hcodes : Ascii ((ops.toAnsi seg.bg false).bytes ++ (ops.toAnsi seg.fg true).bytes ++ [0x20]) :=
    fun b hb => (List.mem_append.mp hb).elim (ascii_codes ops hansi _ _ _ _ b) (by simp_all)
  rw [blockBytes, show ∀ x y : List UInt8, x ++ y ++ 0x20 :: seg.content ++ [0x20] ++ r =
      (x ++ y ++ [0x20]) ++ (seg.content ++ 0x20 :: r) by simp, countOccurrencesFrom_ascii hna hS hcodes,
    countOccurrencesFrom_split hna hS (by decide) r (Nat.zero_le _), countOccurrencesFrom_eq_zero hc, Nat.zero_add]

/-- **One separator per segment, left to right.**  Each block is followed by
colour codes and the separator, the last one by resets around them. -/
theorem renderLeftToRight_count (segs : List (PowerlineSegment Color)) (hc : ∀ seg ∈ segs, ¬ S <:+: seg.content) :
    countOccurrencesFrom S 0 (renderLeftToRight ops (· ++ ·) S [] segs) = segs.length := by
  induction segs with
  | nil => rfl
  | cons seg rest ih =>
    have hseg := hc seg (List.mem_cons_self _ _)
    cases rest with
    | nil =>
      rw [renderLeftToRight_singleton, cStr_separator hna]
      simp only [List.append_assoc]
      rw [countOccurrencesFrom_blockBytes ops hansi hS hna hseg, countOccurrencesFrom_ascii hna hS ascii_reset,
        countOccurrencesFrom_ascii hna hS (hansi _ _), countOccurrencesFrom_append hna hS ascii_reset.startsAscii,
        countOccurrencesFrom_self hS, countOccurrencesFrom_ascii_eq_zero hna hS ascii_reset]
      rfl
    | cons next rest =>
      rw [renderLeftToRight_cons_cons, cStr_separator hna]
      simp only [List.append_assoc]
      rw [countOccurrencesFrom_blockBytes ops hansi hS hna hseg,
        ← List.append_assoc, countOccurrencesFrom_ascii hna hS (ascii_codes ops hansi _ _ _ _),
        countOccurrencesFrom_append hna hS (startsAscii_renderLeftToRight ops hansi _ _), countOccurrencesFrom_self hS,
        ih fun s hs => hc s (List.mem_cons_of_mem _ hs)]
      simp only [List.length_cons]
      omega

/-- **One separator per segment, right to left.**  Each block is preceded by
colour codes and the separator. -/
theorem renderRightToLeftLoop_count (segs : List (PowerlineSegment Color)) (hc : ∀ seg ∈ segs, ¬ S <:+: seg.content)
    (prev : Option (PowerlineSegment Color)) :
    countOccurrencesFrom S 0 (renderRightToLeftLoop ops (· ++ ·) S prev [] segs) = segs.length := by
  induction segs generalizing prev with
  | nil => rfl
  | cons seg rest ih =>
    rw [renderRightToLeftLoop_cons, cStr_separator hna]
    simp only [List.append_assoc]
    rw [countOccurrencesFrom_ascii hna hS (hansi _ _), countOccurrencesFrom_ascii hna hS (ascii_prevBgBytes ops hansi _),
      countOccurrencesFrom_append hna hS (startsAscii_blockBytes ops hansi seg _), countOccurrencesFrom_self hS,
      countOccurrencesFrom_blockBytes ops hansi hS hna (hc seg (List.mem_cons_self _ _)),
      ih (fun s hs => hc s (List.mem_cons_of_mem _ hs)), List.length_cons, Nat.add_comm]

theorem renderSegments_count (dir : Direction) (segs : List (PowerlineSegment Color))
    (hc : ∀ seg ∈ segs, ¬ S <:+: seg.content) :
    countOccurrencesFrom S 0 (renderSegments ops (· ++ ·) dir S [] segs) = segs.length := by
  cases dir with
  | leftToRight => exact renderLeftToRight_count ops hansi hS hna segs hc
  | rightToLeft =>
    rw [renderSegments, renderRightToLeft, bufAppendReset,
      countOccurrencesFrom_append hna hS ascii_reset.startsAscii,
      renderRightToLeftLoop_count ops hansi hS hna segs hc, countOccurrencesFrom_ascii_eq_zero hna hS ascii_reset,
      Nat.add_zero]

end Count

/-! ## The output array -/

theorem nul_not_mem_blockBytes {seg : PowerlineSegment Color} (hc : 0 ∉ seg.content) : 0 ∉ blockBytes ops seg := by
  simp [blockBytes, (ops.toAnsi _ _).nul_free, hc]

section Nul

variable {S : List UInt8} (hS0 : 0 ∉ S)
include hS0

/-- The unbounded rendering holds no NUL when the separator and the contents
hold none: colour codes are C strings. -/
theorem nul_not_mem_renderSegments (dir : Direction) (segs : List (PowerlineSegment Color))
    (hc : ∀ seg ∈ segs, 0 ∉ seg.content) : 0 ∉ renderSegments ops (· ++ ·) dir S [] segs := by
  have hsep : cStr S = S := by simpa using cStr_append hS0 []
  have hreset : 0 ∉ lit "\x1b[0m" := by decide
  cases dir with
  | leftToRight =>
    induction segs with
    | nil => nofun
    | cons seg rest ih =>
      have hseg := nul_not_mem_blockBytes ops (hc seg (List.mem_cons_self _ _))
      cases rest with
      | nil => simp [renderSegments, renderLeftToRight_singleton, hsep, hseg, hreset, hS0, (ops.toAnsi _ _).nul_free]
      | cons next rest =>
        have ih := ih fun s hs => hc s (List.mem_cons_of_mem _ hs)
        simp only [renderSegments] at ih ⊢
        simp [renderLeftToRight_cons_cons, hsep, hseg, hS0, (ops.toAnsi _ _).nul_free, ih]
  | rightToLeft =>
    have hloop : ∀ (segs : List (PowerlineSegment Color)), (∀ seg ∈ segs, 0 ∉ seg.content) →
        ∀ prev, 0 ∉ renderRightToLeftLoop ops (· ++ ·) S prev [] segs := by
      intro segs hc
      induction segs with
      | nil => exact fun _ => nofun
      | cons seg rest ih =>
        intro prev
        have hpb : 0 ∉ prevBgBytes ops prev := by cases prev <;> simp [prevBgBytes, (ops.toAnsi _ _).nul_free]
        simp [renderRightToLeftLoop_cons, hsep, hS0, hpb, (ops.toAnsi _ _).nul_free,
          nul_not_mem_blockBytes ops (hc seg (List.mem_cons_self _ _)),
          ih (fun s hs => hc s (List.mem_cons_of_mem _ hs))]
    simp [renderSegments, renderRightToLeft, bufAppendReset, hloop segs hc, hreset]

end Nul

variable (lleSegmentOutputMax : Nat) (theme : Theme Color) (registry : SegmentRegistry Color)
  (ctx : PromptContext) (dir : Direction)

/-- **One separator per segment in the output array.**  For every theme,
registry, context and direction, every list of collected segments and every
output array larger than the unbounded rendering: when the separator is
non-empty, made of bytes from `0x80` up and found in no content, and every
colour code is ASCII, `count_occurrences` finds the separator in the output
exactly once per segment. -/
theorem llePowerlineRender_separator_count (output : List UInt8) (h : 0 < output.length)
    {segs : List (PowerlineSegment Color)}
    (hc : collectVisibleSegments ops lleSegmentOutputMax theme registry ctx powerlineMaxVisible
      theme.enabledSegments = some segs)
    (hS : separatorFor theme dir ≠ []) (hna : ∀ b ∈ separatorFor theme dir, 0x80 ≤ b)
    (hcont : ∀ seg ∈ segs, ¬ separatorFor theme dir <:+: seg.content)
    (hansi : ∀ c isFg, Ascii (ops.toAnsi c isFg).bytes)
    (hfit : ∀ u, llePowerlineRenderUnbounded ops lleSegmentOutputMax theme registry ctx dir = some u →
      u.length < output.length) :
    ∃ out, llePowerlineRender ops lleSegmentOutputMax theme registry ctx dir output = some (.success, out) ∧
      countOccurrences out (separatorFor theme dir) = segs.length := by
  by_cases hne : segs = []
  · -- nothing collected: the array starts with a NUL
    subst hne
    obtain ⟨o, os, ho⟩ := List.exists_cons_of_length_pos h
    refine ⟨output.set 0 0, ?_, by simp [countOccurrences, ho, cStr_cons]⟩
    by_cases hen : theme.enabledSegments = []
    · simp [llePowerlineRender, hen, Nat.pos_iff_ne_zero.mp h]
    · simp [llePowerlineRender, hen, hc, Nat.pos_iff_ne_zero.mp h]
  · obtain ⟨a, hrun, hholds, hunb⟩ := llePowerlineRender_holds ops lleSegmentOutputMax theme registry ctx dir output h hc hne
    have hflat := renderSegments_append_eq ops dir (separatorFor theme dir) segs
    rw [fitPieces_of_lt (hfit _ hunb), ← hflat] at hholds
    have hS0 : 0 ∉ separatorFor theme dir := fun h0 => absurd (hna 0 h0) (by decide)
    refine ⟨a.buf, hrun, ?_⟩
    rw [countOccurrences, hholds.cStr_eq (nul_not_mem_renderSegments ops hS0 dir segs
      (collectVisibleSegments_nul_free ops lleSegmentOutputMax theme registry ctx hc)),
      renderSegments_count ops hansi hS hna dir segs hcont]

/-- Two more segment names. -/
def segY : CString := ⟨lit "y", by decide⟩

def segZ : CString := ⟨lit "z", by decide⟩

/-- A segment that is always visible and renders `s` into a content array of `n` bytes. -/
def textSegment {Color : Type} (s : List UInt8) (n : Nat) : PromptSegment Color :=
  ⟨none, fun _ _ => .ok ⟨s ++ List.replicate (n - s.length) 0, s.length, false⟩⟩

/-- A registry of three segments, `x`, `y` and `z`, rendering `ab`, `cd` and `ef`. -/
def xyzRegistry {Color : Type} (n : Nat) : SegmentRegistry Color :=
  ⟨fun name => if name = segX then some (textSegment (lit "ab") n)
    else if name = segY then some (textSegment (lit "cd") n)
    else if name = segZ then some (textSegment (lit "ef") n) else none⟩

/-- The theme that enables `x`, `y` and `z`, with the default separators. -/
def xyzTheme {Color : Type} (ops : ColorOps Color) : Theme Color :=
  ⟨[segX, segY, segZ], [], ops.rgb 255 255 255, [0], [0]⟩

/-- The three segments as `collect_visible_segments` stores them. -/
def xyzCollected : List (PowerlineSegment Unit) := [⟨lit "ab", (), ()⟩, ⟨lit "cd", (), ()⟩, ⟨lit "ef", (), ()⟩]

theorem collect_xyz :
    collectVisibleSegments monoOps 256 (xyzTheme monoOps) (xyzRegistry 256) ⟨true, true⟩ powerlineMaxVisible
      (xyzTheme monoOps).enabledSegments = some xyzCollected := rfl

theorem separatorFor_xyz : separatorFor (xyzTheme monoOps) .rightToLeft = [0xEE, 0x82, 0xB2] := rfl

/-- The right-to-left rendering of the three segments takes 80 bytes. -/
theorem unbounded_xyz_fits : ∀ u, llePowerlineRenderUnbounded monoOps 256 (xyzTheme monoOps) (xyzRegistry 256)
    ⟨true, true⟩ .rightToLeft = some u → u.length < (List.replicate 128 (0 : UInt8)).length := by
  intro u hu
  have hunb : llePowerlineRenderUnbounded monoOps 256 (xyzTheme monoOps) (xyzRegistry 256) ⟨true, true⟩
      .rightToLeft = some (renderSegments monoOps (· ++ ·) .rightToLeft [0xEE, 0x82, 0xB2] [] xyzCollected) := rfl
  have hlen : (renderSegments monoOps (· ++ ·) .rightToLeft [0xEE, 0x82, 0xB2] [] xyzCollected).length = 80 := rfl
  rw [hunb, Option.some.injEq] at hu
  simp [← hu, hlen]

theorem ascii_monoOps : ∀ c isFg, Ascii (monoOps.toAnsi c isFg).bytes := by
  intro c isFg
  cases c
  cases isFg <;> (unfold Ascii; decide)

theorem llePowerlineRender_separator_count_three :
    0 < (List.replicate 128 (0 : UInt8)).length ∧
      collectVisibleSegments monoOps 256 (xyzTheme monoOps) (xyzRegistry 256) ⟨true, true⟩ powerlineMaxVisible
        (xyzTheme monoOps).enabledSegments = some xyzCollected ∧
      separatorFor (xyzTheme monoOps) .rightToLeft ≠ [] ∧
      (∀ b ∈ separatorFor (xyzTheme monoOps) .rightToLeft, 0x80 ≤ b) ∧
      (∀ seg ∈ xyzCollected, ¬ separatorFor (xyzTheme monoOps) .rightToLeft <:+: seg.content) ∧
      (∀ c isFg, Ascii (monoOps.toAnsi c isFg).bytes) ∧
      (∀ u, llePowerlineRenderUnbounded monoOps 256 (xyzTheme monoOps) (xyzRegistry 256) ⟨true, true⟩ .rightToLeft =
        some u → u.length < (List.replicate 128 (0 : UInt8)).length) ∧
      ∃ out, llePowerlineRender monoOps 256 (xyzTheme monoOps) (xyzRegistry 256) ⟨true, true⟩ .rightToLeft
          (List.replicate 128 0) = some (.success, out) ∧
        countOccurrences out (separatorFor (xyzTheme monoOps) .rightToLeft) = xyzCollected.length := by
  have hcont : ∀ seg ∈ xyzCollected, ¬ separatorFor (xyzTheme monoOps) .rightToLeft <:+: seg.content := by
    rw [separatorFor_xyz]
    decide
  have hna : ∀ b ∈ separatorFor (xyzTheme monoOps) .rightToLeft, 0x80 ≤ b := by
    rw [separatorFor_xyz]
    decide
  have hS : separatorFor (xyzTheme monoOps) .rightToLeft ≠ [] := by
    rw [separatorFor_xyz]
    exact List.cons_ne_nil _ _
  have hlen : 0 < (List.replicate 128 (0 : UInt8)).length := by simp
  exact ⟨hlen, collect_xyz, hS, hna, hcont, ascii_monoOps, unbounded_xyz_fits,
    llePowerlineRender_separator_count monoOps 256 (xyzTheme monoOps) (xyzRegistry 256) ⟨true, true⟩ .rightToLeft
      (List.replicate 128 0) hlen collect_xyz hS hna hcont ascii_monoOps unbounded_xyz_fits⟩

end Powerline
end Lush
