import Lush.Powerline.Overflow

/-!
# `strip_ansi` and what `collect_visible_segments` keeps

`strip_ansi` removes each CSI sequence (`ESC [` up to a final byte in
`0x40..0x7E`) from a segment's content before the renderer wraps it in its own
colours.  An `ESC` not followed by `[` is copied like any other byte, so an
`ESC` right before a CSI sequence lands in the output next to whatever follows
the skipped sequence.

Main results:

* **`stripAnsi_csi_free`**, **`stripAnsi_idem`**: when no `ESC` of the source
  stands right before a CSI introducer, the output holds no CSI introducer, and
  stripping it again gives it back.
* **`stripAnsi_rebuilds_csi`**: `ESC ESC [ m [ 3 1 m X` strips to
  `ESC [ 3 1 m X`, a live CSI sequence, which strips again to `X`.
* **`stripAnsi_reads_past_nul`**: when the source ends inside a CSI sequence,
  the skip loop stops on the NUL and the loop increment steps over it, so the
  scan reads the bytes after the NUL, past the array if it ends there.
* **`collectVisibleSegments_keeps_csi_only_segment`**: a segment whose content
  is only colour sequences is collected with empty content.
-/

namespace Lush
namespace Powerline

/-! ## Byte patterns -/

/-- `ESC [`, the CSI introducer. -/
def csiIntro : List UInt8 := [0x1B, 0x5B]

/-- `dst` ends in an `ESC` and has room for one more byte: a `[` copied next
would complete a CSI introducer. -/
def EscPending (dstSize : Nat) (out : List UInt8) : Prop :=
  [0x1B] <:+ out ∧ out.length + 1 < dstSize

theorem csiIntro_concat {out : List UInt8} {c : UInt8} (h : csiIntro <:+: out ++ [c]) :
    csiIntro <:+: out ∨ ([0x1B] <:+ out ∧ c = 0x5B) := by
  rcases List.infix_concat_iff.mp h with h | h
  · rcases List.suffix_concat_iff.mp h with h | ⟨t, ht, hs⟩
    · cases h
    · obtain ⟨rfl, rfl⟩ : t = [0x1B] ∧ c = 0x5B := by
        rcases t with _ | ⟨a, _ | ⟨b, t⟩⟩ <;> simp_all [csiIntro]
      exact .inr ⟨hs, rfl⟩
  · exact .inl h

theorem esc_suffix_concat {out : List UInt8} {c : UInt8} (h : [0x1B] <:+ out ++ [c]) : c = 0x1B := by
  rcases List.suffix_concat_iff.mp h with h | ⟨t, ht, -⟩
  · cases h
  · rcases t with _ | ⟨a, t⟩ <;> simp_all

theorem copyByte_cases (dstSize : Nat) (out : List UInt8) (c : UInt8) :
    (copyByte dstSize out c = out ++ [c] ∧ out.length + 1 < dstSize) ∨
      (copyByte dstSize out c = out ∧ ¬ out.length + 1 < dstSize) := by
  unfold copyByte
  split
  · exact .inl ⟨rfl, ‹_›⟩
  · exact .inr ⟨rfl, ‹_›⟩

/-! ## One step of the scan outside a sequence -/

section Steps

variable {dstSize : Nat} {out s : List UInt8}

theorem stripAnsiLoop_esc_csi : stripAnsiLoop dstSize false out (0x1B :: 0x5B :: s) = stripAnsiLoop dstSize true out s := by
  rw [stripAnsiLoop, if_neg (by decide), if_pos rfl]

theorem stripAnsiLoop_esc_last : stripAnsiLoop dstSize false out [0x1B] = none := by
  rw [stripAnsiLoop, if_neg (by decide), if_pos rfl]

theorem stripAnsiLoop_esc_other {c : UInt8} (hc : c ≠ 0x5B) :
    stripAnsiLoop dstSize false out (0x1B :: c :: s) = stripAnsiLoop dstSize false (copyByte dstSize out 0x1B) (c :: s) := by
  rw [stripAnsiLoop, if_neg (by decide), if_pos rfl]
  exact hc

theorem stripAnsiLoop_plain {c : UInt8} (h0 : c ≠ 0) (hesc : c ≠ 0x1B) :
    stripAnsiLoop dstSize false out (c :: s) = stripAnsiLoop dstSize false (copyByte dstSize out c) s := by
  rw [stripAnsiLoop.eq_def]
  simp only [if_neg h0, if_neg hesc]

theorem stripAnsiLoop_csi_param {c : UInt8} (h : c ≠ 0 ∧ ¬ (0x40 ≤ c ∧ c ≤ 0x7E)) :
    stripAnsiLoop dstSize true out (c :: s) = stripAnsiLoop dstSize true out s := by
  rw [stripAnsiLoop, if_pos h]

theorem stripAnsiLoop_csi_final {c : UInt8} (h : ¬ (c ≠ 0 ∧ ¬ (0x40 ≤ c ∧ c ≤ 0x7E))) :
    stripAnsiLoop dstSize true out (c :: s) = stripAnsiLoop dstSize false out s := by
  rw [stripAnsiLoop, if_neg h]

end Steps

/-- Copying a byte other than `[` keeps `dst` free of CSI introducers, and
copying `[` does too unless an `ESC` is pending. -/
theorem copyByte_csi_free {dstSize : Nat} {out : List UInt8} {c : UInt8} (hout : ¬ csiIntro <:+: out)
    (hc : EscPending dstSize out → c ≠ 0x5B) : ¬ csiIntro <:+: copyByte dstSize out c := by
  rcases copyByte_cases dstSize out c with ⟨he, hroom⟩ | ⟨he, -⟩
  · rw [he]
    intro h
    rcases csiIntro_concat h with h | ⟨hs, rfl⟩
    · exact hout h
    · exact hc ⟨hs, hroom⟩ rfl
  · rwa [he]

/-- After copying a byte other than `ESC`, no `ESC` is pending. -/
theorem copyByte_not_pending {dstSize : Nat} {out : List UInt8} {c : UInt8} (hc : c ≠ 0x1B) :
    ¬ EscPending dstSize (copyByte dstSize out c) := by
  rcases copyByte_cases dstSize out c with ⟨he, -⟩ | ⟨he, hfull⟩
  · rw [he]
    exact fun hp => hc (esc_suffix_concat hp.1)
  · rw [he]
    exact fun hp => hfull hp.2

/-! ## No CSI introducer in the output -/

/-- The loop invariant of `strip_ansi`: `dst` holds no CSI introducer, and a
pending `ESC` is never followed by a skipped sequence or a `[`. -/
theorem stripAnsiLoop_csi_free {dstSize : Nat} {inCsi : Bool} {out s res : List UInt8}
    (hsrc : ¬ [0x1B, 0x1B, 0x5B] <:+: s) (hout : ¬ csiIntro <:+: out)
    (hpend : EscPending dstSize out → inCsi = false ∧ ¬ [0x5B] <+: s ∧ ¬ csiIntro <+: s)
    (h : stripAnsiLoop dstSize inCsi out s = some res) : ¬ csiIntro <:+: res := by
  induction inCsi, out, s using stripAnsiLoop.induct dstSize with
  | case1 => simp [stripAnsiLoop] at h
  | case2 out c s hc ih =>
    rw [stripAnsiLoop_csi_param hc] at h
    exact ih (fun h' => hsrc (List.infix_cons h')) hout (fun hp => absurd (hpend hp).1 nofun) h
  | case3 out c s hc ih =>
    rw [stripAnsiLoop_csi_final hc] at h
    exact ih (fun h' => hsrc (List.infix_cons h')) hout (fun hp => absurd (hpend hp).1 nofun) h
  | case4 out s =>
    rw [stripAnsiLoop_nul] at h
    exact Option.some.inj h ▸ hout
  | case5 out _ => rw [stripAnsiLoop_esc_last] at h; cases h
  | case6 out s' _ ih =>
    -- `ESC [` opens a sequence: no `ESC` can be pending before it
    rw [stripAnsiLoop_esc_csi] at h
    exact ih (fun h' => hsrc (List.infix_cons (List.infix_cons h'))) hout
      (fun hp => absurd ⟨s', rfl⟩ (hpend hp).2.2) h
  | case7 out c' s' hc' _ ih =>
    -- a lone `ESC` is copied, and the byte after it is not `[`
    rw [stripAnsiLoop_esc_other hc'] at h
    refine ih (fun h' => hsrc (List.infix_cons h')) (copyByte_csi_free hout fun _ => by decide)
      (fun _ => ⟨rfl, fun hp => hc' (List.cons_prefix_cons.mp hp).1.symm, fun hp => ?_⟩) h
    obtain ⟨rfl, t, rfl⟩ : c' = 0x1B ∧ ∃ t, s' = 0x5B :: t := by
      obtain ⟨t, ht⟩ := hp
      simp only [csiIntro, List.cons_append, List.nil_append, List.cons.injEq] at ht
      exact ⟨ht.1.symm, t, ht.2.symm⟩
    exact hsrc ⟨[], t, rfl⟩
  | case8 out c s h0 hesc ih =>
    rw [stripAnsiLoop_plain h0 hesc] at h
    refine ih (fun h' => hsrc (List.infix_cons h'))
      (copyByte_csi_free hout fun hp hc => (hpend hp).2.1 ⟨s, by rw [hc]; rfl⟩)
      (fun hp => absurd hp (copyByte_not_pending hesc)) h

/-- **`strip_ansi` leaves no CSI introducer** when no `ESC` of the source stands
right before one. -/
theorem stripAnsi_csi_free {src out : List UInt8} {dstSize : Nat} (hsrc : ¬ [0x1B, 0x1B, 0x5B] <:+: src)
    (h : stripAnsi src dstSize = some out) : ¬ csiIntro <:+: out :=
  stripAnsiLoop_csi_free hsrc (fun h => by simpa [csiIntro] using h.length_le)
    (fun hp => absurd hp.1 (by simp)) h

/-! ## Stripping twice -/

theorem copyByte_bounds {dstSize : Nat} {out : List UInt8} {c : UInt8} (hout : 0 ∉ out)
    (hlen : out.length < dstSize ∨ out = []) (hc : c ≠ 0) :
    0 ∉ copyByte dstSize out c ∧ ((copyByte dstSize out c).length < dstSize ∨ copyByte dstSize out c = []) := by
  rcases copyByte_cases dstSize out c with ⟨he, hroom⟩ | ⟨he, -⟩ <;> rw [he]
  · refine ⟨by simp [hout, Ne.symm hc], .inl ?_⟩
    simp only [List.length_append, List.length_singleton]
    omega
  · exact ⟨hout, hlen⟩

/-- What `strip_ansi` stores has no NUL, and is shorter than `dst_size` unless empty. -/
theorem stripAnsiLoop_bounds {dstSize : Nat} {inCsi : Bool} {out s res : List UInt8} (hout : 0 ∉ out)
    (hlen : out.length < dstSize ∨ out = []) (h : stripAnsiLoop dstSize inCsi out s = some res) :
    0 ∉ res ∧ (res.length < dstSize ∨ res = []) := by
  induction inCsi, out, s using stripAnsiLoop.induct dstSize with
  | case1 => simp [stripAnsiLoop] at h
  | case2 out c s hc ih =>
    rw [stripAnsiLoop_csi_param hc] at h
    exact ih hout hlen h
  | case3 out c s hc ih =>
    rw [stripAnsiLoop_csi_final hc] at h
    exact ih hout hlen h
  | case4 out s =>
    rw [stripAnsiLoop_nul] at h
    exact Option.some.inj h ▸ ⟨hout, hlen⟩
  | case5 out _ => rw [stripAnsiLoop_esc_last] at h; cases h
  | case6 out s' _ ih =>
    rw [stripAnsiLoop_esc_csi] at h
    exact ih hout hlen h
  | case7 out c' s' hc' _ ih =>
    rw [stripAnsiLoop_esc_other hc'] at h
    exact ih (copyByte_bounds hout hlen (by decide)).1 (copyByte_bounds hout hlen (by decide)).2 h
  | case8 out c s h0 hesc ih =>
    rw [stripAnsiLoop_plain h0 hesc] at h
    exact ih (copyByte_bounds hout hlen h0).1 (copyByte_bounds hout hlen h0).2 h

/-! ## Collected contents -/

section Collected

variable {Color : Type} (ops : ColorOps Color) (lleSegmentOutputMax : Nat) (theme : Theme Color)
  (registry : SegmentRegistry Color) (ctx : PromptContext)

theorem collectOne_nul_free {name : CString} {ps : PowerlineSegment Color}
    (h : collectOne ops lleSegmentOutputMax theme registry ctx name = some (some ps)) : 0 ∉ ps.content := by
  unfold collectOne at h
  split at h
  · cases h
  · split_ifs at h
    · cases h
    · cases h
    · split at h
      · cases h
      · split_ifs at h
        · cases h
        · obtain ⟨content, hs, he⟩ := Option.map_eq_some'.mp h
          cases he
          exact (stripAnsiLoop_bounds (List.not_mem_nil 0) (.inr rfl) hs).1

/-- **Collected contents hold no NUL**: each is what `strip_ansi` stored. -/
theorem collectVisibleSegments_nul_free :
    ∀ {capacity : Nat} {names : List CString} {segs : List (PowerlineSegment Color)},
      collectVisibleSegments ops lleSegmentOutputMax theme registry ctx capacity names = some segs →
        ∀ seg ∈ segs, 0 ∉ seg.content
  | _, [], _, h => by rw [collectVisibleSegments.eq_1] at h; cases h; simp
  | 0, _ :: _, _, h => by rw [collectVisibleSegments.eq_2] at h; cases h; simp
  | capacity + 1, name :: names, segs, h => by
    unfold collectVisibleSegments at h
    split at h
    · cases h
    · exact collectVisibleSegments_nul_free h
    · next ps hps =>
      obtain ⟨rest, hrest, rfl⟩ := Option.map_eq_some'.mp h
      intro seg hseg
      rcases List.mem_cons.mp hseg with rfl | hseg
      exacts [collectOne_nul_free ops lleSegmentOutputMax theme registry ctx hps,
        collectVisibleSegments_nul_free hrest seg hseg]

end Collected

/-- `strip_ansi` copies a NUL-terminated string with no CSI introducer whole,
if it fits. -/
theorem stripAnsiLoop_copies {dstSize : Nat} (l : List UInt8) :
    ∀ {out : List UInt8}, 0 ∉ l → ¬ csiIntro <:+: l → (out ++ l).length < dstSize →
      stripAnsiLoop dstSize false out (l ++ [0]) = some (out ++ l) := by
  induction l with
  | nil => intro out _ _ _; simp [stripAnsiLoop]
  | cons c l ih =>
    intro out h0 hcsi hlen
    have hc0 : c ≠ 0 := fun h => h0 (h ▸ List.mem_cons_self c l)
    have hroom : out.length + 1 < dstSize := by simp only [List.length_append, List.length_cons] at hlen; omega
    have hrest : stripAnsiLoop dstSize false (out ++ [c]) (l ++ [0]) = some (out ++ c :: l) := by
      rw [ih (fun h => h0 (List.mem_cons_of_mem c h)) (fun h => hcsi (List.infix_cons h))
        (by simpa using hlen)]
      simp
    have hcopy : copyByte dstSize out c = out ++ [c] := if_pos hroom
    by_cases hesc : c = 0x1B
    · subst hesc
      -- the byte after a copied `ESC` is the NUL or a byte other than `[`
      rcases hl : l ++ [0] with _ | ⟨c', s'⟩
      · simp at hl
      have hc' : c' ≠ 0x5B := by
        rintro rfl
        rcases l with _ | ⟨d, l⟩
        · simp at hl
        · simp only [List.cons_append, List.cons.injEq] at hl
          exact hcsi ⟨[], l, by rw [hl.1]; rfl⟩
      rw [List.cons_append, hl, stripAnsiLoop_esc_other hc', hcopy, ← hl, hrest]
    · rw [List.cons_append, stripAnsiLoop_plain hc0 hesc, hcopy, hrest]

/-- **Stripping twice changes nothing** when no `ESC` of the source stands right
before a CSI introducer. -/
theorem stripAnsi_idem {src out : List UInt8} {dstSize : Nat} (hsrc : ¬ [0x1B, 0x1B, 0x5B] <:+: src)
    (h : stripAnsi src dstSize = some out) : stripAnsi (out ++ [0]) dstSize = some out := by
  obtain ⟨h0, hlen⟩ := stripAnsiLoop_bounds (List.not_mem_nil 0) (.inr rfl) h
  rcases hlen with hlen | rfl
  · exact stripAnsiLoop_copies out h0 (stripAnsi_csi_free hsrc h) hlen
  · exact stripAnsiLoop_nul dstSize [] []

/-- A bold `ab`: stripped to `ab`, which strips to itself. -/
theorem stripAnsi_idem_bold :
    ¬ [0x1B, 0x1B, 0x5B] <:+: lit "\x1b[1mab" ++ [0] ∧ stripAnsi (lit "\x1b[1mab" ++ [0]) 8 = some (lit "ab") ∧
      stripAnsi (lit "ab" ++ [0]) 8 = some (lit "ab") :=
  have hs : stripAnsi (lit "\x1b[1mab" ++ [0]) 8 = some (lit "ab") := by decide
  ⟨by decide, hs, stripAnsi_idem (by decide) hs⟩

/-- The failing source: an `ESC` right before the sequence `ESC [ m`, then
`[31mX`. -/
def escBeforeCsi : List UInt8 := lit "\x1b\x1b[m[31mX" ++ [0]

/-- **`strip_ansi` rebuilds a CSI sequence.**  For every `dst_size` larger than
the source: the first `ESC` is copied, the sequence `ESC [ m` is skipped, and the
`[31mX` after it is copied, so the output is `ESC [ 3 1 m X`, a live colour
sequence.  Stripping that again gives `X`. -/
theorem stripAnsi_rebuilds_csi (dstSize : Nat) (h : 9 < dstSize) :
    stripAnsi escBeforeCsi dstSize = some (lit "\x1b[31mX") ∧ csiIntro <:+: lit "\x1b[31mX" ∧
      stripAnsi (lit "\x1b[31mX" ++ [0]) dstSize = some (lit "X") := by
  have hcopy : copyByte dstSize [] 0x1B = [0x1B] := if_pos (by simp only [List.length_nil]; omega)
  refine ⟨?_, ⟨[], lit "31mX", rfl⟩, ?_⟩
  · show stripAnsiLoop dstSize false [] (0x1B :: 0x1B :: 0x5B :: 0x6D :: (lit "[31mX" ++ [0])) = _
    simp (disch := decide) only [stripAnsiLoop_esc_other, stripAnsiLoop_esc_csi, stripAnsiLoop_csi_final, hcopy]
    exact stripAnsiLoop_copies (lit "[31mX") (by decide) (by decide) (by simp [lit]; omega)
  · show stripAnsiLoop dstSize false [] (0x1B :: 0x5B :: 0x33 :: 0x31 :: 0x6D :: (lit "X" ++ [0])) = _
    simp (disch := decide) only [stripAnsiLoop_esc_csi, stripAnsiLoop_csi_param, stripAnsiLoop_csi_final]
    exact stripAnsiLoop_copies (lit "X") (by decide) (by decide) (by simp [lit]; omega)

theorem stripAnsi_rebuilds_csi_ten :
    9 < 10 ∧ stripAnsi escBeforeCsi 10 = some (lit "\x1b[31mX") ∧ csiIntro <:+: lit "\x1b[31mX" ∧
      stripAnsi (lit "\x1b[31mX" ++ [0]) 10 = some (lit "X") :=
  ⟨by decide, stripAnsi_rebuilds_csi 10 (by decide)⟩

/-! ## Past the NUL -/

/-- Copying bytes one at a time keeps as many of them as fit before `dst`'s NUL. -/
theorem foldl_copyByte (dstSize : Nat) (u : List UInt8) :
    ∀ out : List UInt8, u.foldl (copyByte dstSize) out = out ++ u.take (dstSize - 1 - out.length) := by
  induction u with
  | nil => simp
  | cons c u ih =>
    intro out
    rcases copyByte_cases dstSize out c with ⟨he, hroom⟩ | ⟨he, hfull⟩
    · have hk : dstSize - 1 - out.length = dstSize - 1 - (out ++ [c]).length + 1 := by
        rw [List.length_append, List.length_singleton]
        omega
      rw [List.foldl_cons, he, ih, hk, List.take_succ_cons, List.append_assoc, List.singleton_append]
    · rw [List.foldl_cons, he, ih, show dstSize - 1 - out.length = 0 by omega, List.take_zero, List.take_zero]

/-- Bytes other than NUL and `ESC` are copied while `dst` has room. -/
theorem stripAnsiLoop_plain_append {dstSize : Nat} (u : List UInt8) (hu : ∀ x ∈ u, x ≠ 0 ∧ x ≠ 0x1B) :
    ∀ out s, stripAnsiLoop dstSize false out (u ++ s) =
      stripAnsiLoop dstSize false (u.foldl (copyByte dstSize) out) s := by
  induction u with
  | nil => intro out s; rfl
  | cons c u ih =>
    intro out s
    obtain ⟨h0, hesc⟩ := hu c (List.mem_cons_self c u)
    rw [List.cons_append, stripAnsiLoop_plain h0 hesc, List.foldl_cons]
    exact ih (fun x hx => hu x (List.mem_cons_of_mem c hx)) _ s

/-- Inside a sequence, parameter bytes are skipped. -/
theorem stripAnsiLoop_params_append {dstSize : Nat} {out : List UInt8} (p : List UInt8)
    (hp : ∀ x ∈ p, x ≠ 0 ∧ ¬ (0x40 ≤ x ∧ x ≤ 0x7E)) (s : List UInt8) :
    stripAnsiLoop dstSize true out (p ++ s) = stripAnsiLoop dstSize true out s := by
  induction p with
  | nil => rfl
  | cons c p ih =>
    rw [List.cons_append, stripAnsiLoop_csi_param (hp c (List.mem_cons_self c p))]
    exact ih (fun x hx => hp x (List.mem_cons_of_mem c hx))

/-- **`strip_ansi` reads past the NUL.**  Let the source end inside a CSI
sequence: `u ESC [ p`, with no NUL or `ESC` in `u` and only parameter bytes in
`p` (the bare `ESC [` included).  The skip loop stops on the NUL, the loop
increment steps over it, and the scan goes on with whatever the array holds
after the NUL; an array that ends at the NUL is read past its end. -/
theorem stripAnsi_reads_past_nul (u p rest : List UInt8) (dstSize : Nat)
    (hu : ∀ x ∈ u, x ≠ 0 ∧ x ≠ 0x1B) (hp : ∀ x ∈ p, x ≠ 0 ∧ ¬ (0x40 ≤ x ∧ x ≤ 0x7E)) :
    stripAnsi (u ++ 0x1B :: 0x5B :: p ++ 0 :: rest) dstSize =
        stripAnsiLoop dstSize false (u.take (dstSize - 1)) rest ∧
      stripAnsi (u ++ 0x1B :: 0x5B :: p ++ [0]) dstSize = none := by
  have hpast : ∀ rest, stripAnsi (u ++ 0x1B :: 0x5B :: p ++ 0 :: rest) dstSize =
      stripAnsiLoop dstSize false (u.take (dstSize - 1)) rest := by
    intro rest
    rw [stripAnsi, List.append_assoc, stripAnsiLoop_plain_append u hu, foldl_copyByte, List.nil_append,
      List.length_nil, Nat.sub_zero, List.cons_append, List.cons_append, stripAnsiLoop_esc_csi,
      stripAnsiLoop_params_append p hp, stripAnsiLoop_csi_final (by simp)]
  exact ⟨hpast rest, (hpast []).trans (by simp [stripAnsiLoop])⟩

theorem stripAnsi_reads_past_nul_ab :
    (∀ x ∈ lit "ab", x ≠ 0 ∧ x ≠ 0x1B) ∧ (∀ x ∈ lit "3", x ≠ 0 ∧ ¬ (0x40 ≤ x ∧ x ≤ 0x7E)) ∧
      (stripAnsi (lit "ab" ++ 0x1B :: 0x5B :: lit "3" ++ [0]) 8 =
          stripAnsiLoop 8 false ((lit "ab").take (8 - 1)) [] ∧
        stripAnsi (lit "ab" ++ 0x1B :: 0x5B :: lit "3" ++ [0]) 8 = none) :=
  ⟨by decide, by decide, stripAnsi_reads_past_nul (lit "ab") (lit "3") [] 8 (by decide) (by decide)⟩

/-! ## A segment of colour sequences only -/

variable {Color : Type} (ops : ColorOps Color)

/-- A segment that is always visible and renders only colour sequences,
`ESC[35m ESC[0m` (9 bytes), into a content array of `n` bytes. -/
def csiOnlySegment (n : Nat) : PromptSegment Color :=
  ⟨none, fun _ _ => .ok ⟨lit "\x1b[35m\x1b[0m" ++ List.replicate (n - 9) 0, 9, false⟩⟩

/-- A registry that knows the segment `name` only. -/
def csiOnlyRegistry (name : CString) (n : Nat) : SegmentRegistry Color :=
  ⟨fun m => if m = name then some (csiOnlySegment n) else none⟩

/-- **An empty block is collected.**  For any colour functions, context, theme
that does not hide the segment, and `LLE_SEGMENT_OUTPUT_MAX` of at least 10: the
segment passes the `content_len` check, strips to nothing, and is collected
with empty content. -/
theorem collectVisibleSegments_keeps_csi_only_segment (theme : Theme Color) (ctx : PromptContext)
    (name : CString) (n capacity : Nat) (hn : 10 ≤ n) (hshow : hiddenByConfig theme name = false) :
    collectVisibleSegments ops n theme (csiOnlyRegistry name n) ctx (capacity + 1) [name] =
      some [⟨[], (resolveSegmentColors ops theme name ctx).1, (resolveSegmentColors ops theme name ctx).2⟩] := by
  obtain ⟨k, rfl⟩ : ∃ k, n = k + 10 := ⟨n - 10, by omega⟩
  have hstrip : stripAnsi (lit "\x1b[35m\x1b[0m" ++ List.replicate (k + 1) 0) (k + 10) = some [] := by
    show stripAnsiLoop (k + 10) false []
      (0x1B :: 0x5B :: 0x33 :: 0x35 :: 0x6D :: 0x1B :: 0x5B :: 0x30 :: 0x6D :: 0 :: List.replicate k 0) = _
    simp (disch := decide) only [stripAnsiLoop_esc_csi, stripAnsiLoop_csi_param, stripAnsiLoop_csi_final,
      stripAnsiLoop_nul]
  simp [collectVisibleSegments, collectOne, csiOnlyRegistry, csiOnlySegment, hshow, hstrip]

theorem collectVisibleSegments_keeps_csi_only_segment_mono :
    10 ≤ 256 ∧ hiddenByConfig (abTheme monoOps) segX = false ∧
      collectVisibleSegments monoOps 256 (abTheme monoOps) (csiOnlyRegistry segX 256) ⟨true, true⟩ (31 + 1)
        [segX] = some [⟨[], (resolveSegmentColors monoOps (abTheme monoOps) segX ⟨true, true⟩).1,
          (resolveSegmentColors monoOps (abTheme monoOps) segX ⟨true, true⟩).2⟩] :=
  ⟨by decide, rfl, collectVisibleSegments_keeps_csi_only_segment monoOps (abTheme monoOps) ⟨true, true⟩ segX
    256 31 (by decide) rfl⟩

end Powerline
end Lush
