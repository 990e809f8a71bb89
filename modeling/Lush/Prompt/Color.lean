import Lush.Basic

/-!
# Colour specs of `%F{…}` and `%K{…}`

`emit_color` turns the text between the braces into one SGR sequence, chosen by
the terminal's colour depth (0 none, 1 basic, 2 256-colour, 3 truecolor).  It
tries three readings in turn, as the source does:

* `#RRGGBB`, read with `sscanf(spec + 1, "%2x%2x%2x", …)`;
* a decimal number in `0..=255`, read with `strtol(spec, &end, 10)`;
* one of the nine colour names.

The two library parsers are modelled as glibc runs them (`scanHex2`,
`strtolWhole`), with their white space, sign and `0x` rules, since those decide
which specs reach which branch.  `emitColor` returns the string handed to
`buf_append_str`, or `none` when the source appends nothing.

Main result: **`emitColor_whole`**: for every spec, depth and target, what
`emit_color` appends is one whole SGR sequence of digits and `;`, unless the
spec is `#` and six bytes holding a minus sign, which `%2x` reads as a negative
field and `snprintf` may then cut.
-/

namespace Lush

/-- The hex digits of a `%x` field that still has room for `w` characters. -/
def hexDigits : Nat → List UInt8 → List UInt8 × List UInt8
  | 0, s => ([], s)
  | _ + 1, [] => ([], [])
  | w + 1, c :: s =>
    if isXDigit c then ((hexDigits w s).1.cons c, (hexDigits w s).2) else ([], c :: s)

/-- Split off an optional sign: whether it was `-`, the field width left, the rest. -/
def scanSign (w : Nat) : List UInt8 → Bool × Nat × List UInt8
  | c :: t => if c == 0x2B || c == 0x2D then (c == 0x2D, w - 1, t) else (false, w, c :: t)
  | [] => (false, w, [])

/-- glibc's `0`/`0x` prefix step: whether a `0` was read, the width left, the rest. -/
def scanZeroPrefix : Nat → List UInt8 → Bool × Nat × List UInt8
  | w + 1, 0x30 :: c :: t =>
    if w != 0 && (c == 0x78 || c == 0x58) then (true, w - 1, t) else (true, w, c :: t)
  | w + 1, [0x30] => (true, w, [])
  | w, s => (false, w, s)

/-- One `%2x` conversion of glibc's `sscanf`: the `unsigned int` stored and the
input left, or `none` on a matching failure.  A minus sign negates modulo 2^32. -/
def scanHex2 (s : List UInt8) : Option (Nat × List UInt8) :=
  let (neg, w, s) := scanSign 2 (s.dropWhile isSpace)
  let (zero, w, s) := scanZeroPrefix w s
  let (ds, rest) := hexDigits w s
  if !zero && ds.isEmpty then none
  else
    let v := ds.foldl (fun a d => a * 16 + hexVal d) 0 % 2 ^ 32
    some (if neg then (2 ^ 32 - v) % 2 ^ 32 else v, rest)

/-- `sscanf(s, "%2x%2x%2x", &r, &g, &bl) == 3`. -/
def sscanfHex3 (s : List UInt8) : Option (Nat × Nat × Nat) := do
  let (r, s) ← scanHex2 s
  let (g, s) ← scanHex2 s
  let (bl, _) ← scanHex2 s
  pure (r, g, bl)

/-- `strtol(s, &end, 10)` under the test `*end == '\0' && end != s`: the `long`
value (clamped to its range) when all of `s` is one decimal number. -/
def strtolWhole (s : List UInt8) : Option Int :=
  let (neg, _, t) := scanSign 0 (s.dropWhile isSpace)
  let ds := t.takeWhile isDigit
  if ds.isEmpty || ds.length != t.length then none
  else
    let v : Int := ds.foldl (fun a d => a * 10 + (d.toNat - 0x30)) 0
    some (max (-2 ^ 63) (min (2 ^ 63 - 1) (if neg then -v else v)))

/-- The table of `emit_color`'s named colours. -/
def namedColors : List (List UInt8 × Int) :=
  [(lit "black", 0), (lit "red", 1), (lit "green", 2), (lit "yellow", 3), (lit "blue", 4),
   (lit "magenta", 5), (lit "cyan", 6), (lit "white", 7), (lit "default", 9)]

/-- `int` arithmetic as the compiled code wraps it (two's complement, 32 bits). -/
def wrapInt (v : Int) : Int := (v + 2 ^ 31) % 2 ^ 32 - 2 ^ 31

/-- `ESC [` followed by the parameters and the final `m`, as `snprintf` writes it
into a buffer of `size` bytes. -/
def sgr (size : Nat) (params : List UInt8) : List UInt8 :=
  (0x1B :: 0x5B :: params ++ [0x6D]).take (size - 1)

/-- The 6×6×6 cube coordinate of `emit_color`: `(c > 47) ? (c - 35) / 40 : 0`. -/
def cubeCoord (c : Nat) : Int := if c > 47 then ((c - 35) / 40 : Nat) else 0

/-- `emit_color(b, spec, color_depth, fg)`: the string it appends, if any. -/
def emitColor (spec : List UInt8) (depth : Int) (fg : Bool) : Option (List UInt8) :=
  let base : Int := if fg then 38 else 48
  let basic : Int := if fg then 30 else 40
  let named : Option (List UInt8) :=
    (namedColors.lookup spec).map fun code => sgr 16 (fmtInt (basic + code))
  if depth = 0 then none
  else
    let hex := if spec.head? = some 0x23 ∧ spec.length = 7 then sscanfHex3 spec.tail else none
    match hex with
    | some (r, g, bl) =>
      if depth ≥ 3 then
        some (sgr 32 (fmtInt base ++ lit ";2;" ++ fmtNat r ++ [0x3B] ++ fmtNat g ++ [0x3B] ++
          fmtNat bl))
      else if depth ≥ 2 then
        let idx := wrapInt (16 + 36 * cubeCoord r + 6 * cubeCoord g + cubeCoord bl)
        some (sgr 24 (fmtInt base ++ lit ";5;" ++ fmtInt idx))
      else none
    | none =>
      match strtolWhole spec with
      | some num =>
        if 0 ≤ num ∧ num ≤ 255 then
          if depth ≥ 2 then some (sgr 24 (fmtInt base ++ lit ";5;" ++ fmtInt num))
          else some (sgr 16 (fmtInt (basic + num % 8)))
        else named
      | none => named

/-! ## Every sequence `emit_color` appends is whole -/

/-- The parameters of an SGR sequence: decimal digits and `;`. -/
def SgrParams (params : List UInt8) : Prop := ∀ b ∈ params, isDigit b = true ∨ b = 0x3B

/-- `ESC [ params m` with parameters of digits and `;`: a sequence a terminal
reads whole. -/
def WholeSgr (out : List UInt8) : Prop := ∃ params, SgrParams params ∧ out = 0x1B :: 0x5B :: params ++ [0x6D]

instance (params : List UInt8) : Decidable (SgrParams params) :=
  inferInstanceAs (Decidable (∀ b ∈ params, isDigit b = true ∨ b = 0x3B))

@[simp] theorem sgrParams_nil : SgrParams [] := List.forall_mem_nil _

@[simp] theorem sgrParams_cons {b : UInt8} {l : List UInt8} :
    SgrParams (b :: l) ↔ (isDigit b = true ∨ b = 0x3B) ∧ SgrParams l :=
  List.forall_mem_cons

@[simp] theorem sgrParams_append {a b : List UInt8} : SgrParams (a ++ b) ↔ SgrParams a ∧ SgrParams b :=
  List.forall_mem_append

/-- `%d` and `%u` of a number below `10 ^ e` write at most `e` digits. -/
theorem fmtNat_length_le {n e : Nat} (he : 0 < e) (h : n < 10 ^ e) : (fmtNat n).length ≤ e := by
  simpa [fmtNat, Nat.toDigits] using Nat.toDigitsCore_length 10 (by decide) (n + 1) n e h he

/-- Base-10 `toDigitsCore` puts only decimal digit characters in front of `ds`. -/
theorem toDigitsCore_digits (fuel n : Nat) (ds : List Char) (hds : ∀ c ∈ ds, ∃ d < 10, c = Nat.digitChar d) :
    ∀ c ∈ Nat.toDigitsCore 10 fuel n ds, ∃ d < 10, c = Nat.digitChar d := by
  induction fuel generalizing n ds with
  | zero => exact hds
  | succ fuel ih =>
    have hd : ∀ c ∈ Nat.digitChar (n % 10) :: ds, ∃ d < 10, c = Nat.digitChar d := by
      simpa using ⟨⟨n % 10, Nat.mod_lt _ (by decide), rfl⟩, hds⟩
    unfold Nat.toDigitsCore
    dsimp only
    split
    · exact hd
    · exact ih _ _ hd

/-- `%d` and `%u` write decimal digits. -/
theorem fmtNat_sgrParams (n : Nat) : SgrParams (fmtNat n) := by
  intro b hb
  obtain ⟨c, hc, rfl⟩ := List.mem_map.mp hb
  obtain ⟨d, hd, rfl⟩ := toDigitsCore_digits (n + 1) n [] (by simp) c hc
  have hdigit : ∀ d < 10, isDigit (Nat.digitChar d).toNat.toUInt8 = true := by decide
  exact .inl (hdigit d hd)

/-- A value in `0..999` prints as at most three digits. -/
theorem fmtInt_small {v : Int} (h0 : 0 ≤ v) (h : v < 1000) : SgrParams (fmtInt v) ∧ (fmtInt v).length ≤ 3 := by
  obtain ⟨k, rfl⟩ := Int.eq_ofNat_of_zero_le h0
  exact ⟨fmtNat_sgrParams k, fmtNat_length_le (by decide) (show k < 10 ^ 3 by omega)⟩

/-- `snprintf` into `size` bytes writes the whole sequence when it fits. -/
theorem sgr_of_fits {size : Nat} {params : List UInt8} (h : params.length + 3 < size) :
    sgr size params = 0x1B :: 0x5B :: params ++ [0x6D] :=
  List.take_of_length_le (by simp; omega)

/-- What `snprintf` writes is whole when the parameters fit. -/
theorem sgr_whole {size : Nat} {params : List UInt8} (h : params.length + 3 < size) (hp : SgrParams params) :
    WholeSgr (sgr size params) :=
  ⟨params, hp, sgr_of_fits h⟩

/-- A cube coordinate of a byte is one of `0..5`. -/
theorem cubeCoord_bounds {c : Nat} (h : c < 256) : 0 ≤ cubeCoord c ∧ cubeCoord c ≤ 5 := by
  unfold cubeCoord
  split <;> omega

/-- The cube entry of three bytes is one of `16..231`. -/
theorem cubeIndex_bounds {r g bl : Nat} (hr : r < 256) (hg : g < 256) (hb : bl < 256) :
    16 ≤ 16 + 36 * cubeCoord r + 6 * cubeCoord g + cubeCoord bl ∧
      16 + 36 * cubeCoord r + 6 * cubeCoord g + cubeCoord bl ≤ 231 := by
  have cr := cubeCoord_bounds hr
  have cg := cubeCoord_bounds hg
  have cb := cubeCoord_bounds hb
  omega

/-- An index in `16..231` is no `int` overflow. -/
theorem wrapInt_cube {idx : Int} (h : 16 ≤ idx ∧ idx ≤ 231) : wrapInt idx = idx := by
  unfold wrapInt
  omega

/-- A hex digit's value is below 16. -/
theorem hexVal_lt {c : UInt8} (h : isXDigit c = true) : hexVal c < 16 := by
  simp only [isXDigit, isDigit, hexVal, Bool.or_eq_true, Bool.and_eq_true, decide_eq_true_eq,
    byte_le_iff] at h ⊢
  split_ifs <;> simp_all [UInt8.size] <;> omega

/-- A `%x` field reads at most its width in hex digits and leaves a suffix. -/
theorem hexDigits_spec (w : Nat) (s : List UInt8) :
    (hexDigits w s).1.length ≤ w ∧ (∀ d ∈ (hexDigits w s).1, isXDigit d = true) ∧ (hexDigits w s).2 <:+ s := by
  induction s generalizing w with
  | nil => cases w <;> simp [hexDigits]
  | cons c s ih =>
    cases w with
    | zero => simp [hexDigits]
    | succ w =>
      obtain ⟨hl, hd, hs⟩ := ih w
      unfold hexDigits
      split_ifs with hc
      · exact ⟨by simpa using hl, by simpa [hc] using hd, hs.trans (List.suffix_cons c s)⟩
      · simp

/-- The sign step uses up at most the width, leaves a suffix, and reads a minus
only where there is one. -/
theorem scanSign_spec (w : Nat) (s : List UInt8) :
    (scanSign w s).2.1 ≤ w ∧ (scanSign w s).2.2 <:+ s ∧ ((scanSign w s).1 = true → 0x2D ∈ s) := by
  cases s with
  | nil => simp [scanSign]
  | cons c t =>
    simp only [scanSign]
    split_ifs
    · refine ⟨by dsimp only; omega, List.suffix_cons c t, fun h => ?_⟩
      simp only [beq_iff_eq] at h
      simp [h]
    · simp

/-- The `0`/`0x` step uses up at most the width and leaves a suffix. -/
theorem scanZeroPrefix_spec (w : Nat) (s : List UInt8) :
    (scanZeroPrefix w s).2.1 ≤ w ∧ (scanZeroPrefix w s).2.2 <:+ s := by
  unfold scanZeroPrefix
  split
  · split_ifs
    · exact ⟨by dsimp only; omega, (List.suffix_cons _ _).trans (List.suffix_cons _ _)⟩
    · exact ⟨by dsimp only; omega, List.suffix_cons _ _⟩
  · exact ⟨by dsimp only; omega, List.suffix_cons _ _⟩
  · exact ⟨le_rfl, List.suffix_refl _⟩

/-- Hex digits accumulate below `16` to the power of their count. -/
theorem foldl_hexVal_lt (ds : List UInt8) (hd : ∀ d ∈ ds, isXDigit d = true) (a : Nat) :
    ds.foldl (fun a d => a * 16 + hexVal d) a < (a + 1) * 16 ^ ds.length := by
  induction ds generalizing a with
  | nil => simp
  | cons d ds ih =>
    have hv := hexVal_lt (hd d (List.mem_cons_self d ds))
    have := ih (fun x hx => hd x (List.mem_cons_of_mem d hx)) (a * 16 + hexVal d)
    rw [List.foldl_cons, List.length_cons, pow_succ]
    calc _ < (a * 16 + hexVal d + 1) * 16 ^ ds.length := this
      _ ≤ (a + 1) * 16 * 16 ^ ds.length := Nat.mul_le_mul_right _ (by omega)
      _ = (a + 1) * (16 ^ ds.length * 16) := by ring

/-- **One `%2x` stores a byte, unless it reads a minus sign**, and leaves a
suffix of its input. -/
theorem scanHex2_spec {s rest : List UInt8} {v : Nat} (h : scanHex2 s = some (v, rest)) :
    (v < 256 ∨ 0x2D ∈ s) ∧ rest <:+ s := by
  simp only [scanHex2] at h
  obtain ⟨hw1, hs1, hneg⟩ := scanSign_spec 2 (s.dropWhile isSpace)
  generalize scanSign 2 (s.dropWhile isSpace) = sg at h hw1 hs1 hneg
  obtain ⟨neg, w, s1⟩ := sg
  obtain ⟨hw2, hs2⟩ := scanZeroPrefix_spec w s1
  generalize scanZeroPrefix w s1 = z at h hw2 hs2
  obtain ⟨zero, w', s2⟩ := z
  obtain ⟨hlen, hdig, hs3⟩ := hexDigits_spec w' s2
  generalize hexDigits w' s2 = hd at h hlen hdig hs3
  obtain ⟨ds, rest'⟩ := hd
  dsimp only at h hw1 hs1 hneg hw2 hs2 hlen hdig hs3
  have hsuf : rest' <:+ s := hs3.trans (hs2.trans (hs1.trans (List.dropWhile_suffix _)))
  split_ifs at h with hz hn
  · obtain ⟨rfl, rfl⟩ := Prod.mk.inj (Option.some.inj h)
    exact ⟨.inr ((List.dropWhile_suffix _).mem (hneg hn)), hsuf⟩
  · obtain ⟨rfl, rfl⟩ := Prod.mk.inj (Option.some.inj h)
    have hlt := foldl_hexVal_lt ds hdig 0
    have hpow : 16 ^ ds.length ≤ 16 ^ 2 := Nat.pow_le_pow_right (by decide) (by omega)
    refine ⟨.inl ?_, hsuf⟩
    calc _ ≤ ds.foldl (fun a d => a * 16 + hexVal d) 0 := Nat.mod_le _ _
      _ < 256 := by omega

/-- The three `%2x` conversions store bytes, unless the input holds a minus sign. -/
theorem sscanfHex3_lt {t : List UInt8} {r g bl : Nat} (h : sscanfHex3 t = some (r, g, bl)) :
    (r < 256 ∧ g < 256 ∧ bl < 256) ∨ 0x2D ∈ t := by
  simp only [sscanfHex3, bind, Option.bind_eq_some, Prod.exists, pure, Option.some.injEq, Prod.mk.injEq] at h
  obtain ⟨r', s1, h1, g', s2, h2, bl', s3, h3, rfl, rfl, rfl⟩ := h
  obtain ⟨hr, hs1⟩ := scanHex2_spec h1
  obtain ⟨hg, hs2⟩ := scanHex2_spec h2
  obtain ⟨hb, -⟩ := scanHex2_spec h3
  by_cases hm : 0x2D ∈ t
  · exact .inr hm
  have hm1 : 0x2D ∉ s1 := fun h => hm (hs1.mem h)
  have hm2 : 0x2D ∉ s2 := fun h => hm1 (hs2.mem h)
  exact .inl ⟨hr.resolve_right hm, hg.resolve_right hm1, hb.resolve_right hm2⟩


/-- What `List.lookup` finds is one of the table's values. -/
theorem lookup_mem {l : List (List UInt8 × Int)} {k : List UInt8} {b : Int} (h : l.lookup k = some b) :
    b ∈ l.map Prod.snd := by
  induction l with
  | nil => cases h
  | cons e l ih =>
    simp only [List.lookup] at h
    split at h
    · cases h; simp
    · simp [ih h]

/-- A named colour's code is one of `0..9`. -/
theorem namedColors_code {spec : List UInt8} {code : Int} (h : namedColors.lookup spec = some code) :
    0 ≤ code ∧ code ≤ 9 := by
  have hm := lookup_mem h
  simp only [namedColors, List.map_cons, List.map_nil, List.mem_cons, List.not_mem_nil, or_false] at hm
  omega


/-! ## What each branch appends -/

/-- The truecolor form `ESC [ base ; 2 ; r ; g ; b m` of three bytes. -/
theorem sgr_truecolor_whole {base : Int} (hbase : SgrParams (fmtInt base) ∧ (fmtInt base).length ≤ 3)
    {r g bl : Nat} (hr : r < 256) (hg : g < 256) (hb : bl < 256) :
    WholeSgr (sgr 32 (fmtInt base ++ lit ";2;" ++ fmtNat r ++ [0x3B] ++ fmtNat g ++ [0x3B] ++ fmtNat bl)) := by
  have lr := fmtNat_length_le (e := 3) (by decide) (show r < 10 ^ 3 by omega)
  have lg := fmtNat_length_le (e := 3) (by decide) (show g < 10 ^ 3 by omega)
  have lb := fmtNat_length_le (e := 3) (by decide) (show bl < 10 ^ 3 by omega)
  refine sgr_whole ?_ ?_
  · simp only [List.length_append, List.length_singleton, show (lit ";2;").length = 3 from rfl]
    omega
  · simp [hbase.1, fmtNat_sgrParams, (by decide : SgrParams (lit ";2;"))]

/-- The 256-colour form `ESC [ base ; 5 ; n m` of an index in `0..255`. -/
theorem sgr_index_whole {base : Int} (hbase : SgrParams (fmtInt base) ∧ (fmtInt base).length ≤ 3)
    {n : Int} (h0 : 0 ≤ n) (h : n ≤ 255) : WholeSgr (sgr 24 (fmtInt base ++ lit ";5;" ++ fmtInt n)) := by
  have pn := fmtInt_small h0 (show n < 1000 by omega)
  refine sgr_whole ?_ ?_
  · simp only [List.length_append, show (lit ";5;").length = 3 from rfl]
    omega
  · simp [hbase.1, pn.1, (by decide : SgrParams (lit ";5;"))]

/-- The basic form `ESC [ 30+v m` or `ESC [ 40+v m` of a code in `0..9`. -/
theorem sgr_basic_whole {basic v : Int} (hb : basic = 30 ∨ basic = 40) (h0 : 0 ≤ v) (h : v ≤ 9) :
    WholeSgr (sgr 16 (fmtInt (basic + v))) := by
  obtain ⟨hp, hl⟩ := fmtInt_small (v := basic + v) (by omega) (by omega)
  exact sgr_whole (by omega) hp

/-- The test `spec[0] == '#' && strlen(spec) == 7`. -/
theorem hexSpec_shape {spec : List UInt8} (h : spec.head? = some 0x23 ∧ spec.length = 7) :
    ∃ t, spec = 0x23 :: t ∧ t.length = 6 := by
  rcases spec with _ | ⟨c, t⟩
  · simp at h
  · simp only [List.head?_cons, Option.some.injEq, List.length_cons] at h
    exact ⟨t, by rw [h.1], by omega⟩

/-- **`emit_color` appends whole sequences.**  For every spec, colour depth and
target: what `emit_color` appends is one SGR sequence `ESC [ params m` whose
parameters are decimal digits and `;`, so `snprintf` has cut nothing and the
terminal reads it whole.  The one exception is a spec of `#` and six bytes
among which stands a minus sign, which `%2x` reads as a negative field. -/
theorem emitColor_whole {spec : List UInt8} {depth : Int} {fg : Bool} {out : List UInt8}
    (h : emitColor spec depth fg = some out) :
    WholeSgr out ∨ ∃ t, spec = 0x23 :: t ∧ t.length = 6 ∧ 0x2D ∈ t := by
  by_cases h0 : depth = 0
  · simp [emitColor, h0] at h
  simp only [emitColor, if_neg h0] at h
  have hbase : SgrParams (fmtInt (if fg then 38 else 48)) ∧ (fmtInt (if fg then 38 else 48)).length ≤ 3 :=
    fmtInt_small (by split <;> decide) (by split <;> decide)
  have hbasic : (if fg then (30 : Int) else 40) = 30 ∨ (if fg then (30 : Int) else 40) = 40 := by
    split <;> simp
  generalize (if fg then (38 : Int) else 48) = base at h hbase
  generalize (if fg then (30 : Int) else 40) = basic at h hbasic
  have hnamed : ∀ out, ((namedColors.lookup spec).map fun code => sgr 16 (fmtInt (basic + code))) = some out →
      WholeSgr out := by
    intro out hn
    obtain ⟨code, hc, rfl⟩ := Option.map_eq_some'.mp hn
    exact sgr_basic_whole hbasic (namedColors_code hc).1 (namedColors_code hc).2
  split at h
  · -- `#RRGGBB`, read by `sscanf`
    rename_i r g bl hhex
    split_ifs at hhex with hsh
    obtain ⟨t, rfl, ht⟩ := hexSpec_shape hsh
    rcases sscanfHex3_lt hhex with ⟨hr, hg, hb⟩ | hm
    · split_ifs at h <;> cases h
      · exact .inl (sgr_truecolor_whole hbase hr hg hb)
      · have hi := cubeIndex_bounds hr hg hb
        rw [wrapInt_cube hi]
        exact .inl (sgr_index_whole hbase (by omega) (by omega))
    · exact .inr ⟨t, rfl, ht, hm⟩
  · split at h
    · -- a decimal number
      split_ifs at h with hrange hd2
      · cases h
        exact .inl (sgr_index_whole hbase hrange.1 hrange.2)
      · cases h
        exact .inl (sgr_basic_whole hbasic (Int.emod_nonneg _ (by decide)) (by omega))
      · exact .inl (hnamed out h)
    · exact .inl (hnamed out h)

theorem emitColor_whole_orange :
    emitColor (lit "#ff8000") 2 true = some (lit "\x1b[38;5;208m") ∧
      (WholeSgr (lit "\x1b[38;5;208m") ∨ ∃ t, lit "#ff8000" = 0x23 :: t ∧ t.length = 6 ∧ 0x2D ∈ t) :=
  have h : emitColor (lit "#ff8000") 2 true = some (lit "\x1b[38;5;208m") := by decide
  ⟨h, emitColor_whole h⟩

end Lush
