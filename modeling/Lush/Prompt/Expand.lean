import Lush.Prompt.ExpandBuf
import Lush.Prompt.Template

/-!
# `expand_prompt_escapes` and the laws of Pass 2

`expandPromptEscapes` is the source function: the scan loop writing into the
caller's array through `expand_buf_t`.  `expandUnbounded` is the same scan with
an output that never fills.  Two laws relate them and describe the scan:

* `expandLoop_sim`: any relation between two buffers that each append keeps is
  kept by the whole scan;
* `expandPromptEscapes_writes_take`: the array receives exactly the first
  `size - 1` bytes of the unbounded output and a NUL after them, and no cell
  past that NUL changes;
* `expandUnbounded_literal_tokens`: a prefix made of literal tokens (plain
  bytes, complete CSI sequences, and `\X` / `%X` outside the escape tables)
  is copied unchanged and the scan resumes right after it.
-/

namespace Lush

section Loop
variable (env : Env) (ctx : LlePromptExpandCtx)

/-- `expand_prompt_escapes(input, output, size, ctx)` for an array of `size ≥ 1`
bytes: the buffer after the scan (the function always returns `LLE_SUCCESS`). -/
def expandPromptEscapes (input out : List UInt8) (h : 0 < out.length) : ExpandBuf :=
  expandLoop env ctx ExpandBuf.apply (bufInit out h) input

theorem expandLoop_nil {α : Type} (f : α → Emit → α) (b : α) : expandLoop env ctx f b [] = b := by
  rw [expandLoop]

theorem expandLoop_cons {α : Type} (f : α → Emit → α) (b : α) (c : UInt8) (p : List UInt8)
    (hc : c ≠ 0) :
    expandLoop env ctx f b (c :: p) =
      expandLoop env ctx f ((escapeStep env ctx c p).1.foldl f b) (escapeStep env ctx c p).2 := by
  rw [expandLoop, if_neg hc]

/-- Any relation two buffers keep under every append, the scan keeps. -/
theorem expandLoop_sim {α β : Type} (R : α → β → Prop) (f : α → Emit → α) (g : β → Emit → β)
    (hfg : ∀ a b e, R a b → R (f a e) (g b e)) (a : α) (s : List UInt8) :
    ∀ b, R a b → R (expandLoop env ctx f a s) (expandLoop env ctx g b s) := by
  have hfold : ∀ (es : List Emit) a b, R a b → R (es.foldl f a) (es.foldl g b) := by
    intro es
    induction es with
    | nil => exact fun _ _ h => h
    | cons e es ih => exact fun a b h => ih _ _ (hfg a b e h)
  induction a, s using expandLoop.induct env ctx f with
  | case1 a => intro b h; rwa [expandLoop_nil, expandLoop_nil]
  | case2 a p => intro b h; rwa [expandLoop, if_pos rfl, expandLoop, if_pos rfl]
  | case3 a c p hc ih =>
    intro b h
    rw [expandLoop_cons env ctx f a c p hc, expandLoop_cons env ctx g b c p hc]
    exact ih _ (hfold _ _ _ h)

/-- The array after Pass 2 shows the unbounded output. -/
theorem shows_expandPromptEscapes (s out : List UInt8) (h : 0 < out.length) :
    Shows out (expandUnbounded env ctx s) (expandPromptEscapes env ctx s out h) :=
  expandLoop_sim env ctx (fun u b => Shows out u b) appendUnbounded ExpandBuf.apply
    (fun _ _ e h => h.apply e) [] s (bufInit out h) (shows_bufInit h)

/-- **Silent truncation keeps a prefix.**  For every input, context, environment
and array of `size ≥ 1` bytes, Pass 2 leaves in the array the first `size - 1`
bytes of its unbounded output, a NUL right after them, and every later cell as
the caller left it. -/
theorem expandPromptEscapes_writes_take (s out : List UInt8) (h : 0 < out.length) :
    (expandPromptEscapes env ctx s out h).buf.length = out.length ∧
      (expandPromptEscapes env ctx s out h).buf.take
          (min (out.length - 1) (expandUnbounded env ctx s).length) =
        (expandUnbounded env ctx s).take (out.length - 1) ∧
      (expandPromptEscapes env ctx s out h).buf[
          min (out.length - 1) (expandUnbounded env ctx s).length]? = some 0 ∧
      ∀ i, min (out.length - 1) (expandUnbounded env ctx s).length < i →
        (expandPromptEscapes env ctx s out h).buf[i]? = out[i]? := by
  obtain ⟨⟨hlen, hpos, htake, hframe⟩, hnul⟩ := shows_expandPromptEscapes env ctx s out h
  rw [← hpos]
  exact ⟨hlen, htake, hnul, hframe⟩

theorem expandPromptEscapes_writes_take_alice :
    0 < (List.replicate 8 (0 : UInt8)).length ∧
      (expandPromptEscapes aliceEnv plainCtx (lit "abcdefghijklmnop") (List.replicate 8 0)
          (by decide)).buf.length = (List.replicate 8 (0 : UInt8)).length ∧
      (expandPromptEscapes aliceEnv plainCtx (lit "abcdefghijklmnop") (List.replicate 8 0)
          (by decide)).buf.take (min ((List.replicate 8 (0 : UInt8)).length - 1)
            (expandUnbounded aliceEnv plainCtx (lit "abcdefghijklmnop")).length) =
        (expandUnbounded aliceEnv plainCtx (lit "abcdefghijklmnop")).take
          ((List.replicate 8 (0 : UInt8)).length - 1) ∧
      (expandPromptEscapes aliceEnv plainCtx (lit "abcdefghijklmnop") (List.replicate 8 0)
          (by decide)).buf[min ((List.replicate 8 (0 : UInt8)).length - 1)
            (expandUnbounded aliceEnv plainCtx (lit "abcdefghijklmnop")).length]? = some 0 ∧
      ∀ i, min ((List.replicate 8 (0 : UInt8)).length - 1)
          (expandUnbounded aliceEnv plainCtx (lit "abcdefghijklmnop")).length < i →
        (expandPromptEscapes aliceEnv plainCtx (lit "abcdefghijklmnop") (List.replicate 8 0)
          (by decide)).buf[i]? = (List.replicate 8 (0 : UInt8))[i]? :=
  ⟨by decide, expandPromptEscapes_writes_take aliceEnv plainCtx _ _ (by decide)⟩

/-- The unbounded scan appends its output to whatever the buffer held. -/
theorem expandLoop_appendUnbounded (u s : List UInt8) :
    expandLoop env ctx appendUnbounded u s = u ++ expandUnbounded env ctx s :=
  expandLoop_sim env ctx (fun a b => a = u ++ b) appendUnbounded appendUnbounded
    (fun a b e h => by simp [appendUnbounded, h]) u s [] (by simp)

theorem foldl_appendUnbounded (es : List Emit) (u : List UInt8) :
    es.foldl appendUnbounded u = u ++ es.flatMap Emit.bytes := by
  induction es generalizing u with
  | nil => simp
  | cons e es ih => simp [ih, appendUnbounded]

/-- One iteration of the unbounded scan. -/
@[simp] theorem expandUnbounded_nil : expandUnbounded env ctx [] = [] := expandLoop_nil env ctx _ _

theorem expandUnbounded_cons (c : UInt8) (p : List UInt8) (hc : c ≠ 0) :
    expandUnbounded env ctx (c :: p) =
      (escapeStep env ctx c p).1.flatMap Emit.bytes ++
        expandUnbounded env ctx (escapeStep env ctx c p).2 := by
  rw [expandUnbounded, expandLoop_cons env ctx _ _ _ _ hc, expandLoop_appendUnbounded,
    foldl_appendUnbounded, List.nil_append]

end Loop

/-! ## Literal tokens -/

/-- The literal tokens of Pass 2: byte strings the scan copies as they stand. -/
inductive LiteralToken : List UInt8 → Prop
  /-- A byte other than NUL, backslash, `%` and ESC. -/
  | plain (b : UInt8) (h0 : b ≠ 0) (hb : b ≠ 0x5C) (hp : b ≠ 0x25) (he : b ≠ 0x1B) :
      LiteralToken [b]
  /-- A CSI sequence `ESC [ P I f`. -/
  | csi (P I : List UInt8) (f : UInt8) (hP : ∀ x ∈ P, 0x30 ≤ x ∧ x ≤ 0x3F)
      (hI : ∀ x ∈ I, 0x20 ≤ x ∧ x ≤ 0x2F) (hf : 0x40 ≤ f ∧ f ≤ 0x7E) :
      LiteralToken (0x1B :: 0x5B :: (P ++ I ++ [f]))
  /-- A backslash and a byte outside the bash table. -/
  | bash (X : UInt8) (h0 : X ≠ 0) (hX : X ∉ bashEscapeChars) : LiteralToken [0x5C, X]
  /-- A `%` and a byte outside the zsh table. -/
  | zsh (X : UInt8) (h0 : X ≠ 0) (hX : X ∉ zshEscapeChars) : LiteralToken [0x25, X]

theorem flatMap_bytes_chars (L : List UInt8) : (L.map Emit.char).flatMap Emit.bytes = L := by
  induction L with
  | nil => rfl
  | cons c L ih => simp [ih, Emit.bytes]

theorem foldl_appendUnbounded_chars (L u : List UInt8) :
    (L.map Emit.char).foldl appendUnbounded u = u ++ L := by
  rw [foldl_appendUnbounded, flatMap_bytes_chars]

/-- A byte of a range that starts above NUL and ends below `0x40`. -/
theorem byte_between {x lo hi : UInt8} (h : lo ≤ x ∧ x ≤ hi) (hlo : lo ≠ 0) (hhi : hi < 0x40) :
    x ≠ 0 ∧ x < 0x40 := by
  have h0 : (0 : UInt8).toNat = 0 := rfl
  have h64 : (0x40 : UInt8).toNat = 64 := rfl
  simp only [byte_le_iff, byte_lt_iff, ne_eq, byte_eq_iff, h0, h64] at *
  omega

/-- The passthrough copies the parameter and intermediate bytes, then the final byte. -/
theorem csiCopy_params (sc : Bool) (L : List UInt8) (hL : ∀ x ∈ L, x ≠ 0 ∧ x < 0x40)
    (f : UInt8) (hf : 0x40 ≤ f ∧ f ≤ 0x7E) (F : List UInt8) :
    csiCopy sc (L ++ f :: F) = (L.map .char ++ [.char f], F) := by
  induction L with
  | nil =>
    have : f ≠ 0 ∧ charLt0x40 sc f = false := by
      simp only [charLt0x40, byte_le_iff, byte_lt_iff, ne_eq, byte_eq_iff] at hf ⊢
      simp [UInt8.size] at hf ⊢
      omega
    simp [csiCopy, this.1, this.2]
  | cons x L ih =>
    obtain ⟨hx0, hx⟩ := hL x (List.mem_cons_self _ _)
    have hlt : charLt0x40 sc x = true := by simp [charLt0x40, hx]
    simp [csiCopy, hx0, hlt, ih (fun y hy => hL y (List.mem_cons_of_mem _ hy))]

variable (env : Env) (ctx : LlePromptExpandCtx)

/-- One literal token is copied, and the scan goes on right after it. -/
theorem LiteralToken.expandLoop {t : List UInt8} (ht : LiteralToken t) (u F : List UInt8) :
    expandLoop env ctx appendUnbounded u (t ++ F) =
      expandLoop env ctx appendUnbounded (u ++ t) F := by
  cases ht with
  | plain b h0 hb hp he =>
    rw [List.singleton_append, expandLoop_cons env ctx _ _ _ _ h0,
      escapeStep_plain env ctx he hb hp]
    simp [appendUnbounded, Emit.bytes]
  | csi P I f hP hI hf =>
    have hPI : ∀ x ∈ P ++ I, x ≠ 0 ∧ x < 0x40 := fun x hx =>
      (List.mem_append.mp hx).elim (fun h => byte_between (hP x h) (by decide) (by decide))
        (fun h => byte_between (hI x h) (by decide) (by decide))
    have hcsi := csiCopy_params env.signedChar (P ++ I) hPI f hf F
    rw [List.cons_append, List.cons_append, expandLoop_cons env ctx _ _ _ _ (by decide)]
    simp only [escapeStep, if_pos, List.append_assoc, List.singleton_append] at hcsi ⊢
    rw [hcsi]
    simp [foldl_appendUnbounded_chars, appendUnbounded, Emit.bytes]
  | bash X h0 hX =>
    rw [List.cons_append, expandLoop_cons env ctx _ _ _ _ (by decide)]
    simp [escapeStep, h0, bashEscape_of_not_mem env ctx hX, appendUnbounded, Emit.bytes]
  | zsh X h0 hX =>
    rw [List.cons_append, expandLoop_cons env ctx _ _ _ _ (by decide)]
    simp [escapeStep, h0, zshEscape_of_not_mem env ctx hX, appendUnbounded, Emit.bytes]

/-- **Literal tokens pass through.**  If `T` is a concatenation of literal
tokens, Pass 2 copies `T` unchanged and expands whatever follows it as if `T`
were absent: `expand(T ++ F) = T ++ expand(F)` for every `F`, and `expand(T) = T`. -/
theorem expandUnbounded_literal_tokens (ts : List (List UInt8))
    (hts : ∀ t ∈ ts, LiteralToken t) (F : List UInt8) :
    expandUnbounded env ctx (ts.flatten ++ F) = ts.flatten ++ expandUnbounded env ctx F ∧
      expandUnbounded env ctx ts.flatten = ts.flatten := by
  have key : ∀ F u, expandLoop env ctx appendUnbounded u (ts.flatten ++ F) =
      expandLoop env ctx appendUnbounded (u ++ ts.flatten) F := by
    induction ts with
    | nil => simp
    | cons t ts ih =>
      intro F u
      rw [List.flatten_cons, List.append_assoc,
        (hts t (List.mem_cons_self _ _)).expandLoop env ctx,
        ih (fun t' h => hts t' (List.mem_cons_of_mem _ h)), List.append_assoc]
  have hF : ∀ F, expandUnbounded env ctx (ts.flatten ++ F) =
      ts.flatten ++ expandUnbounded env ctx F := by
    intro F
    rw [expandUnbounded, key, List.nil_append, expandLoop_appendUnbounded]
  exact ⟨hF F, by simpa [expandUnbounded, expandLoop_nil] using hF []⟩

/-- Four literal tokens: `A`, `ESC [ 3 2 m`, `\Z` and `%Z`. -/
def sampleTokens : List (List UInt8) :=
  [[0x41], [0x1B, 0x5B, 0x33, 0x32, 0x6D], [0x5C, 0x5A], [0x25, 0x5A]]

theorem sampleTokens_literal : ∀ t ∈ sampleTokens, LiteralToken t := by
  simp only [sampleTokens, List.forall_mem_cons, List.forall_mem_nil]
  exact ⟨.plain _ (by decide) (by decide) (by decide) (by decide),
    .csi [0x33, 0x32] [] 0x6D (by decide) (by decide) (by decide),
    .bash _ (by decide) (by decide), .zsh _ (by decide) (by decide), by simp⟩

theorem expandUnbounded_literal_tokens_sample :
    (∀ t ∈ sampleTokens, LiteralToken t) ∧
      (expandUnbounded aliceEnv plainCtx (sampleTokens.flatten ++ lit "\\u") =
          sampleTokens.flatten ++ expandUnbounded aliceEnv plainCtx (lit "\\u") ∧
        expandUnbounded aliceEnv plainCtx sampleTokens.flatten = sampleTokens.flatten) :=
  ⟨sampleTokens_literal,
    expandUnbounded_literal_tokens aliceEnv plainCtx _ sampleTokens_literal _⟩

/-! ## `lle_prompt_expand` -/

/-- `EXPAND_BUF_SIZE`: the intermediate buffer between the two passes. -/
def expandBufSize : Nat := 4096

/-- `lle_prompt_expand(format, output, output_size, ctx)`: the result code and the
output array.  A NULL pointer is `none`; the array's length is `output_size`. -/
def llePromptExpand (env : Env) (format output : Option (List UInt8))
    (ctx : Option LlePromptExpandCtx) : LleResult × Option (List UInt8) :=
  match format, output, ctx with
  | some fmt, some out, some c =>
    if h : out.length = 0 then (.errorNullPointer, some out)
    else
      let out0 := out.set 0 0
      have h0 : 0 < out0.length := by simpa [out0] using Nat.pos_of_ne_zero h
      match c.templateCtx with
      | some t =>
        match lleTemplateEvaluate t fmt expandBufSize with
        | .error r => (r, some out0)
        | .ok mid => (.success, some (expandPromptEscapes env c mid out0 h0).buf)
      | none => (.success, some (expandPromptEscapes env c fmt out0 h0).buf)
  | _, output, _ => (.errorNullPointer, output)

/-- With a template context, the array shows Pass 2's expansion of Pass 1's output. -/
theorem llePromptExpand_template (env : Env) (fmt out : List UInt8) (h : 0 < out.length)
    (c : LlePromptExpandCtx) (t : TemplateRenderCtx) (ht : c.templateCtx = some t)
    (mid : List UInt8) (hmid : lleTemplateEvaluate t fmt expandBufSize = .ok mid) :
    ∃ b, llePromptExpand env (some fmt) (some out) (some c) = (.success, some b.buf) ∧
      Shows out (expandUnbounded env c mid) b := by
  have hne : out.length ≠ 0 := Nat.pos_iff_ne_zero.mp h
  refine ⟨expandPromptEscapes env c mid (out.set 0 0) (by simpa using h), ?_, ?_⟩
  · simp only [llePromptExpand, dif_neg hne, ht, hmid]
  · obtain ⟨⟨hlen, hpos, htake, hframe⟩, hnul⟩ :=
      shows_expandPromptEscapes env c mid (out.set 0 0) (by simpa using h)
    refine ⟨⟨by simpa using hlen, by simpa using hpos, by simpa using htake, ?_⟩, hnul⟩
    intro i hi
    rw [hframe i hi, List.getElem?_set_ne (by omega)]

/-- A string of plain bytes, one token a byte. -/
theorem literalToken_singletons {s : List UInt8} (h : ∀ b ∈ s, b ≠ 0 ∧ b ≠ 0x5C ∧ b ≠ 0x25 ∧ b ≠ 0x1B) :
    ∀ x ∈ s.map fun b => [b], LiteralToken x := by
  simp only [List.mem_map, forall_exists_index, and_imp, forall_apply_eq_imp_iff₂]
  intro b hb
  obtain ⟨h0, hbs, hp, he⟩ := h b hb
  exact .plain b h0 hbs hp he

end Lush
