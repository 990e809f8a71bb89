import Lush.Prompt.Env

/-!
# Pass 1: the template engine, as the spec describes it

`lle_template_evaluate` lives outside the sources given here; Pass 2 only sees
its output.  The spec fixes what it recognises: `${segment}`,
`${segment.property}`, `${?cond:then:else}`, and the escapes `\n`, `\\`, `\$`.
Every other byte, including any other `\X` and every `%X`, passes through, so
that Pass 2 can expand it.  The segment text comes from the callbacks of the
render context.
-/

namespace Lush

/-- The text of a `${…}` reference up to its closing brace, and the input after
that brace; `none` when the brace never comes. -/
def templateRef : List UInt8 → Option (List UInt8 × List UInt8)
  | [] => none
  | c :: s => if c = 0x7D then some ([], s) else (templateRef s).map fun r => (c :: r.1, r.2)

theorem templateRef_suffix {s inner rest : List UInt8} (h : templateRef s = some (inner, rest)) :
    rest <:+ s := by
  induction s generalizing inner with
  | nil => simp [templateRef] at h
  | cons c s ih =>
    unfold templateRef at h
    split_ifs at h with hc
    · obtain ⟨-, rfl⟩ := Option.some.inj h
      exact List.suffix_cons _ _
    · obtain ⟨r, hr, hrr⟩ := Option.map_eq_some'.mp h
      obtain ⟨-, rfl⟩ := Prod.mk.inj hrr
      exact (@ih r.1 (by rw [hr])).trans (List.suffix_cons _ _)

/-- What one reference expands to: a conditional picks its branch by the
visibility callback, a segment (with an optional `.property`) is the segment
callback's text, or nothing when the callback returns NULL. -/
def templateRefValue (t : TemplateRenderCtx) : List UInt8 → List UInt8
  | 0x3F :: cond =>
    let c := cond.takeWhile (· != 0x3A)
    let branches := (cond.dropWhile (· != 0x3A)).drop 1
    if t.isVisible c none then branches.takeWhile (· != 0x3A)
    else (branches.dropWhile (· != 0x3A)).drop 1
  | inner =>
    let name := inner.takeWhile (· != 0x2E)
    let prop := if 0x2E ∈ inner then some ((inner.dropWhile (· != 0x2E)).drop 1) else none
    ((t.getSegment name prop).map CString.bytes).getD []

/-- The template engine's scan over a format string. -/
def templateLoop (t : TemplateRenderCtx) : List UInt8 → List UInt8
  | [] => []
  | 0 :: _ => []
  | 0x24 :: 0x7B :: s =>
    match h : templateRef s with
    | some r => templateRefValue t r.1 ++ templateLoop t r.2
    | none => 0x24 :: 0x7B :: templateLoop t s
  | 0x5C :: 0x6E :: s => 0x0A :: templateLoop t s
  | 0x5C :: 0x5C :: s => 0x5C :: templateLoop t s
  | 0x5C :: 0x24 :: s => 0x24 :: templateLoop t s
  | c :: s => c :: templateLoop t s
termination_by s => s.length
decreasing_by
  all_goals simp_wf
  all_goals try omega
  have := (templateRef_suffix h).length_le
  omega

theorem templateLoop_ref (t : TemplateRenderCtx) {s : List UInt8} {r : List UInt8 × List UInt8}
    (h : templateRef s = some r) :
    templateLoop t (0x24 :: 0x7B :: s) = templateRefValue t r.1 ++ templateLoop t r.2 := by
  rw [templateLoop]
  split
  next r' hr => obtain rfl := Option.some.inj (h.symm.trans hr); rfl
  next hr => exact absurd (h.symm.trans hr) nofun

/-- Modelled from the spec: `lle_template_evaluate(format, ctx, out, out_size)`,
the template engine of Pass 1, which src/ does not contain.  It resolves the
references and its three escapes, copies every other byte, and cuts the result
to `out_size - 1` bytes. -/
def lleTemplateEvaluate (t : TemplateRenderCtx) (fmt : List UInt8) (size : Nat) :
    Except LleResult (List UInt8) :=
  .ok ((templateLoop t fmt).take (size - 1))

/-- Bytes the template engine copies as they stand: no NUL, `$` or `\`. -/
def TemplatePlain (p : List UInt8) : Prop := ∀ c ∈ p, c ≠ 0 ∧ c ≠ 0x24 ∧ c ≠ 0x5C

instance (p : List UInt8) : Decidable (TemplatePlain p) := inferInstanceAs (Decidable (∀ c ∈ p, _))

theorem templateLoop_plain_append (t : TemplateRenderCtx) {p : List UInt8} (hp : TemplatePlain p)
    (s : List UInt8) : templateLoop t (p ++ s) = p ++ templateLoop t s := by
  induction p with
  | nil => rfl
  | cons c p ih =>
    obtain ⟨h0, hd, hb⟩ := hp c (List.mem_cons_self _ _)
    rw [List.cons_append, templateLoop.eq_7 t c _ h0 (fun _ h _ => hd h) (fun _ h _ => hb h)
      (fun _ h _ => hb h) (fun _ h _ => hb h), ih fun c hc => hp c (List.mem_cons_of_mem _ hc)]
    rfl

/-- A reference ends at the first closing brace. -/
theorem templateRef_close {inner : List UInt8} (h : 0x7D ∉ inner) (s : List UInt8) :
    templateRef (inner ++ 0x7D :: s) = some (inner, s) := by
  induction inner with
  | nil => simp [templateRef]
  | cons c inner ih =>
    rw [List.mem_cons, not_or] at h
    simp [templateRef, Ne.symm h.1, ih h.2]

/-- `${directory}` between plain text evaluates to the directory segment's text
between the same text. -/
theorem lleTemplateEvaluate_dirTemplate_around (dir : CString) (size : Nat) {P S : List UInt8}
    (hP : TemplatePlain P) (hS : TemplatePlain S) (h : (P ++ dir.bytes ++ S).length < size) :
    lleTemplateEvaluate (dirTemplate dir) (P ++ lit "${directory}" ++ S) size = .ok (P ++ dir.bytes ++ S) := by
  have hdir : lit "${directory}" = 0x24 :: 0x7B :: (lit "directory" ++ [0x7D]) := by decide
  have hval : templateRefValue (dirTemplate dir) (lit "directory") = dir.bytes := rfl
  rw [lleTemplateEvaluate, List.append_assoc, templateLoop_plain_append _ hP, hdir, List.cons_append,
    List.cons_append, List.append_assoc, List.singleton_append, templateLoop_ref _ (templateRef_close (by decide) S),
    hval, ← List.append_nil S, templateLoop_plain_append _ hS, templateLoop.eq_1, List.append_nil,
    ← List.append_assoc, List.take_of_length_le (by omega)]

/-- `${directory}` evaluates to the directory segment's text. -/
theorem lleTemplateEvaluate_dirTemplate (dir : CString) (size : Nat)
    (h : dir.bytes.length < size) :
    lleTemplateEvaluate (dirTemplate dir) (lit "${directory}") size = .ok dir.bytes := by
  simpa using lleTemplateEvaluate_dirTemplate_around dir size (P := []) (S := []) (by decide) (by decide)
    (by simpa using h)

end Lush
