import Lush.Prompt.Scanner

/-!
# `expand_buf_t`: the bounded output of Pass 2

The scanner writes through `buf_append_char` and `buf_append_str`, both guarded
by `pos + 1 < size`.  `ExpandBuf` holds the caller's output array itself, and
every store into it is at an index proved to lie inside the array, so the model
cannot write at or past `output[size]`.

A buffer *shows* the unbounded output `u` (`Shows out u b`) when it holds the
first `size - 1` bytes of `u`, a NUL right after them, and the caller's bytes
everywhere past that NUL.  Both append functions keep this relation:

* `Shows.appendChar`, `Shows.appendStr`: an append to the buffer matches the
  same append to `u`, cut silently at `size - 1` bytes;
* `Shows.apply`: hence so does every call of the scanner (`Emit`).
-/

namespace Lush

/-- `expand_buf_t` over the caller's array `buf` of `size = buf.length` bytes. -/
structure ExpandBuf where
  buf : List UInt8
  pos : Nat
  pos_lt : pos < buf.length

namespace ExpandBuf

/-- `b->buf[i] = c`, at an index inside the array. -/
def store (b : ExpandBuf) (i : Nat) (_ : i < b.buf.length) (c : UInt8) : ExpandBuf :=
  ⟨b.buf.set i c, b.pos, by simpa using b.pos_lt⟩

/-- `b->buf[b->pos++] = c`, when `pos + 1 < size`. -/
def push (b : ExpandBuf) (c : UInt8) (h : b.pos + 1 < b.buf.length) : ExpandBuf :=
  ⟨b.buf.set b.pos c, b.pos + 1, by simpa using h⟩

/-- `b->buf[b->pos] = '\0'`. -/
def terminate (b : ExpandBuf) : ExpandBuf := b.store b.pos b.pos_lt 0

end ExpandBuf

/-- `buf_init(b, buf, size)`, for `size ≥ 1`. -/
def bufInit (out : List UInt8) (h : 0 < out.length) : ExpandBuf :=
  ⟨out.set 0 0, 0, by simpa using h⟩

/-- `buf_append_char`. -/
def bufAppendChar (b : ExpandBuf) (c : UInt8) : ExpandBuf :=
  if h : b.pos + 1 < b.buf.length then (b.push c h).terminate else b

/-- The copy loop of `buf_append_str`: `while (*s && pos + 1 < size)`. -/
def bufCopyStr (b : ExpandBuf) : List UInt8 → ExpandBuf
  | [] => b
  | c :: s => if h : c ≠ 0 ∧ b.pos + 1 < b.buf.length then bufCopyStr (b.push c h.2) s else b

/-- `buf_append_str`: copy, then `buf[pos < size ? pos : size - 1] = '\0'`. -/
def bufAppendStr (b : ExpandBuf) (s : List UInt8) : ExpandBuf :=
  let b' := bufCopyStr b s
  b'.store (if b'.pos < b'.buf.length then b'.pos else b'.buf.length - 1)
    (by have := b'.pos_lt; split <;> omega) 0

/-- `buf_append_int`: `snprintf(tmp, 32, "%d", val)`, then `buf_append_str`. -/
def bufAppendInt (b : ExpandBuf) (v : Int) : ExpandBuf := bufAppendStr b (fmtInt v)

/-- One call of the scanner on the buffer. -/
def ExpandBuf.apply (b : ExpandBuf) : Emit → ExpandBuf
  | .char c => bufAppendChar b c
  | .str s => bufAppendStr b s

@[simp] theorem ExpandBuf.length_store (b : ExpandBuf) (i : Nat) (h : i < b.buf.length)
    (c : UInt8) : (b.store i h c).buf.length = b.buf.length := List.length_set ..

theorem bufAppendStr_eq (b : ExpandBuf) (s : List UInt8) :
    bufAppendStr b s = (bufCopyStr b s).terminate := by
  simp only [bufAppendStr, ExpandBuf.terminate, if_pos (bufCopyStr b s).pos_lt]

section Refinement
variable (out : List UInt8)

/-- `b` has stored the first `size - 1` bytes of `u` before `pos`, and every cell
past `pos` still holds the caller's byte. -/
def Stores (u : List UInt8) (b : ExpandBuf) : Prop :=
  b.buf.length = out.length ∧ b.pos = min (out.length - 1) u.length ∧
    b.buf.take b.pos = u.take (out.length - 1) ∧ ∀ i, b.pos < i → b.buf[i]? = out[i]?

/-- `Stores`, with the terminating NUL at `pos`. -/
def Shows (u : List UInt8) (b : ExpandBuf) : Prop :=
  Stores out u b ∧ b.buf[b.pos]? = some 0

variable {out}

/-- Storing one more byte while there is room. -/
theorem Stores.push {u : List UInt8} {b : ExpandBuf} (hs : Stores out u b) (c : UInt8)
    (h : b.pos + 1 < b.buf.length) : Stores out (u ++ [c]) (b.push c h) := by
  obtain ⟨hlen, hpos, htake, hframe⟩ := hs
  have hu : u.length = b.pos := by omega
  refine ⟨by simp [ExpandBuf.push, hlen], by simp [ExpandBuf.push]; omega, ?_, ?_⟩
  · have hfit : (u ++ [c]).length ≤ out.length - 1 := by simp; omega
    have hu' : u.take (out.length - 1) = u := List.take_of_length_le (by omega)
    rw [List.take_of_length_le hfit]
    rw [hu'] at htake
    show List.take (b.pos + 1) (b.buf.set b.pos c) = u ++ [c]
    rw [List.take_succ, List.set_take, List.set_eq_of_length_le (List.length_take_le _ _), htake,
      List.getElem?_set_self b.pos_lt]
    rfl
  · intro i hi
    simp only [ExpandBuf.push] at hi ⊢
    rw [List.getElem?_set_ne (by omega)]
    exact hframe i (by omega)

/-- Once the buffer is full, nothing more is stored, whatever `u` grows by. -/
theorem Stores.full {u : List UInt8} {b : ExpandBuf} (hs : Stores out u b)
    (h : ¬ b.pos + 1 < b.buf.length) (v : List UInt8) : Stores out (u ++ v) b := by
  obtain ⟨hlen, hpos, htake, hframe⟩ := hs
  have hpos' : b.pos = out.length - 1 := by have := b.pos_lt; omega
  refine ⟨hlen, by simp; omega, ?_, hframe⟩
  rw [htake, List.take_append_of_le_length (by omega)]

/-- Writing the NUL at `pos` turns `Stores` into `Shows`. -/
theorem Stores.terminate {u : List UInt8} {b : ExpandBuf} (hs : Stores out u b) :
    Shows out u b.terminate := by
  obtain ⟨hlen, hpos, htake, hframe⟩ := hs
  refine ⟨⟨by simp [ExpandBuf.terminate, hlen], hpos, ?_, ?_⟩, ?_⟩
  · simp only [ExpandBuf.terminate, ExpandBuf.store, List.set_take]
    rw [List.set_eq_of_length_le (List.length_take_le _ _), htake]
  · intro i hi
    simp only [ExpandBuf.terminate, ExpandBuf.store] at hi ⊢
    rw [List.getElem?_set_ne (by omega)]
    exact hframe i hi
  · simp [ExpandBuf.terminate, ExpandBuf.store, b.pos_lt]

/-- `buf_init` shows the empty output. -/
theorem shows_bufInit (h : 0 < out.length) : Shows out [] (bufInit out h) := by
  refine ⟨⟨by simp [bufInit], by simp [bufInit], by simp [bufInit], ?_⟩, by simp [bufInit, h]⟩
  intro i hi
  simp only [bufInit] at hi ⊢
  rw [List.getElem?_set_ne (by omega)]

theorem Shows.appendChar {u : List UInt8} {b : ExpandBuf} (hs : Shows out u b) (c : UInt8) :
    Shows out (u ++ [c]) (bufAppendChar b c) := by
  unfold bufAppendChar
  split
  · exact (hs.1.push c ‹_›).terminate
  · exact ⟨hs.1.full ‹_› [c], hs.2⟩

theorem Stores.copyStr {u : List UInt8} {b : ExpandBuf} (hs : Stores out u b) (s : List UInt8) :
    Stores out (u ++ cStr s) (bufCopyStr b s) := by
  induction s generalizing u b with
  | nil => simpa [bufCopyStr] using hs
  | cons c s ih =>
    rw [cStr_cons, bufCopyStr]
    by_cases hc : c = 0
    · simpa [hc] using hs
    · by_cases hroom : b.pos + 1 < b.buf.length
      · rw [dif_pos ⟨hc, hroom⟩, if_neg hc]
        simpa using ih (hs.push c hroom)
      · rw [dif_neg (fun h => hroom h.2), if_neg hc]
        exact hs.full hroom _

theorem Shows.appendStr {u : List UInt8} {b : ExpandBuf} (hs : Shows out u b) (s : List UInt8) :
    Shows out (u ++ cStr s) (bufAppendStr b s) := by
  rw [bufAppendStr_eq]
  exact (hs.1.copyStr s).terminate

/-- Every call of the scanner keeps the buffer showing the unbounded output. -/
theorem Shows.apply {u : List UInt8} {b : ExpandBuf} (hs : Shows out u b) (e : Emit) :
    Shows out (u ++ e.bytes) (b.apply e) := by
  cases e with
  | char c => exact hs.appendChar c
  | str s => exact hs.appendStr s

/-- A buffer showing a NUL-free output that fits reads back as that output. -/
theorem Shows.cStr_eq {u : List UInt8} {b : ExpandBuf} (hs : Shows out u b) (hu : 0 ∉ u)
    (hfit : u.length < out.length) : cStr b.buf = u := by
  obtain ⟨⟨hlen, hpos, htake, -⟩, hnul⟩ := hs
  obtain ⟨hlt, h0⟩ := List.getElem?_eq_some.mp hnul
  rw [← List.take_append_drop b.pos b.buf, List.drop_eq_getElem_cons hlt, h0, htake,
    List.take_of_length_le (by omega), cStr_append_nul hu]

/-- The string the buffer reads as is the C string of what it shows of `u`. -/
theorem Shows.cStr_buf {u : List UInt8} {b : ExpandBuf} (hs : Shows out u b) :
    cStr b.buf = cStr (u.take (out.length - 1)) := by
  obtain ⟨⟨-, -, htake, -⟩, hnul⟩ := hs
  obtain ⟨hlt, h0⟩ := List.getElem?_eq_some.mp hnul
  rw [← List.take_append_drop b.pos b.buf, List.drop_eq_getElem_cons hlt, h0, htake, cStr_append_zero]

end Refinement

end Lush
