import Mathlib

/-!
# C strings as byte lists, and result codes

The prompt core handles `char` buffers throughout.  A buffer is modelled by the
list of bytes stored in it; the C string it holds is the part before the first
NUL (`cStr`), and reading one byte past the end of the list reads that NUL
(`cur`).  A string that can reach the model from outside (a user name, a working
directory, a time stamp) is a `CString`, whose bytes are NUL-free by
construction.

`printf`'s integer conversions are `fmtNat` / `fmtInt`, and a bounded
`snprintf` keeps at most `size - 1` bytes (`snprintfStr`).  The classification
predicates are those of the C locale.

`LleResult` is the error taxonomy every function of the core returns.
-/

namespace Lush

/-- `lle_result_t`. -/
inductive LleResult
  | success
  | errorNullPointer
  | errorInvalidParameter
  | errorInvalidState
  | errorOutOfMemory
  | errorResourceExhausted
  | errorSystemCall
  | errorNotInitialized
  | errorFeatureNotAvailable
deriving DecidableEq, Repr

/-- The contents of a C string: the bytes before its terminating NUL. -/
structure CString where
  bytes : List UInt8
  nul_free : 0 ∉ bytes
deriving DecidableEq

/-- ASCII text as the bytes a C string literal holds. -/
def lit (s : String) : List UInt8 := s.data.map (fun c => c.toNat.toUInt8)

/-- The C string stored at the start of a buffer: everything before the first NUL. -/
def cStr (s : List UInt8) : List UInt8 := s.takeWhile (· != 0)

/-- `*p`, for `p` pointing at the start of `s`: past the end lies the NUL. -/
def cur : List UInt8 → UInt8
  | [] => 0
  | c :: _ => c

/-- The decimal digits `printf("%u")` writes for `n`. -/
def fmtNat (n : Nat) : List UInt8 := (Nat.toDigits 10 n).map (fun c => c.toNat.toUInt8)

/-- `printf("%d")` (and `%ld`): a minus sign for a negative value, then its digits. -/
def fmtInt : Int → List UInt8
  | .ofNat n => fmtNat n
  | .negSucc n => 0x2D :: fmtNat (n + 1)

/-- `snprintf(buf, size, "%s", s)` with `size ≥ 1`: the first `size - 1` bytes. -/
def snprintfStr (size : Nat) (s : List UInt8) : List UInt8 := (cStr s).take (size - 1)

/-- `isspace` in the C locale: space, and `\t` `\n` `\v` `\f` `\r`. -/
def isSpace (c : UInt8) : Bool := c == 0x20 || (0x09 ≤ c && c ≤ 0x0D)

/-- `'0' <= c && c <= '9'`. -/
def isDigit (c : UInt8) : Bool := 0x30 ≤ c && c ≤ 0x39

/-- `isxdigit` in the C locale. -/
def isXDigit (c : UInt8) : Bool :=
  isDigit c || (0x61 ≤ c && c ≤ 0x66) || (0x41 ≤ c && c ≤ 0x46)

/-- The value of a hexadecimal digit (`isXDigit c`). -/
def hexVal (c : UInt8) : Nat :=
  if isDigit c then c.toNat - 0x30
  else if 0x61 ≤ c && c ≤ 0x66 then c.toNat - 0x61 + 10
  else c.toNat - 0x41 + 10

/-- `strrchr(s, c) + 1`: the bytes after the last `c`, when `s` holds one. -/
def afterLast (c : UInt8) (s : List UInt8) : Option (List UInt8) :=
  if c ∈ s then some (s.reverse.takeWhile (· != c)).reverse else none

/-- `strstr(s, needle) + strlen(needle)`: the bytes after the first occurrence. -/
def afterFirst (needle : List UInt8) : List UInt8 → Option (List UInt8)
  | [] => if needle = [] then some [] else none
  | c :: s => if needle.isPrefixOf (c :: s) then some ((c :: s).drop needle.length)
      else afterFirst needle s

/-- Byte comparisons are comparisons of the byte values. -/
theorem byte_le_iff {a b : UInt8} : a ≤ b ↔ a.toNat ≤ b.toNat := Iff.rfl

theorem byte_lt_iff {a b : UInt8} : a < b ↔ a.toNat < b.toNat := Iff.rfl

theorem byte_eq_iff {a b : UInt8} : a = b ↔ a.toNat = b.toNat := ⟨congrArg _, UInt8.toNat.inj⟩

@[simp] theorem cur_nil : cur [] = 0 := rfl

@[simp] theorem cur_cons (c : UInt8) (s : List UInt8) : cur (c :: s) = c := rfl

@[simp] theorem cStr_nil : cStr [] = [] := rfl

theorem cStr_cons (c : UInt8) (s : List UInt8) :
    cStr (c :: s) = if c = 0 then [] else c :: cStr s := by
  by_cases h : c = 0 <;> simp [cStr, List.takeWhile_cons, h]

/-- A NUL-free head passes through `cStr` whole. -/
theorem cStr_append {u : List UInt8} (hu : 0 ∉ u) (r : List UInt8) : cStr (u ++ r) = u ++ cStr r := by
  induction u with
  | nil => rfl
  | cons c u ih =>
    simp only [List.mem_cons, not_or] at hu
    rw [List.cons_append, cStr_cons, if_neg (Ne.symm hu.1), ih hu.2, List.cons_append]

/-- A NUL-free string followed by its NUL reads back as itself. -/
theorem cStr_append_nul {u : List UInt8} (hu : 0 ∉ u) (r : List UInt8) : cStr (u ++ 0 :: r) = u := by
  rw [cStr_append hu, cStr_cons, if_pos rfl, List.append_nil]

/-- A NUL ends the C string, whatever stands before it. -/
theorem cStr_append_zero (u r : List UInt8) : cStr (u ++ 0 :: r) = cStr u := by
  induction u with
  | nil => rfl
  | cons c u ih => rw [List.cons_append, cStr_cons, cStr_cons, ih]

/-- A C string read from a `CString` is all of it. -/
@[simp] theorem cStr_bytes (s : CString) : cStr s.bytes = s.bytes := by
  simpa using cStr_append s.nul_free []

end Lush
