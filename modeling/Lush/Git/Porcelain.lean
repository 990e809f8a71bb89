import Lush.Git.Status

/-!
# The porcelain counts against the status lines

`git status --porcelain` (format v1) prints one line per changed path: the
index status `X`, the work-tree status `Y`, a space and the path.  The provider
captures the output in `char porcelain[8192]`, trims its trailing newlines and
walks it line by line (`porcelainWalk`).  This module states what the walk
should count, line by line, and proves that it counts exactly that when the
output fits in the buffer, and never more when `read_all_available` cuts it.

Main results:

* **`porcelainWalk_porcelainText`**: over a whole trimmed output the walk adds
  the count of every line.
* **`porcelainWalk_take_le`**: over a prefix of the output, cut anywhere, the
  walk counts no more than the whole output has.
* **`porcelainWalk_capture`**: the counts over what `run_git_in_dir` leaves in
  the buffer, for a child that writes the text of a list of status lines.
-/

namespace Lush

/-! ## Status lines -/

/-- Modelled from the spec: the status codes of porcelain v1. -/
def porcelainCodes : List UInt8 := lit " MTADRCU?!"

/-- No status code is NUL, `\n` or `\r`. -/
theorem porcelainCodes_ne {b : UInt8} (h : b ∈ porcelainCodes) : b ≠ 0 ∧ b ≠ 0x0A ∧ b ≠ 0x0D := by
  revert b
  decide

/-- Modelled from the spec: one line of `git status --porcelain` v1 without its
`\n`: `X`, `Y`, a space and the path.  A path holds no NUL, and the format
writes no raw newline in it. -/
structure PorcelainLine where
  x : UInt8
  y : UInt8
  path : List UInt8
  x_code : x ∈ porcelainCodes
  y_code : y ∈ porcelainCodes
  path_nul : 0 ∉ path
  path_nl : 0x0A ∉ path

namespace PorcelainLine

/-- The bytes of the line. -/
def bytes (l : PorcelainLine) : List UInt8 := l.x :: l.y :: 0x20 :: l.path

/-- Modelled from the spec: what one line adds to the counts: `X = '?'` an
untracked entry; else `X` other than space a staged one, and `Y` other than
space and `?` an unstaged one. -/
def count (l : PorcelainLine) (c : PorcelainCounts) : PorcelainCounts where
  untracked := if l.x = 0x3F then c.untracked + 1 else c.untracked
  staged := if l.x ≠ 0x20 ∧ l.x ≠ 0x3F then c.staged + 1 else c.staged
  unstaged := if l.x ≠ 0x3F ∧ l.y ≠ 0x20 ∧ l.y ≠ 0x3F then c.unstaged + 1 else c.unstaged

theorem nul_not_mem_bytes (l : PorcelainLine) : 0 ∉ l.bytes := by
  simp only [bytes, List.mem_cons, not_or]
  exact ⟨(porcelainCodes_ne l.x_code).1.symm, (porcelainCodes_ne l.y_code).1.symm, by decide, l.path_nul⟩

theorem nl_not_mem_bytes (l : PorcelainLine) : 0x0A ∉ l.bytes := by
  simp only [bytes, List.mem_cons, not_or]
  exact ⟨(porcelainCodes_ne l.x_code).2.1.symm, (porcelainCodes_ne l.y_code).2.1.symm, by decide, l.path_nl⟩

/-- The trim stops at the space after `Y` at the latest. -/
theorem two_le_length_trim (l : PorcelainLine) : 2 ≤ (trimTrailingNewlines l.bytes).length := by
  have hxy : trimTrailingNewlines [l.x, l.y, 0x20] = [l.x, l.y, 0x20] := rfl
  by_cases hp : trimTrailingNewlines l.path = []
  · rw [bytes, show l.x :: l.y :: 0x20 :: l.path = [l.x, l.y, 0x20] ++ l.path from rfl,
      trimTrailingNewlines_append_of_eq hp, hxy]
    simp
  · rw [bytes, show l.x :: l.y :: 0x20 :: l.path = [l.x, l.y, 0x20] ++ l.path from rfl,
      trimTrailingNewlines_append_of_ne hp]
    simp

end PorcelainLine

/-- Modelled from the spec: the output of a list of status lines, each ended by
`\n`. -/
def porcelainText (ls : List PorcelainLine) : List UInt8 := ls.flatMap fun l => l.bytes ++ [0x0A]

@[simp] theorem porcelainText_nil : porcelainText [] = [] := rfl

theorem porcelainText_cons (l : PorcelainLine) (ls : List PorcelainLine) :
    porcelainText (l :: ls) = l.bytes ++ 0x0A :: porcelainText ls := by
  simp [porcelainText]

theorem nul_not_mem_porcelainText (ls : List PorcelainLine) : 0 ∉ porcelainText ls := by
  simp only [porcelainText, List.mem_flatMap, List.mem_append, List.mem_singleton, not_exists, not_and]
  exact fun l _ h => h.elim l.nul_not_mem_bytes (by decide)

/-- Modelled from the spec: the counts of a list of status lines, added to `c`. -/
def porcelainTally (ls : List PorcelainLine) (c : PorcelainCounts) : PorcelainCounts :=
  ls.foldl (fun c l => l.count c) c

/-- Modelled from the spec: how many lines are untracked, staged and unstaged. -/
def porcelainSpecCounts (ls : List PorcelainLine) : PorcelainCounts :=
  ⟨ls.countP (·.x = 0x3F), ls.countP (fun l => l.x ≠ 0x20 ∧ l.x ≠ 0x3F),
    ls.countP (fun l => l.x ≠ 0x3F ∧ l.y ≠ 0x20 ∧ l.y ≠ 0x3F)⟩

theorem porcelainTally_eq (ls : List PorcelainLine) (c : PorcelainCounts) :
    porcelainTally ls c = ⟨c.untracked + (porcelainSpecCounts ls).untracked,
      c.staged + (porcelainSpecCounts ls).staged, c.unstaged + (porcelainSpecCounts ls).unstaged⟩ := by
  induction ls generalizing c with
  | nil => rfl
  | cons l ls ih =>
    rw [porcelainTally, List.foldl_cons, ← porcelainTally, ih]
    simp only [porcelainSpecCounts, List.countP_cons, PorcelainLine.count, PorcelainCounts.mk.injEq,
      decide_eq_true_eq]
    refine ⟨?_, ?_, ?_⟩ <;> split_ifs <;> omega

/-! ## Counts, compared component by component -/

instance : Preorder PorcelainCounts where
  le a b := a.untracked ≤ b.untracked ∧ a.staged ≤ b.staged ∧ a.unstaged ≤ b.unstaged
  le_refl _ := ⟨le_rfl, le_rfl, le_rfl⟩
  le_trans _ _ _ h h' := ⟨h.1.trans h'.1, h.2.1.trans h'.2.1, h.2.2.trans h'.2.2⟩

theorem le_count (l : PorcelainLine) (c : PorcelainCounts) : c ≤ l.count c := by
  refine ⟨?_, ?_, ?_⟩ <;> simp only [PorcelainLine.count] <;> split_ifs <;> omega

theorem le_porcelainTally (ls : List PorcelainLine) (c : PorcelainCounts) : c ≤ porcelainTally ls c := by
  rw [porcelainTally_eq]
  exact ⟨Nat.le_add_right _ _, Nat.le_add_right _ _, Nat.le_add_right _ _⟩

/-! ## The walk over status lines -/

/-- Inside a line the walk passes every byte that is neither NUL nor `\n`. -/
theorem porcelainScan_skip {s : List UInt8} (h0 : 0 ∉ s) (hn : 0x0A ∉ s) (r : List UInt8) (c : PorcelainCounts) :
    porcelainScan false (s ++ r) c = porcelainScan false r c := by
  induction s with
  | nil => rfl
  | cons b s ih =>
    simp only [List.mem_cons, not_or] at h0 hn
    rw [List.cons_append, porcelainScan, if_neg (Ne.symm h0.1), if_neg (Ne.symm hn.1), ih h0.2 hn.2]

/-- A last line, with no `\n`, is counted once, by the loop body alone. -/
theorem porcelainScan_last {s : List UInt8} (h0 : 0 ∉ s) (hn : 0x0A ∉ s) (c : PorcelainCounts) :
    porcelainScan true s c = if s = [] then c else porcelainLine s c := by
  cases s with
  | nil => rfl
  | cons b s =>
    have hskip := porcelainScan_skip (List.not_mem_of_not_mem_cons h0) (List.not_mem_of_not_mem_cons hn) []
      (porcelainLine (b :: s) c)
    simp only [List.mem_cons, not_or] at h0 hn
    rw [porcelainScan, if_neg (Ne.symm h0.1), if_neg (Ne.symm hn.1), if_neg (List.cons_ne_nil b s)]
    simpa using hskip

/-- The loop body reads `X` and `Y` only, and adds the line's count. -/
theorem porcelainLine_cons_cons (l : PorcelainLine) (r : List UInt8) (c : PorcelainCounts) :
    porcelainLine (l.x :: l.y :: r) c = l.count c := by
  have hx := (porcelainCodes_ne l.x_code).1
  have hy := (porcelainCodes_ne l.y_code).1
  unfold porcelainLine PorcelainLine.count
  by_cases hq : l.x = 0x3F
  · simp [hq]
  · simp [hq, hx, hy]

/-- A complete line: the walk counts it and goes on after its `\n`. -/
theorem porcelainScan_line (l : PorcelainLine) (r : List UInt8) (c : PorcelainCounts) :
    porcelainScan true (l.bytes ++ 0x0A :: r) c = porcelainScan true r (l.count c) := by
  have hx := porcelainCodes_ne l.x_code
  have hrest : 0 ∉ l.y :: 0x20 :: l.path ∧ 0x0A ∉ l.y :: 0x20 :: l.path :=
    ⟨List.not_mem_of_not_mem_cons l.nul_not_mem_bytes, List.not_mem_of_not_mem_cons l.nl_not_mem_bytes⟩
  rw [PorcelainLine.bytes, List.cons_append, porcelainScan, if_neg hx.1, if_neg hx.2.1,
    porcelainScan_skip hrest.1 hrest.2, porcelainScan, if_neg (by decide), if_pos rfl, List.cons_append,
    porcelainLine_cons_cons]

/-- Over a prefix of a line, cut anywhere, the walk counts at most the line,
and exactly the line once the prefix holds `X` and `Y`. -/
theorem porcelainScan_prefix_le {l : PorcelainLine} {p : List UInt8} (hp : p <+: l.bytes) (c : PorcelainCounts) :
    porcelainScan true p c ≤ l.count c ∧ (2 ≤ p.length → porcelainScan true p c = l.count c) := by
  rw [porcelainScan_last (fun h => l.nul_not_mem_bytes (hp.subset h))
    (fun h => l.nl_not_mem_bytes (hp.subset h))]
  obtain ⟨t, ht⟩ := hp
  match p, ht with
  | [], _ => exact ⟨le_count l c, fun h => absurd h (by simp)⟩
  | [b], ht =>
    -- only `X` was read: an untracked entry, or nothing
    obtain rfl : b = l.x := (List.cons.inj ht).1
    refine ⟨?_, fun h => absurd h (by simp)⟩
    rw [if_neg (List.cons_ne_nil _ _)]
    by_cases hq : l.x = 0x3F
    · simp [porcelainLine, PorcelainLine.count, hq, le_rfl]
    · simpa [porcelainLine, hq] using le_count l c
  | b :: b' :: q, ht =>
    obtain ⟨rfl, ht'⟩ := List.cons.inj ht
    obtain rfl : b' = l.y := (List.cons.inj ht').1
    rw [if_neg (List.cons_ne_nil _ _), porcelainLine_cons_cons]
    exact ⟨le_rfl, fun _ => rfl⟩

/-- The trimmed output after a complete line: the walk counts the line, then
walks the trimmed rest. -/
theorem porcelainScan_trim_line (l : PorcelainLine) (r : List UInt8) (c : PorcelainCounts) :
    porcelainScan true (trimTrailingNewlines (l.bytes ++ 0x0A :: r)) c =
      porcelainScan true (trimTrailingNewlines r) (l.count c) := by
  rw [← List.singleton_append, ← List.append_assoc]
  by_cases hr : trimTrailingNewlines r = []
  · -- only newlines follow: the trim cuts into the line, after its `X` and `Y`
    rw [trimTrailingNewlines_append_of_eq hr, trimTrailingNewlines_append_of_eq (show trimTrailingNewlines [0x0A] = [] from rfl), hr]
    exact (porcelainScan_prefix_le (trimTrailingNewlines_prefix_self _) c).2 l.two_le_length_trim
  · rw [trimTrailingNewlines_append_of_ne hr, List.append_assoc, List.singleton_append, porcelainScan_line]

/-- **The walk counts every line of a whole output.** -/
theorem porcelainWalk_porcelainText (ls : List PorcelainLine) (c : PorcelainCounts) :
    porcelainWalk (trimTrailingNewlines (porcelainText ls)) c = porcelainTally ls c := by
  induction ls generalizing c with
  | nil => rfl
  | cons l ls ih => rw [porcelainText_cons, porcelainWalk, porcelainScan_trim_line]; exact ih _

/-- **A cut output counts no more.**  Over the trim of every prefix of the
output the walk counts at most what the lines count. -/
theorem porcelainWalk_take_le (ls : List PorcelainLine) (n : Nat) (c : PorcelainCounts) :
    porcelainWalk (trimTrailingNewlines ((porcelainText ls).take n)) c ≤ porcelainTally ls c := by
  induction ls generalizing n c with
  | nil => simp only [porcelainText_nil, List.take_nil]; exact le_rfl
  | cons l ls ih =>
    rw [porcelainText_cons]
    by_cases hn : n ≤ l.bytes.length
    · -- the cut falls inside the line
      rw [List.take_append_of_le_length hn]
      calc porcelainWalk (trimTrailingNewlines (l.bytes.take n)) c
          ≤ l.count c := (porcelainScan_prefix_le ((trimTrailingNewlines_prefix_self _).trans (List.take_prefix n _)) c).1
        _ ≤ porcelainTally ls (l.count c) := le_porcelainTally ls _
    · -- the line is whole, with its `\n`
      rw [List.take_append_eq_append_take, List.take_of_length_le (by omega),
        show n - l.bytes.length = n - l.bytes.length - 1 + 1 by omega, List.take_succ_cons, porcelainWalk,
        porcelainScan_trim_line]
      exact ih _ _

/-- **The counts of the provider.**  For every list of status lines, every
child whose output is their text, every directory, timeout and fuel: when
`run_git_in_dir(cwd, "status --porcelain", porcelain, 8192, …)` succeeds, the
walk over the buffer counts at most as many untracked, staged and unstaged
entries as the lines have, and exactly as many when the text fits in 8191
bytes. -/
theorem porcelainWalk_capture (lines : List PorcelainLine) {fuel : Nat} {dir : List UInt8} {t : UInt32}
    {w : SysWorld} {s : List UInt8} (hT : w.pending = porcelainText lines)
    (h : runGitInDir fuel dir (lit "status --porcelain") (some 8192) t w = .ok (true, s)) :
    (porcelainWalk s ⟨0, 0, 0⟩).untracked ≤ (porcelainSpecCounts lines).untracked ∧
      (porcelainWalk s ⟨0, 0, 0⟩).staged ≤ (porcelainSpecCounts lines).staged ∧
      (porcelainWalk s ⟨0, 0, 0⟩).unstaged ≤ (porcelainSpecCounts lines).unstaged ∧
      ((porcelainText lines).length ≤ 8191 → porcelainWalk s ⟨0, 0, 0⟩ = porcelainSpecCounts lines) := by
  have hzero : porcelainTally lines ⟨0, 0, 0⟩ = porcelainSpecCounts lines := by
    rw [porcelainTally_eq]
    simp
  have hs := runGitInDir_output (by decide) (by decide) h
  have hnul : cStr ((porcelainText lines).take 8191) = (porcelainText lines).take 8191 := by
    simpa using cStr_append (fun hm => nul_not_mem_porcelainText lines (List.mem_of_mem_take hm)) []
  rw [hT, show 8192 - 1 = 8191 from rfl, hnul] at hs
  subst hs
  have hle := porcelainWalk_take_le lines 8191 ⟨0, 0, 0⟩
  rw [hzero] at hle
  refine ⟨hle.1, hle.2.1, hle.2.2, fun hfit => ?_⟩
  rw [List.take_of_length_le hfit, porcelainWalk_porcelainText, hzero]

/-- A file `a` staged, `b` changed in the tree, `c` both, and an untracked `d`. -/
def mixedLines : List PorcelainLine :=
  [⟨0x4D, 0x20, [0x61], by decide, by decide, by decide, by decide⟩,
   ⟨0x20, 0x4D, [0x62], by decide, by decide, by decide, by decide⟩,
   ⟨0x4D, 0x4D, [0x63], by decide, by decide, by decide, by decide⟩,
   ⟨0x3F, 0x3F, [0x64], by decide, by decide, by decide, by decide⟩]

/-- A child that writes `M  a\n M b\nMM c\n?? d\n` and exits `0`. -/
def mixedChild : SysWorld :=
  ⟨true, true, porcelainText mixedLines, false, [], [], none, .running, some 0, true, [], 0, []⟩

theorem porcelainWalk_capture_mixed :
    mixedChild.pending = porcelainText mixedLines ∧
      runGitInDir 4 (lit "/repo") (lit "status --porcelain") (some 8192) 0 mixedChild =
        .ok (true, lit "M  a\n M b\nMM c\n?? d") ∧
      ((porcelainWalk (lit "M  a\n M b\nMM c\n?? d") ⟨0, 0, 0⟩).untracked ≤
          (porcelainSpecCounts mixedLines).untracked ∧
        (porcelainWalk (lit "M  a\n M b\nMM c\n?? d") ⟨0, 0, 0⟩).staged ≤ (porcelainSpecCounts mixedLines).staged ∧
        (porcelainWalk (lit "M  a\n M b\nMM c\n?? d") ⟨0, 0, 0⟩).unstaged ≤
          (porcelainSpecCounts mixedLines).unstaged ∧
        ((porcelainText mixedLines).length ≤ 8191 →
          porcelainWalk (lit "M  a\n M b\nMM c\n?? d") ⟨0, 0, 0⟩ = porcelainSpecCounts mixedLines)) :=
  have hrun : runGitInDir 4 (lit "/repo") (lit "status --porcelain") (some 8192) 0 mixedChild =
      .ok (true, lit "M  a\n M b\nMM c\n?? d") := rfl
  ⟨rfl, hrun, porcelainWalk_capture mixedLines (by rfl) hrun⟩

end Lush
