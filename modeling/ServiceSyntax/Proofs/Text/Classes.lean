import ServiceSyntax.Text.Digit
import ServiceSyntax.Text.Letter

/-!
# Letters and digits

The tables of letters and of digits have no code point in common (`isLetter_of_isDigit`). The tables
ascend, so one pass over both is enough to see it: `apart` drops the ranges that end before the
range it is at.
-/

namespace ServiceSyntax.Text

/-- No range of the first table, which ascends, meets one of the second. -/
def apart : List (Nat × Nat) → List (Nat × Nat) → Bool
  | [], _ => true
  | (low, high) :: ranges, others =>
    let others := others.dropWhile fun range => decide (range.2 < low)
    others.head?.all (fun range => decide (high < range.1) && decide (range.1 ≤ range.2))
      && ranges.all (fun range => decide (low ≤ range.1)) && apart ranges others

theorem exists_range_of_inRanges {n : Nat} {ranges : List (Nat × Nat)}
    (h : inRanges n ranges = true) : ∃ range ∈ ranges, range.1 ≤ n ∧ n ≤ range.2 := by
  induction ranges with
  | nil => cases h
  | cons range ranges ih =>
    obtain ⟨low, high⟩ := range
    rw [inRanges] at h
    split at h
    · rename_i hhigh
      exact ⟨(low, high), List.mem_cons_self, by simpa using h, hhigh⟩
    · obtain ⟨range, hmem, hn⟩ := ih h
      exact ⟨range, List.mem_cons_of_mem _ hmem, hn⟩

/-- Ranges that end before `low` do not matter from `low` on. -/
theorem inRanges_dropWhile {low n : Nat} (h : low ≤ n) (ranges : List (Nat × Nat)) :
    inRanges n (ranges.dropWhile fun range => decide (range.2 < low)) = inRanges n ranges := by
  induction ranges with
  | nil => rfl
  | cons range ranges ih =>
    obtain ⟨low', high⟩ := range
    by_cases hhigh : high < low
    · rw [List.dropWhile_cons_of_pos (by simpa using hhigh), ih, inRanges, if_neg (by omega)]
    · rw [List.dropWhile_cons_of_neg (by simpa using hhigh)]

theorem inRanges_of_apart {ranges others : List (Nat × Nat)} (h : apart ranges others = true)
    {n : Nat} {range : Nat × Nat} (hmem : range ∈ ranges) (hn : range.1 ≤ n ∧ n ≤ range.2) :
    inRanges n others = false := by
  induction ranges generalizing others with
  | nil => cases hmem
  | cons first ranges ih =>
    obtain ⟨low, high⟩ := first
    simp only [apart, Bool.and_eq_true, List.all_eq_true, decide_eq_true_iff] at h
    obtain ⟨⟨hhead, hlow⟩, hapart⟩ := h
    rcases List.mem_cons.1 hmem with rfl | hmem
    · rw [← inRanges_dropWhile hn.1]
      cases hothers : others.dropWhile fun range => decide (range.2 < low) with
      | nil => rfl
      | cons other others =>
        obtain ⟨low', high'⟩ := other
        rw [hothers] at hhead
        obtain ⟨hlow', hhigh'⟩ : high < low' ∧ low' ≤ high' := by simpa using hhead
        have hn' := hn.2
        simp only at hn'
        rw [inRanges, if_pos (by omega), decide_eq_false_iff_not]
        omega
    · have := hlow range hmem
      rw [← inRanges_dropWhile (Nat.le_trans this hn.1)]
      exact ih hapart hmem

theorem apart_digits_letters : apart digitRanges letterRanges = true := by decide +kernel

/-- No digit is a letter. -/
theorem isLetter_of_isDigit {c : Char} (h : isDigit c = true) : isLetter c = false := by
  obtain ⟨range, hmem, hn⟩ := exists_range_of_inRanges h
  exact inRanges_of_apart apart_digits_letters hmem hn

end ServiceSyntax.Text
