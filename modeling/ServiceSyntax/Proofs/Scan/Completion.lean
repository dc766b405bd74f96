import Mathlib.Data.Nat.Find
import ServiceSyntax.Proofs.Scan.Order
import ServiceSyntax.Proofs.Scan.Turns

/-!
# Reading a source to its end

A call that does not give the end of the file consumes a character or takes up a broken line
(`exists_consumed_next`), and dropping a line gives nothing back. So there are no more such calls
than characters and broken lines, whatever is done behind errors (`exists_call_endOfFile`), and each
of them is over after a number of turns that is known before it (`turns_eq`).
-/

namespace ServiceSyntax.Scanner

open Scan

variable {s t : Scanner} {r : Except ScanError Token}

/-! ## One call -/

theorem pending_eq (s : Scanner) :
    s.pending = s.left.length + s.unread.countP SourceLine.isBroken := by
  rw [pending, pendingIn_eq_add, left, List.length_append, Nat.add_assoc]

/-- Nothing that has been consumed comes back. Where a broken line is taken up the characters before
its first defect count as consumed. -/
theorem steady_left (s : Scanner) : Steady fun t => t.left <:+ s.left where
  markToken _ h := h
  note _ _ h := h
  advance t c rest hrest h := by
    refine List.IsSuffix.trans ⟨[c], ?_⟩ h
    rw [left, left, hrest]
    rfl
  load t line unread hrest hunread h := by
    obtain ⟨consumed, rest, hchars, -, hload⟩ := exists_load t line unread
    refine List.IsSuffix.trans ⟨consumed, ?_⟩ h
    rw [hload, left, left, hrest, hunread, List.nil_append, List.map_cons, List.flatten_cons,
      hchars, List.append_assoc]

/-- Whatever a call gives but the end of the file, it has consumed a character or taken up a broken
line. -/
theorem exists_consumed_next (hnext : s.next = (r, t)) (hr : r ≠ .ok ⟨.endOfFile, ""⟩) :
    ∃ consumed read, s.left = consumed ++ t.left ∧ s.unread = read ++ t.unread ∧
      (consumed ≠ [] ∨ ∃ line ∈ read, line.isBroken = true) := by
  obtain ⟨⟨consumed, hleft⟩, hgrown⟩ : t.left <:+ s.left ∧ Grown s t := by
    have hover := ((steady_left s).and (steady_grown s)).next ⟨List.suffix_refl _, .refl s⟩
    rw [hnext] at hover
    exact hover.keeps
  obtain ⟨read, hunread, -⟩ := hgrown.exists_read
  refine ⟨consumed, read, hleft.symm, hunread, ?_⟩
  have hlt := pending_next_lt hnext hr
  rw [pending_eq, pending_eq, ← hleft, hunread, List.length_append, List.countP_append] at hlt
  by_cases hnil : consumed = []
  · right
    rw [hnil, List.length_nil] at hlt
    exact List.countP_pos_iff.1 (by omega)
  · exact Or.inl hnil

/-! ## Call by call -/

/-- The scanner behind a call. Behind an error the rest of its line may be dropped. -/
def behindCall (s : Scanner) (drop : Bool) : Scanner :=
  match s.next with
  | (.ok _, t) => t
  | (.error _, t) => if drop then t.skipLine.2 else t

/-- The scanner behind that many calls; `drops` tells behind which errors the line is dropped. -/
def behindCalls (s : Scanner) (drops : Nat → Bool) : Nat → Scanner
  | 0 => s
  | n + 1 => (s.behindCalls drops n).behindCall (drops n)

theorem Steady.behindCall {inv : Scanner → Prop} (h : Steady inv) (hs : inv s) (drop : Bool) :
    inv (s.behindCall drop) := by
  have hover := h.next hs
  unfold Scanner.behindCall
  cases hnext : s.next with
  | mk result t =>
    rw [hnext] at hover
    cases result with
    | ok token => exact hover.keeps
    | error e =>
      cases drop with
      | true => exact (h.skipLine hover.keeps).1
      | false => exact hover.keeps

theorem Steady.behindCalls {inv : Scanner → Prop} (h : Steady inv) (hs : inv s)
    (drops : Nat → Bool) (n : Nat) : inv (s.behindCalls drops n) := by
  induction n with
  | zero => exact hs
  | succ n ih => exact h.behindCall ih (drops n)

theorem pending_behindCall_lt (h : s.next.1 ≠ .ok ⟨.endOfFile, ""⟩) (drop : Bool) :
    (s.behindCall drop).pending < s.pending := by
  unfold behindCall
  cases hnext : s.next with
  | mk result t =>
    rw [hnext] at h
    have hlt := pending_next_lt hnext h
    cases result with
    | ok token => exact hlt
    | error e =>
      cases drop with
      | true => exact Nat.lt_of_le_of_lt (pending_skipLine_le t) hlt
      | false => exact hlt

/-- Each call before the end of the file takes something from what is left to read. -/
theorem pending_behindCalls_add_le (s : Scanner) (drops : Nat → Bool) {n : Nat}
    (h : ∀ k < n, (s.behindCalls drops k).next.1 ≠ .ok ⟨.endOfFile, ""⟩) :
    (s.behindCalls drops n).pending + n ≤ s.pending := by
  induction n with
  | zero => exact Nat.le_refl _
  | succ n ih =>
    have hle := ih fun k hk => h k (Nat.lt_succ_of_lt hk)
    have hlt : (s.behindCalls drops (n + 1)).pending < (s.behindCalls drops n).pending :=
      pending_behindCall_lt (h n (Nat.lt_succ_self n)) (drops n)
    omega

/-- The end of the file is met, before more calls than there is something to read. -/
theorem exists_call_endOfFile (s : Scanner) (drops : Nat → Bool) :
    ∃ n ≤ s.pending, (s.behindCalls drops n).next.1 = .ok ⟨.endOfFile, ""⟩ ∧
      ∀ k < n, (s.behindCalls drops k).next.1 ≠ .ok ⟨.endOfFile, ""⟩ := by
  have hmet : ∃ n, (s.behindCalls drops n).next.1 = .ok ⟨.endOfFile, ""⟩ := by
    by_contra hno
    have hle := pending_behindCalls_add_le s drops (n := s.pending + 1)
      fun k _ hend => hno ⟨k, hend⟩
    omega
  have hbefore : ∀ k < Nat.find hmet, (s.behindCalls drops k).next.1 ≠ .ok ⟨.endOfFile, ""⟩ :=
    fun k hk => Nat.find_min hmet hk
  have hle := pending_behindCalls_add_le s drops hbefore
  exact ⟨Nat.find hmet, by omega, Nat.find_spec hmet, hbefore⟩

/-- Scanning makes progress and comes to its end, whatever is done behind errors. Every call is over
after two turns for each character that is left, one for each line, and one more. Whatever it gives
but the end of the file costs a character or a broken line, and behind an error the line can be
dropped. So there are no more calls before the end of the file than characters and broken lines. -/
theorem scanning_completes (input : Input) (name : String) (layout : Bool) (drops : Nat → Bool) :
    let before := (input.scanner name layout).behindCalls drops
    (∀ n, ({ before n with metNewline := false } : Scanner).turns .start ""
      (2 * (before n).left.length + (before n).unread.length + 1) = some (before n).next) ∧
    (∀ n r t, (before n).next = (r, t) → r ≠ .ok ⟨.endOfFile, ""⟩ →
      ∃ consumed read, (before n).left = consumed ++ t.left ∧ (before n).unread = read ++ t.unread ∧
        (consumed ≠ [] ∨ ∃ line ∈ read, line.isBroken = true)) ∧
    (∀ n e t, (before n).next = (.error e, t) → ∃ skipped u, t.skipLine = (.ok skipped, u)) ∧
    ∃ n ≤ (input.source.map SourceLine.chars).flatten.length
        + input.source.countP SourceLine.isBroken,
      (before n).next.1 = .ok ⟨.endOfFile, ""⟩ ∧
      ∀ k < n, (before k).next.1 ≠ .ok ⟨.endOfFile, ""⟩ := by
  intro before
  refine ⟨fun n => turns_eq (Nat.lt_succ_self _), fun n r t => exists_consumed_next,
    fun n e t hnext => ?_, ?_⟩
  · have hcounted : (before n).Counted :=
      steady_counted.behindCalls (input.counted name layout) drops n
    exact hcounted.exists_skipLine hnext
  · have hpending := pending_eq (input.scanner name layout)
    rw [left, input.scanner_eq] at hpending
    obtain ⟨n, hn, hend, hbefore⟩ := exists_call_endOfFile (input.scanner name layout) drops
    rw [input.scanner_eq, hpending] at hn
    exact ⟨n, hn, hend, hbefore⟩

/-- A string with a bad escape, whose line is dropped, and a line that is no UTF-8, which is not. -/
theorem scanning_completes_broken :
    let input : Input := .bytes [0x22, 0x5C, 0x71, 0x0A, 0xFF]
    let before := (input.scanner "text" true).behindCalls (· == 0)
    let e : ScanError := ⟨.invalidByte 0xFF 0, ⟨"text", 2, 2, 0, ["\uFFFD"]⟩⟩
    (before 1).next.1 = .error e ∧ (∃ skipped u, (before 1).next.2.skipLine = (.ok skipped, u)) ∧
      ∃ n ≤ 6, (before n).next.1 = .ok ⟨.endOfFile, ""⟩ ∧
        ∀ k < n, (before k).next.1 ≠ .ok ⟨.endOfFile, ""⟩ := by
  intro input before e
  have hnext : (before 1).next.1 = .error e := by decide +kernel
  obtain ⟨-, -, hskip, n, hn, hend, hbefore⟩ := scanning_completes input "text" true (· == 0)
  have hbound : (input.source.map SourceLine.chars).flatten.length
      + input.source.countP SourceLine.isBroken = 6 := by decide +kernel
  exact ⟨hnext, hskip 1 e _ (Prod.ext hnext rfl), n, hbound ▸ hn, hend, hbefore⟩

end ServiceSyntax.Scanner
