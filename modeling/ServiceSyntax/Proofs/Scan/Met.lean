import ServiceSyntax.Proofs.Scan.Consumed
import ServiceSyntax.Proofs.Scan.Span

/-!
# Line breaks in front of tokens

Behind a token the scanner tells whether it has met a line break on its way from where the call
began to the first character of the token (`metNewline_iff`). This is what stands in front of the
token, except that a call forgets what has been dropped before it behind an error, and that a comment
that is never closed counts the line breaks inside it.
-/

namespace ServiceSyntax.Scanner

open Scan Text Lexis

variable {text name : String} {place : Nat} {s t : Scanner} {token : Token}

/-! ## Places -/

/-- How many characters of the text the scanner has consumed. -/
def offset (text : String) (s : Scanner) : Nat := text.length - s.pending

theorem pendingIn_eq (unread : Source) (h : ∀ line ∈ unread, ∃ chars, line = .sound chars) :
    pendingIn unread = (unread.map SourceLine.chars).flatten.length := by
  have hsound : unread.countP SourceLine.isBroken = 0 := by
    rw [List.countP_eq_zero]
    intro line hline
    obtain ⟨chars, rfl⟩ := h line hline
    exact Bool.false_ne_true
  rw [pendingIn_eq_add, hsound, Nat.add_zero]

theorem Stands.pending_eq {before after : List Char} (h : Stands s before after) :
    s.pending = after.length := by
  rw [pending, pendingIn_eq _ h.sound, h.after_eq, List.length_append]

theorem Stands.offset_eq {before after : List Char} (h : Stands s before after)
    (htext : text.toList = before ++ after) : s.offset text = before.length := by
  rw [offset, h.pending_eq, ← String.length_toList, htext, List.length_append, Nat.add_sub_cancel]

/-- What is met between two places is what is met in the text between them. -/
private theorem mem_between {written before middle after : List Char}
    (h : written = before ++ middle ++ after) (c : Char) :
    c ∈ between written before.length (before ++ middle).length ↔ c ∈ middle := by
  rw [h, between_append]

/-! ## Runs -/

/-- What calls lead to that drop the rest of the line behind every error: the scanner, and the place
behind the last token that was given, or else the start of the text. -/
inductive Awaits (text name : String) : Nat → Scanner → Prop
  | start : Awaits text name 0 (.ofText text name)
  | token {place : Nat} {s t : Scanner} {token : Token} : Awaits text name place s →
      s.next = (.ok token, t) → Awaits text name (t.offset text) t
  | dropped {place : Nat} {s t : Scanner} {e : ScanError} : Awaits text name place s →
      s.next = (.error e, t) → Awaits text name place t.skipLine.2

theorem Awaits.reaches (h : Awaits text name place s) : (ofText text name).Reaches s := by
  induction h with
  | start => exact .refl
  | token _ hnext ih =>
    have ht := ih.next
    rwa [hnext] at ht
  | dropped _ hnext ih =>
    have ht := ih.next
    rw [hnext] at ht
    exact ht.skipLine

/-- The scanner stands in the text, and not in front of the last token. -/
theorem Awaits.exists_stands (h : Awaits text name place s) :
    s.layout = false ∧ place ≤ s.offset text ∧
      ∃ before after, text.toList = before ++ after ∧ Stands s before after := by
  refine ⟨((steady_mode name false).reaches ⟨rfl, rfl⟩ h.reaches).2, ?_,
    ((steady_within text).reaches (within_ofText text name false) h.reaches).exists_stands⟩
  induction h with
  | start => exact Nat.zero_le _
  | token => exact Nat.le_refl _
  | @dropped place s t e _ hnext ih =>
    -- neither the failed call nor dropping the line goes back
    have hlt := pending_next_lt hnext (by simp)
    have hle := pending_skipLine_le t
    unfold offset at ih ⊢
    omega

/-! ## What a call tells -/

/-- Behind a token the scanner tells whether a line feed stands between the place where the call
began and the first character of the token, or the end of the text for the end of the file. Only
behind a comment that is never closed it also tells of those inside the comment. The call begins
behind the token before, or further on where the rest of a line has been dropped since. -/
theorem metNewline_iff (h : Awaits text name place s) (hnext : s.next = (.ok token, t)) :
    ∃ start, place ≤ s.offset text ∧ s.offset text ≤ start ∧ start ≤ t.offset text ∧
      (token.kind = .endOfFile → start = text.length) ∧
      (token.kind ≠ .endOfFile → start < t.offset text ∧
        t.tokenLine = lineAfter (text.toList.take start) ∧
        t.tokenColumn = columnAfter (text.toList.take start)) ∧
      (t.metNewline = true ↔ '\n' ∈ between text.toList (s.offset text) start ∨
        token = ⟨.error, "/*"⟩ ∧ '\n' ∈ between text.toList start (t.offset text)) := by
  obtain ⟨hlayout, hplace, before, after, htext, hs⟩ := h.exists_stands
  obtain ⟨hon, hends⟩ := next_ends hs hlayout
  have hmet := hon.metNewline_eq
  rw [hnext] at hmet hends
  cases hread : Lexis.read after with
  | mk gap lex =>
    rw [hread] at hmet hends
    refine ⟨(before ++ gap).length, hplace, ?_, ?_⟩
    · rw [hs.offset_eq htext, List.length_append]
      omega
    cases lex with
    | token written token' rest =>
      obtain ⟨ht, hmark, hresult⟩ := hends
      obtain rfl := Except.ok.inj hresult
      obtain ⟨hafter, hlexeme⟩ := append_of_read hread
      have hgap : text.toList = before ++ gap ++ (written ++ rest) := by
        rw [htext, hafter, List.append_assoc]
      have hwritten : text.toList = before ++ gap ++ written ++ rest := by
        rw [hgap, ← List.append_assoc]
      have hpos := List.length_pos_iff.2 hlexeme.ne_nil
      -- the flag is told of the gap and of what is written, and both are parts of the text
      rw [hs.offset_eq htext, ht.offset_eq hwritten, hmet, mem_between hgap, mem_between hwritten]
      refine ⟨by simp only [List.length_append]; omega, fun hend => absurd hend hlexeme.kind_ne.1,
        fun _ => ⟨by simp only [List.length_append]; omega, ?_⟩, by simp [notedIn]⟩
      rw [hgap, List.take_left]
      exact hmark
    | endOfText =>
      obtain ⟨ht, -, -, hresult⟩ := hends
      obtain rfl := Except.ok.inj hresult
      obtain ⟨-, rfl⟩ := of_read_endOfText hread
      have hgap : text.toList = before ++ gap ++ [] := by rw [htext, List.append_nil]
      have hlength : text.length = (before ++ gap).length := by
        rw [← String.length_toList, htext]
      rw [hs.offset_eq htext, ht.offset_eq hgap, hlength, hmet, mem_between hgap]
      exact ⟨Nat.le_refl _, fun _ => rfl, absurd rfl, by simp [notedIn]⟩
    | malformed written rest =>
      -- behind an error no token has been given
      obtain ⟨-, -, -, hresult⟩ := hends
      cases hresult

/-- The second of two words, in a line of its own. -/
theorem metNewline_iff_second :
    ∃ (s t : Scanner) (start : Nat), Awaits "a\nb" "text" 1 s ∧
      s.next = (.ok ⟨.identifier, "b"⟩, t) ∧ t.metNewline = true ∧ s.offset "a\nb" = 1 ∧
      start < t.offset "a\nb" ∧ '\n' ∈ between "a\nb".toList 1 start := by
  let first : Scanner := (ofText "a\nb" "text").next.2
  have hfirst : (ofText "a\nb" "text").next = (.ok ⟨.identifier, "a"⟩, first) := Prod.ext rfl rfl
  have hsecond : first.next = (.ok ⟨.identifier, "b"⟩, first.next.2) := Prod.ext rfl rfl
  have hawaits : Awaits "a\nb" "text" 1 first := .token .start hfirst
  have hmet : first.next.2.metNewline = true := rfl
  obtain ⟨start, -, -, -, -, hplace, hiff⟩ := metNewline_iff hawaits hsecond
  exact ⟨first, first.next.2, start, hawaits, hsecond, hmet, rfl, (hplace (by decide)).1,
    (hiff.1 hmet).resolve_right (by simp)⟩

/-- Behind a malformed literal the line feed that is dropped with the rest of its line is not told
of, although it stands in front of the next word and behind nothing that was given. And behind a
comment that is never closed a line feed is told of that stands inside the comment and not in front
of it. -/
theorem metNewline_dropped :
    ∃ (e : ScanError) (t u v w : Scanner),
      (ofText "\"\\q\"\na /*\n" "text").next = (.error e, t) ∧ t.skipLine = (.ok 3, u) ∧
      (Awaits "\"\\q\"\na /*\n" "text" 0 u ∧ u.next = (.ok ⟨.identifier, "a"⟩, v) ∧
        v.tokenLine = lineAfter ("\"\\q\"\na /*\n".toList.take 5) ∧
        v.tokenColumn = columnAfter ("\"\\q\"\na /*\n".toList.take 5) ∧
        '\n' ∈ between "\"\\q\"\na /*\n".toList 0 5 ∧ v.metNewline = false) ∧
      (Awaits "\"\\q\"\na /*\n" "text" 6 v ∧ v.next = (.ok ⟨.error, "/*"⟩, w) ∧
        w.tokenLine = lineAfter ("\"\\q\"\na /*\n".toList.take 7) ∧
        w.tokenColumn = columnAfter ("\"\\q\"\na /*\n".toList.take 7) ∧
        '\n' ∉ between "\"\\q\"\na /*\n".toList 6 7 ∧ w.metNewline = true) := by
  let s : Scanner := .ofText "\"\\q\"\na /*\n" "text"
  let u : Scanner := s.next.2.skipLine.2
  obtain ⟨e, herror⟩ : ∃ e, s.next = (.error e, s.next.2) := ⟨_, Prod.ext rfl rfl⟩
  have hskip : s.next.2.skipLine = (.ok 3, u) := Prod.ext rfl rfl
  have hword : u.next = (.ok ⟨.identifier, "a"⟩, u.next.2) := Prod.ext rfl rfl
  have hopen : u.next.2.next = (.ok ⟨.error, "/*"⟩, u.next.2.next.2) :=
    Prod.ext (by decide +kernel) rfl
  have hawaits : Awaits "\"\\q\"\na /*\n" "text" 0 u := .dropped .start herror
  exact ⟨e, s.next.2, u, u.next.2, u.next.2.next.2, herror, hskip,
    ⟨hawaits, hword, by decide +kernel, by decide +kernel, by decide, by decide +kernel⟩,
    ⟨hawaits.token hword, hopen, by decide +kernel, by decide +kernel, by decide,
      by decide +kernel⟩⟩

end ServiceSyntax.Scanner
