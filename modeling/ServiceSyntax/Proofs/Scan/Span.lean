import ServiceSyntax.Proofs.Scan.Next
import ServiceSyntax.Scan.Tokens

/-!
# Spans of tokens

The scanner never stores an offset, but each token that it gives stands at a span of the text: the
line and the column of the token are those of the first character of the span, the span spells the
token, and between two spans stands a gap (`exists_placed_of_gives`).
-/

namespace ServiceSyntax

open Scan Text Lexis

/-! ## Spelling of tokens -/

/-- A piece of text spells a token: a literal is quoted, and all else is written as the text of the
token. Of errors this is asked of a single character only. -/
def Token.SpeltBy (t : Token) (written : List Char) : Prop :=
  match t.kind with
  | .string => ∃ body, written = '"' :: body ++ ['"'] ∧ Spells body t.content.toList
  | .error => t.content.toList.length = 1 → written = t.text.toList
  | _ => written = t.text.toList

theorem Token.speltBy_ofWord (word : String) : (ofWord word).SpeltBy word.toList := by
  unfold ofWord
  split
  · rename_i k hk
    have hlexeme : k.lexeme = word := by simpa using List.find?_some hk
    show word.toList = k.lexeme.toList
    rw [hlexeme]
  · rfl

/-- A lexeme begins with a piece that spells its token. It is the whole lexeme, unless the lexeme is
the last one: a quote and a backslash at the end of a text are an error that shows the quote
only. -/
theorem Lexis.IsLexeme.exists_speltBy {written rest : List Char} {t : Token}
    (h : IsLexeme written t rest) :
    ∃ spelt tail, written = spelt ++ tail ∧ spelt ≠ [] ∧ t.SpeltBy spelt ∧
      (tail = [] ∨ rest = []) := by
  have hne := h.ne_nil
  cases h with
  | @word c word =>
    refine ⟨c :: word, [], by simp, hne, ?_, Or.inl rfl⟩
    have hspelt := Token.speltBy_ofWord (String.ofList (c :: word))
    rwa [String.toList_ofList, ← wordToken_eq_ofWord] at hspelt
  | number => exact ⟨_, [], by simp, hne, String.toList_ofList.symm, Or.inl rfl⟩
  | negative => exact ⟨_, [], by simp, hne, String.toList_ofList.symm, Or.inl rfl⟩
  | @literal body content _ hspells =>
    refine ⟨_, [], by simp, hne, ⟨body, rfl, ?_⟩, Or.inl rfl⟩
    rwa [String.toList_ofList]
  | @unclosedLiteral cs content =>
    by_cases hcontent : content = []
    · subst hcontent
      exact ⟨['"'], cs, rfl, by simp, fun _ => rfl, Or.inr rfl⟩
    · refine ⟨_, [], by simp, hne, fun hlen => absurd hlen ?_, Or.inl rfl⟩
      simpa using hcontent
  | unclosedComment => exact ⟨_, [], by simp, hne, fun hlen => absurd hlen (by decide), Or.inl rfl⟩
  | symbol => exact ⟨_, [], by simp, hne, rfl, Or.inl rfl⟩
  | @error c => exact ⟨[c], [], by simp, hne, fun _ => by simp [Token.text], Or.inl rfl⟩

/-! ## Spans -/

/-- The characters of a text from one place up to another. -/
def between (text : List Char) (start stop : Nat) : List Char := (text.take stop).drop start

theorem between_append_drop {text : List Char} {start stop : Nat} (h : start ≤ stop) :
    between text start stop ++ text.drop stop = text.drop start := by
  have htext := List.take_append_drop stop text
  by_cases hlen : stop ≤ text.length
  · have hstart : start ≤ (text.take stop).length := by
      rw [List.length_take]
      omega
    rw [between, ← List.drop_append_of_le_length hstart, htext]
  · have hstop : text.length ≤ stop := by omega
    rw [between, List.take_of_length_le hstop, List.drop_eq_nil_of_le hstop, List.append_nil]

theorem between_append (before middle after : List Char) :
    between (before ++ middle ++ after) before.length (before ++ middle).length = middle := by
  rw [between, List.take_left, List.drop_left]

/-- A token that has been read, and where it begins and ends in the text. -/
structure Placed where
  located : Located
  start : Nat
  stop : Nat

namespace Placed

/-- The span is a part of the text that spells the token, and the position of the token is that of
the first character. -/
structure LiesIn (p : Placed) (text : List Char) : Prop where
  lt : p.start < p.stop
  le : p.stop ≤ text.length
  speltBy : p.located.token.SpeltBy (between text p.start p.stop)
  line_eq : p.located.line = lineAfter (text.take p.start)
  column_eq : p.located.column = columnAfter (text.take p.start)

/-- The scanner shows the first character of the span at the position of the token. -/
def ShownBy (p : Placed) (text : List Char) (s : Scanner) : Prop :=
  ∃ line, s.codeLine p.located.line = .ok line ∧
    line.toList[p.located.column]? = text[p.start]?

/-- From a place on the spans follow each other, with nothing but a gap before each of them. -/
def Follow (text : List Char) : Nat → List Placed → Prop
  | _, [] => True
  | place, p :: placed =>
    place ≤ p.start ∧ IsGap (between text place p.start) ∧ Follow text p.stop placed

/-- The gaps and the spans from a place on, and what is left of the text behind the last span. -/
def rebuilt (text : List Char) : Nat → List Placed → List Char
  | place, [] => text.drop place
  | place, p :: placed =>
    between text place p.start ++ between text p.start p.stop ++ rebuilt text p.stop placed

theorem rebuilt_eq {text : List Char} {place : Nat} {placed : List Placed}
    (h : Follow text place placed) (hlies : ∀ p ∈ placed, p.LiesIn text) :
    rebuilt text place placed = text.drop place := by
  induction placed generalizing place with
  | nil => rfl
  | cons p placed ih =>
    obtain ⟨hle, -, hfollow⟩ := h
    rw [List.forall_mem_cons] at hlies
    have hlt := hlies.1.lt
    rw [rebuilt, ih hfollow hlies.2, List.append_assoc, between_append_drop (by omega),
      between_append_drop hle]

end Placed

/-! ## Runs of the scanner -/

namespace Scanner

variable {s s' : Scanner} {before cs : List Char}

/-- Successive calls give tokens with their positions, none of them the end of the file. -/
inductive Gives : Scanner → List Located → Scanner → Prop
  | refl (s : Scanner) : Gives s [] s
  | step {s s' last : Scanner} {t : Token} {others : List Located} : s.next = (.ok t, s') →
      t.kind ≠ .endOfFile → Gives s' others last → Gives s (s'.locate t :: others) last

/-- A token that the scanner gives is read at its place. -/
theorem exists_read_of_next (hs : Stands s before cs) (hlayout : s.layout = false) {t : Token}
    (h : s.next = (.ok t, s')) (ht : t.kind ≠ .endOfFile) :
    ∃ gap written rest, Lexis.read cs = ⟨gap, .token written t rest⟩ ∧ s'.layout = false ∧
      Stands s' (before ++ gap ++ written) rest ∧ Marked s' (before ++ gap) := by
  obtain ⟨hon, hends⟩ := next_ends hs hlayout
  cases hread : Lexis.read cs with
  | mk gap lex =>
    rw [hread, h] at hends
    have hlayout' : s'.layout = false := by
      have heq := hon.layout_eq
      rw [h] at heq
      exact heq.trans hlayout
    cases lex with
    | token written t' rest =>
      obtain ⟨hs', hmark, hresult⟩ := hends
      obtain rfl := Except.ok.inj hresult
      exact ⟨gap, written, rest, rfl, hlayout', hs', hmark⟩
    | endOfText =>
      obtain ⟨-, -, -, hresult⟩ := hends
      obtain rfl := Except.ok.inj hresult
      exact absurd rfl ht
    | malformed written rest =>
      obtain ⟨-, -, -, hresult⟩ := hends
      cases hresult

/-- At the end of the text the scanner gives nothing any more. -/
theorem Gives.eq_nil {located : List Located} (h : Gives s located s') (hs : Stands s before [])
    (hlayout : s.layout = false) : located = [] := by
  cases h with
  | refl => rfl
  | step hnext ht =>
    obtain ⟨gap, written, rest, hread, -⟩ := exists_read_of_next hs hlayout hnext ht
    obtain ⟨hcs, hlexeme⟩ := append_of_read hread
    rw [eq_comm, List.append_eq_nil_iff, List.append_eq_nil_iff] at hcs
    exact absurd hcs.2.1 hlexeme.ne_nil

/-- What is spelt behind the marked place is the span of the token. -/
theorem liesIn_locate {spelt : List Char} {t : Token} (hmark : Marked s before)
    (hne : spelt ≠ []) (hspelt : t.SpeltBy spelt) (after : List Char) :
    Placed.LiesIn ⟨s.locate t, before.length, (before ++ spelt).length⟩
      (before ++ spelt ++ after) where
  lt := by
    have hpos := List.length_pos_iff.2 hne
    show before.length < (before ++ spelt).length
    rw [List.length_append]
    omega
  le := by
    show (before ++ spelt).length ≤ (before ++ spelt ++ after).length
    simp only [List.length_append]
    omega
  speltBy := by rwa [between_append]
  line_eq := by
    rw [List.append_assoc, List.take_left]
    exact hmark.1
  column_eq := by
    rw [List.append_assoc, List.take_left]
    exact hmark.2

/-- From a place on the tokens lie in the text, and the scanner stands behind them. -/
def Found (s : Scanner) (text : List Char) (place : Nat) (located : List Located) : Prop :=
  ∃ placed consumed rest, placed.map Placed.located = located ∧ Placed.Follow text place placed ∧
    text = consumed ++ rest ∧ Stands s consumed rest ∧ place ≤ consumed.length ∧
    ∀ p ∈ placed, p.LiesIn text ∧ p.stop ≤ consumed.length

theorem Found.nil (hs : Stands s before cs) {place : Nat} (hplace : place ≤ before.length) :
    Found s (before ++ cs) place [] :=
  ⟨[], before, cs, rfl, trivial, rfl, hs, hplace, by simp⟩

/-- One more token in front, with its gap. -/
theorem Found.cons {gap spelt after : List Char} {t : Token} {others : List Located}
    (h : Found s' (before ++ gap ++ spelt ++ after) (before ++ gap ++ spelt).length others)
    (hgap : IsGap gap) (hmark : Marked s (before ++ gap)) (hne : spelt ≠ [])
    (hspelt : t.SpeltBy spelt) :
    Found s' (before ++ gap ++ spelt ++ after) before.length (s.locate t :: others) := by
  obtain ⟨placed, consumed, rest, rfl, hfollow, htext, hs', hplace, hall⟩ := h
  have hlies := liesIn_locate hmark hne hspelt after
  have hbetween : between (before ++ gap ++ spelt ++ after) before.length (before ++ gap).length
      = gap := by
    rw [List.append_assoc _ spelt]
    exact between_append before gap (spelt ++ after)
  refine ⟨⟨s.locate t, (before ++ gap).length, (before ++ gap ++ spelt).length⟩ :: placed, consumed,
    rest, rfl, ⟨?_, ?_, hfollow⟩, htext, hs', ?_, List.forall_mem_cons.2 ⟨⟨hlies, hplace⟩, hall⟩⟩
  · simp
  · rwa [hbetween]
  · rw [List.length_append, List.length_append] at hplace
    omega

/-- The tokens given from a place on lie in the text behind it. -/
theorem found_of_gives {located : List Located} (h : Gives s located s') (hs : Stands s before cs)
    (hlayout : s.layout = false) : Found s' (before ++ cs) before.length located := by
  induction h generalizing before cs with
  | refl s => exact .nil hs (Nat.le_refl _)
  | @step s s₁ s' t others hnext ht hgives ih =>
    obtain ⟨gap, written, rest, hread, hlayout₁, hs₁, hmark⟩ :=
      exists_read_of_next hs hlayout hnext ht
    have hgap := isGap_of_read hread
    obtain ⟨rfl, hlexeme⟩ := append_of_read hread
    obtain ⟨spelt, tail, rfl, hne, hspelt, rfl | rfl⟩ := hlexeme.exists_speltBy
    · -- the next token is sought right behind the span
      have hothers := ih hs₁ hlayout₁
      rw [List.append_nil] at hothers ⊢
      rw [← List.append_assoc, ← List.append_assoc]
      exact hothers.cons hgap hmark hne hspelt
    · -- the text is over, and so is the run
      obtain rfl := hgives.eq_nil hs₁ hlayout₁
      cases hgives
      have hplace : (before ++ gap ++ spelt).length
          ≤ (before ++ gap ++ (spelt ++ tail)).length := by
        simp only [List.length_append]
        omega
      have hnone := Found.nil hs₁ hplace
      rw [List.append_nil, ← List.append_assoc] at hnone
      rw [List.append_nil, ← List.append_assoc, ← List.append_assoc]
      exact hnone.cons hgap hmark hne hspelt

/-- A span that has been consumed is shown. -/
theorem shownBy_of_liesIn {p : Placed} {consumed rest : List Char} (hs : Stands s consumed rest)
    (hlies : p.LiesIn (consumed ++ rest)) (hstop : p.stop ≤ consumed.length) :
    p.ShownBy (consumed ++ rest) s := by
  have hstart : p.start < consumed.length := by
    have hlt := hlies.lt
    omega
  -- the first character of the span divides what has been consumed
  have hsplit := List.take_append_drop p.start consumed
  rw [List.drop_eq_getElem_cons hstart] at hsplit
  rw [← hsplit] at hs
  obtain ⟨line, hline, hchar⟩ := hs.exists_codeLine
  have htake : (consumed ++ rest).take p.start = consumed.take p.start :=
    List.take_append_of_le_length (Nat.le_of_lt hstart)
  refine ⟨line, ?_, ?_⟩
  · rw [codeLine, hlies.line_eq, htake, hline]
  · rw [hlies.column_eq, htake, hchar, List.getElem?_append_left hstart,
      List.getElem?_eq_getElem hstart]

end Scanner

/-- The tokens that the scanner gives lie in the text, each at the position it is reported at, where
the scanner shows the first character of its span. The spans follow each other with gaps between
them, so that the text is made up of both. -/
theorem exists_placed_of_gives {text source : String} {located : List Located} {s : Scanner}
    (h : Scanner.Gives (.ofText text source) located s) :
    ∃ placed : List Placed, placed.map Placed.located = located ∧
      Placed.Follow text.toList 0 placed ∧
      (∀ p ∈ placed, p.LiesIn text.toList ∧ p.ShownBy text.toList s) ∧
      Placed.rebuilt text.toList 0 placed = text.toList := by
  obtain ⟨placed, consumed, rest, hlocated, hfollow, htext, hs, -, hall⟩ :=
    Scanner.found_of_gives h (Scanner.stands_ofText text source false) rfl
  rw [List.nil_append] at htext hfollow hall
  refine ⟨placed, hlocated, hfollow, ?_, Placed.rebuilt_eq hfollow fun p hp => (hall p hp).1⟩
  intro p hp
  obtain ⟨hlies, hstop⟩ := hall p hp
  refine ⟨hlies, ?_⟩
  rw [htext] at hlies ⊢
  exact Scanner.shownBy_of_liesIn hs hlies hstop

/-- A literal over two lines stands behind a comment over two lines. -/
theorem exists_placed_of_gives_literal :
    ∃ (s : Scanner) (placed : List Placed),
      Scanner.Gives (.ofText "/*\n*/ \"a\nb\"," "text")
          [⟨⟨.string, "a\nb"⟩, 2, 3⟩, ⟨⟨.symbol .comma, ""⟩, 3, 2⟩] s ∧
        placed.map Placed.located = [⟨⟨.string, "a\nb"⟩, 2, 3⟩, ⟨⟨.symbol .comma, ""⟩, 3, 2⟩] ∧
        Placed.Follow "/*\n*/ \"a\nb\",".toList 0 placed ∧
        Placed.rebuilt "/*\n*/ \"a\nb\",".toList 0 placed = "/*\n*/ \"a\nb\",".toList := by
  have hfirst : (Scanner.ofText "/*\n*/ \"a\nb\"," "text").next.1 = .ok ⟨.string, "a\nb"⟩ := rfl
  have hsecond : (Scanner.ofText "/*\n*/ \"a\nb\"," "text").next.2.next.1
      = .ok ⟨.symbol .comma, ""⟩ := rfl
  have hgives := Scanner.Gives.step (Prod.ext hfirst rfl) (by decide)
    (.step (Prod.ext hsecond rfl) (by decide) (.refl _))
  obtain ⟨placed, hlocated, hfollow, -, hrebuilt⟩ := exists_placed_of_gives hgives
  exact ⟨_, placed, hgives, hlocated, hfollow, hrebuilt⟩

end ServiceSyntax
