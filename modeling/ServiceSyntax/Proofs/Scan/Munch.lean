import ServiceSyntax.Proofs.Lexis.Reading
import ServiceSyntax.Proofs.Scan.Look

/-!
# Whole lexemes

The scan of a lexeme character by character against the lexeme that the grammar finds in the text
at once: runs of characters of one class, operators, string literals and comments. Each lemma is an
induction on the text with the lexeme collected so far left open.
-/

namespace ServiceSyntax.Scanner

open Scan Text Lexis

variable {s : Scanner} {before cs : List Char}

/-! ## Runs -/

theorem push_append_ofList (lexeme : String) (c : Char) (cs : List Char) :
    lexeme.push c ++ String.ofList cs = lexeme ++ String.ofList (c :: cs) := by
  apply String.toList_injective
  simp

/-- A state that collects the characters of a class takes all of them. -/
theorem resume_run {state : State} {p : Char → Bool} {complete : String → Token}
    (hset : ∀ look, state.settled look = state) (hstart : state ≠ .start)
    (hnoted : ∀ c, isNoted state c = false)
    (hstep : ∀ look lexeme, step state look lexeme = .ok (match look.filter p with
      | some c => { next := state, append := some c }
      | none => { next := state, emit := some (complete lexeme), consume := false }))
    (h : Stands s before cs) (lexeme : String) :
    ∃ s', Stands s' (before ++ cs.takeWhile p) (cs.dropWhile p) ∧ Inside s s' false ∧
      s.resume state lexeme = (.ok (complete (lexeme ++ String.ofList (cs.takeWhile p))), s') := by
  induction cs generalizing s before lexeme with
  | nil =>
    refine ⟨s, by simpa using h, .refl s, ?_⟩
    rw [resume_end h (hset none) hstart rfl (hstep none lexeme)]
    simp
  | cons c cs ih =>
    cases hc : p c with
    | false =>
      have hlook : step state (some c) lexeme
          = .ok { next := state, emit := some (complete lexeme), consume := false } := by
        rw [hstep]
        simp [Option.filter, hc]
      obtain ⟨s', hs', hin, heq⟩ := resume_before h (hset _) hstart hlook
      rw [hnoted] at hin
      exact ⟨s', by simpa [hc] using hs', hin, by simp [heq, hc]⟩
    | true =>
      have hlook : step state (some c) lexeme = .ok { next := state, append := some c } := by
        rw [hstep]
        simp [Option.filter, hc]
      obtain ⟨s₁, hs₁, hin₁, heq₁⟩ := resume_go h (hset _) hstart hlook hstart
      obtain ⟨s', hs', hin, heq⟩ := ih hs₁ (lexeme.push c)
      rw [hnoted] at hin₁
      refine ⟨s', by simpa [hc] using hs', hin₁.trans hin, ?_⟩
      rw [heq₁, List.takeWhile_cons_of_pos hc, ← push_append_ofList]
      exact heq

/-- A word takes all letters, digits and underscores. -/
theorem resume_identifier (h : Stands s before cs) (lexeme : String) :
    ∃ s', Stands s' (before ++ cs.takeWhile isWordChar) (cs.dropWhile isWordChar) ∧
      Inside s s' false ∧ s.resume .identifier lexeme
        = (.ok (Token.ofWord (lexeme ++ String.ofList (cs.takeWhile isWordChar))), s') := by
  have hstep : ∀ look lexeme, step .identifier look lexeme = .ok (match look.filter isWordChar with
      | some c => { next := .identifier, append := some c }
      | none => { next := .identifier, emit := some (Token.ofWord lexeme), consume := false }) := by
    intro look lexeme
    cases hlook : look.filter isWordChar <;> simp only [step, hlook]
  exact resume_run (fun _ => rfl) (by decide) (isNoted_eq_false (by decide)) hstep h lexeme

/-- A number takes all digits. -/
theorem resume_integer (h : Stands s before cs) (lexeme : String) :
    ∃ s', Stands s' (before ++ cs.takeWhile isDigit) (cs.dropWhile isDigit) ∧ Inside s s' false ∧
      s.resume .integer lexeme
        = (.ok ⟨.integer, lexeme ++ String.ofList (cs.takeWhile isDigit)⟩, s') := by
  have hstep : ∀ look lexeme, step .integer look lexeme = .ok (match look.filter isDigit with
      | some c => { next := .integer, append := some c }
      | none => { next := .integer, emit := some ⟨.integer, lexeme⟩, consume := false }) := by
    intro look lexeme
    cases hlook : look.filter isDigit <;> simp only [step, hlook, Scan.before]
  exact resume_run (fun _ => rfl) (by decide) (isNoted_eq_false (by decide)) hstep h lexeme

/-! ## Operators -/

/-- An operator takes a second character that makes it a longer one. -/
theorem resume_second {state : State} {second : Char} {long short : Symbol}
    (hset : ∀ look, state.settled look = state) (hstart : state ≠ .start)
    (hnoted : isNoted state second = false)
    (hstep : ∀ look lexeme,
      step state look lexeme = .ok (fromOperator state second long short look))
    (h : Stands s before (second :: cs)) (lexeme : String) :
    ∃ s', Stands s' (before ++ [second]) cs ∧ Inside s s' false ∧
      s.resume state lexeme = (.ok ⟨.symbol long, ""⟩, s') := by
  have hlook : step state (some second) lexeme
      = .ok { next := state, emit := some ⟨.symbol long, ""⟩ } := by
    rw [hstep, fromOperator, if_pos rfl, after]
  rw [← hnoted]
  exact resume_after h (hset _) hstart hlook

/-- A state that completes its token in front of whatever comes next. -/
theorem resume_first {state next : State} {token : Token}
    (hset : ∀ look, state.settled look = state) (hstart : state ≠ .start)
    (hnoted : ∀ c, isNoted state c = false) {lexeme : String}
    (hstep : step state cs.head? lexeme = .ok { next, emit := some token, consume := false })
    (h : Stands s before cs) :
    ∃ s', Stands s' before cs ∧ Inside s s' false ∧ s.resume state lexeme = (.ok token, s') := by
  cases cs with
  | nil => exact ⟨s, h, .refl s, resume_end h (hset none) hstart rfl hstep⟩
  | cons c cs =>
    rw [← hnoted c]
    exact resume_before h (hset _) hstart hstep

/-! ## Comments -/

/-- Behind a `*` that no `/` follows a comment goes on as anywhere else. -/
private theorem resume_star (h : Stands s before cs) (hcs : cs.head? ≠ some '/')
    (lexeme : String) : s.resume .blockCommentStar lexeme = s.resume .blockComment lexeme := by
  cases cs with
  | nil => rw [resume_nil h, resume_nil h]; rfl
  | cons c cs =>
    obtain ⟨t, rest, -, -, -, heq⟩ := resume_cons h
    have hc : c ≠ '/' := by simpa using hcs
    rw [heq, heq]
    simp [readChar, State.settled, lookAt, step, hc, State.inBlockComment]

/-- The scan of a comment comes to the first `*/`, or with an error to the end of the text. -/
theorem resume_comment (h : Stands s before cs) (lexeme : String) :
    match splitAtClose? cs with
    | some (body, rest) =>
      ∃ s', Stands s' (before ++ body ++ ['*']) ('/' :: rest) ∧
        Inside s s' (body.contains '\n') ∧
        s.resume .blockComment lexeme = s'.resume .blockCommentStar lexeme
    | none =>
      ∃ s', Stands s' (before ++ cs) [] ∧ Inside s s' (cs.contains '\n') ∧
        s.resume .blockComment lexeme = (.ok ⟨.error, "/*"⟩, s') := by
  induction cs generalizing s before with
  | nil =>
    have hlook : step .blockComment none lexeme = .ok (unclosedComment .blockComment) := rfl
    exact ⟨s, by simpa using h, .refl s, resume_end h rfl (by decide) rfl hlook⟩
  | cons c cs ih =>
    have hset : ∀ look, State.blockComment.settled look = .blockComment := fun _ => rfl
    have hnoted : isNoted .blockComment c = ('\n' == c) := by simp [isNoted, State.inBlockComment]
    by_cases hclose : c = '*' ∧ cs.head? = some '/'
    · obtain ⟨rfl, hhead⟩ := hclose
      obtain ⟨tail, rfl⟩ := List.head?_eq_some_iff.1 hhead
      have hlook : step .blockComment (some '*') lexeme = .ok { next := .blockCommentStar } := rfl
      obtain ⟨s₁, hs₁, hin₁, heq₁⟩ := resume_go h (hset _) (by decide) hlook (by decide)
      rw [splitAtClose?, if_pos ⟨rfl, rfl⟩]
      exact ⟨s₁, by simpa using hs₁, hin₁, heq₁⟩
    · -- the comment goes on behind the character, even if it is a `*`
      have hgo : ∃ s₁, Stands s₁ (before ++ [c]) cs ∧ Inside s s₁ ('\n' == c) ∧
          s.resume .blockComment lexeme = s₁.resume .blockComment lexeme := by
        by_cases hstar : c = '*'
        · subst hstar
          have hlook : step .blockComment (some '*') lexeme
              = .ok { next := .blockCommentStar } := rfl
          obtain ⟨s₁, hs₁, hin₁, heq₁⟩ := resume_go h (hset _) (by decide) hlook (by decide)
          have hnext : cs.head? ≠ some '/' := fun hhead => hclose ⟨rfl, hhead⟩
          exact ⟨s₁, hs₁, hin₁, heq₁.trans (resume_star hs₁ hnext lexeme)⟩
        · have hlook : step .blockComment (some c) lexeme = .ok { next := .blockComment } := by
            simp [step, hstar]
          obtain ⟨s₁, hs₁, hin₁, heq₁⟩ := resume_go h (hset _) (by decide) hlook (by decide)
          exact ⟨s₁, hs₁, hnoted ▸ hin₁, heq₁⟩
      obtain ⟨s₁, hs₁, hin₁, heq₁⟩ := hgo
      have hrest := ih hs₁
      rw [splitAtClose?, if_neg hclose]
      cases hsplit : splitAtClose? cs with
      | none =>
        rw [hsplit] at hrest
        obtain ⟨s', hs', hin', heq'⟩ := hrest
        refine ⟨s', by simpa using hs', ?_, heq₁.trans heq'⟩
        rw [List.contains_cons]
        exact hin₁.trans hin'
      | some parts =>
        rw [hsplit] at hrest
        obtain ⟨s', hs', hin', heq'⟩ := hrest
        refine ⟨s', by simpa using hs', ?_, heq₁.trans heq'⟩
        rw [List.contains_cons]
        exact hin₁.trans hin'

/-- The scan of a line comment ends in front of its line feed or at the end of the text. -/
theorem resume_lineComment (h : Stands s before cs) (lexeme : String) :
    ∃ s', Stands s' (before ++ cs.takeWhile (· != '\n')) (cs.dropWhile (· != '\n')) ∧
      Inside s s' false ∧ s.resume .lineComment lexeme = s'.resume .start "" := by
  induction cs generalizing s before with
  | nil => exact ⟨s, by simpa using h, .refl s, resume_lineEnd h (Or.inl rfl) lexeme⟩
  | cons c cs ih =>
    by_cases hc : c = '\n'
    · subst hc
      exact ⟨s, by simpa using h, .refl s, resume_lineEnd h (Or.inr rfl) lexeme⟩
    · have hset : State.lineComment.settled (some c) = .lineComment := by
        simp [State.settled, hc]
      have hlook : step .lineComment (some c) lexeme = .ok { next := .lineComment } := by
        simp [step, hc]
      obtain ⟨s₁, hs₁, hin₁, heq₁⟩ := resume_go h hset (by decide) hlook (by decide)
      obtain ⟨s', hs', hin', heq'⟩ := ih hs₁
      rw [isNoted_eq_false (by decide) c] at hin₁
      exact ⟨s', by simpa [hc] using hs', hin₁.trans hin', heq₁.trans heq'⟩

/-! ## String literals -/

/-- The two tables of escapes agree. -/
theorem unescape?_eq_lookup (c : Char) : unescape? c = escapes.lookup c := by
  unfold unescape?
  split
  · rfl
  · rfl
  · rfl
  · rfl
  · rename_i hback hn ht hquote
    have hback : (c == '\\') = false := beq_eq_false_iff_ne.2 hback
    have hn : (c == 'n') = false := beq_eq_false_iff_ne.2 hn
    have ht : (c == 't') = false := beq_eq_false_iff_ne.2 ht
    have hquote : (c == '"') = false := beq_eq_false_iff_ne.2 hquote
    simp only [escapes, List.lookup_cons, List.lookup_nil, hback, hn, ht, hquote]

/-- How the scan behind an opening quote ends, with the lexeme collected so far. -/
def EndsLiteral (before cs : List Char) (lexeme : String) (s : Scanner) :
    Literal → Except ScanError Token → Prop
  | .closed written content rest, result => Stands s (before ++ written ++ ['"']) rest ∧
      result = .ok ⟨.string, lexeme ++ String.ofList content⟩
  | .unclosed content, result => Stands s (before ++ cs) [] ∧
      result = .ok ⟨.error, "\"" ++ (lexeme ++ String.ofList content)⟩
  | .malformed written rest, result => Stands s (before ++ written) rest ∧ s.rest ≠ [] ∧
      result = .error (s.errorAt .malformedEscape)

/-- Characters that spell one character go in front of what a literal holds. -/
private theorem EndsLiteral.behind {front : List Char} {meant : Char} {lexeme : String}
    {lit : Literal} {result : Except ScanError Token}
    (h : EndsLiteral (before ++ front) cs (lexeme.push meant) s lit result) :
    EndsLiteral before (front ++ cs) lexeme s (lit.behind front meant) result := by
  cases lit <;> simpa [EndsLiteral, Literal.behind, push_append_ofList] using h

/-- The scan behind an opening quote ends as the literal does. -/
theorem resume_literal (h : Stands s before cs) (lexeme : String) :
    ∃ s' result, Inside s s' false ∧ s.resume .string lexeme = (result, s') ∧
      EndsLiteral before cs lexeme s' (literal cs) result := by
  have hset : ∀ look, State.string.settled look = .string := fun _ => rfl
  have hsetEscape : ∀ look, State.stringEscape.settled look = .stringEscape := fun _ => rfl
  have hnoted : ∀ c, isNoted .string c = false := isNoted_eq_false (by decide)
  have hnotedEscape : ∀ c, isNoted .stringEscape c = false := isNoted_eq_false (by decide)
  fun_induction literal cs generalizing s before lexeme with
  | case1 =>
    -- the text is over
    have hlook : step .string none lexeme = .ok (unclosedString .string lexeme) := rfl
    have hend := resume_end h (hset none) (by decide) rfl hlook
    exact ⟨s, _, .refl s, hend, by simpa using h, by simp⟩
  | case2 cs =>
    -- the closing quote
    have hlook : step .string (some '"') lexeme
        = .ok { next := .string, emit := some ⟨.string, lexeme⟩ } := rfl
    obtain ⟨s', hs', hin, heq⟩ := resume_after h (hset _) (by decide) hlook
    exact ⟨s', _, hnoted _ ▸ hin, heq, by simpa using hs', by simp⟩
  | case3 hquote =>
    -- a backslash is the last character of the text
    have hlook : step .string (some '\\') lexeme = .ok { next := .stringEscape } := rfl
    obtain ⟨s', hs', hin, heq⟩ := resume_go h (hset _) (by decide) hlook (by decide)
    have hfinish : step .stringEscape none lexeme = .ok (unclosedString .stringEscape lexeme) := rfl
    have hend := resume_end hs' (hsetEscape none) (by decide) rfl hfinish
    exact ⟨s', _, hnoted _ ▸ hin, heq.trans hend, hs', by simp⟩
  | case4 e cs meant hmeant _ ih =>
    -- a backslash that escapes a character, which is taken as it is meant
    have hlook : step .string (some '\\') lexeme = .ok { next := .stringEscape } := rfl
    obtain ⟨s₁, hs₁, hin₁, heq₁⟩ := resume_go h (hset _) (by decide) hlook (by decide)
    have hlook : step .stringEscape (some e) lexeme
        = .ok { next := .string, append := some meant } := by
      simp [step, unescape?_eq_lookup, hmeant]
    obtain ⟨s₂, hs₂, hin₂, heq₂⟩ := resume_go hs₁ (hsetEscape _) (by decide) hlook (by decide)
    obtain ⟨s', result, hin, heq, hends⟩ := ih hs₂ (lexeme.push meant)
    rw [hnoted] at hin₁
    rw [hnotedEscape] at hin₂
    refine ⟨s', result, (hin₁.trans hin₂).trans hin, heq₁.trans (heq₂.trans heq), ?_⟩
    rw [List.append_assoc] at hends
    exact hends.behind
  | case5 e cs hnone _ =>
    -- the scanner stops in front of the character that is not escaped
    have hlook : step .string (some '\\') lexeme = .ok { next := .stringEscape } := rfl
    obtain ⟨s₁, hs₁, hin₁, heq₁⟩ := resume_go h (hset _) (by decide) hlook (by decide)
    have hfault : step .stringEscape (some e) lexeme = .error ⟨e⟩ := by
      simp [step, unescape?_eq_lookup, hnone]
    obtain ⟨s', hs', hne, hin, heq⟩ := resume_fault hs₁ (hsetEscape _) (by decide) hfault
    rw [hnoted] at hin₁
    exact ⟨s', _, hin₁.trans hin, heq₁.trans heq, hs', hne, rfl⟩
  | case6 c cs hquote hback ih =>
    have hlook : step .string (some c) lexeme = .ok { next := .string, append := some c } := by
      simp [step, hquote, hback]
    obtain ⟨s₁, hs₁, hin₁, heq₁⟩ := resume_go h (hset _) (by decide) hlook (by decide)
    obtain ⟨s', result, hin, heq, hends⟩ := ih hs₁ (lexeme.push c)
    rw [hnoted] at hin₁
    exact ⟨s', result, hin₁.trans hin, heq₁.trans heq, hends.behind⟩

end ServiceSyntax.Scanner
