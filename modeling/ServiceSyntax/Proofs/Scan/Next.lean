import ServiceSyntax.Proofs.Scan.Munch

/-!
# The next token of a text

The scanner skips separators and comments, except that in layout mode it stops behind one that holds
a line break, and then it reads a lexeme (`reads_lexeme`). So outside layout mode it gives what the
grammar reads at its place (`next_ends`): it skips the gap, marks the place of the lexeme, and ends
behind it with its token, or in front of the character that a backslash does not escape.
-/

namespace ServiceSyntax.Scanner

open Scan Text Lexis

variable {s : Scanner} {before cs : List Char}

/-! ## Gaps -/

/-- A slash begins a comment or a token. -/
private theorem resume_slash (h : Stands s before ('/' :: cs)) :
    ∃ s', Stands s' (before ++ ['/']) cs ∧ Onward s s' false ∧ s'.Marked before ∧
      s.resume .start "" = s'.resume .slash "/" := by
  have hstep : fromStart (some '/') = { next := .slash, append := some '/' } := by decide
  exact resume_begin h rfl hstep rfl (by decide)

/-- Behind a slash and a star stands a comment. -/
private theorem resume_open (h : Stands s before ('/' :: '*' :: cs)) :
    ∃ s', Stands s' (before ++ ['/', '*']) cs ∧ Onward s s' false ∧ s'.Marked before ∧
      s.resume .start "" = s'.resume .blockComment "/" := by
  obtain ⟨s₁, hs₁, hon₁, hmark, heq₁⟩ := resume_slash h
  have hlook : step .slash (some '*') "/" = .ok { next := .blockComment } := rfl
  obtain ⟨s', hs', hin', heq'⟩ := resume_go hs₁ rfl (by decide) hlook (by decide)
  exact ⟨s', by simpa using hs', hon₁.trans hin'.toOnward, hin'.marked hmark, heq₁.trans heq'⟩

/-- A comment is read up to its last character. -/
private theorem resume_body {body rest : List Char} (hbody : ¬ ['*', '/'] <:+: body)
    (h : Stands s before ('/' :: '*' :: body ++ ['*', '/'] ++ rest)) :
    ∃ s', Stands s' (before ++ ('/' :: '*' :: body ++ ['*'])) ('/' :: rest) ∧
      Onward s s' (('/' :: '*' :: body ++ ['*', '/']).contains '\n') ∧
      s.resume .start "" = s'.resume .blockCommentStar "/" := by
  have hcs : '/' :: '*' :: body ++ ['*', '/'] ++ rest
      = '/' :: '*' :: (body ++ '*' :: '/' :: rest) := by simp
  rw [hcs] at h
  obtain ⟨s₁, hs₁, hon₁, -, heq₁⟩ := resume_open h
  have hcomment := resume_comment hs₁ "/"
  rw [splitAtClose?_eq_some.2 ⟨rfl, hbody⟩] at hcomment
  obtain ⟨s', hs', hin', heq'⟩ := hcomment
  have hmet : ('/' :: '*' :: body ++ ['*', '/']).contains '\n' = body.contains '\n' := by simp
  refine ⟨s', by simpa using hs', ?_, heq₁.trans heq'⟩
  rw [hmet]
  exact hon₁.trans hin'.toOnward

/-- A separator or a comment is skipped, unless it holds a line break in layout mode. -/
theorem resume_filler (h : Stands s before cs) {filler rest : List Char}
    (hfiller : filler? cs = some (filler, rest))
    (hquiet : s.layout = true → s.metNewline = false ∧ '\n' ∉ filler) :
    ∃ s', Stands s' (before ++ filler) rest ∧ Onward s s' (filler.contains '\n') ∧
      s.resume .start "" = s'.resume .start "" := by
  obtain ⟨rfl, hlooks⟩ := filler?_eq_some.1 hfiller
  cases hlooks with
  | @separator c _ hsep =>
    have hfeed : ¬(s.layout = true ∧ c = '\n') := by
      rintro ⟨hlayout, rfl⟩
      exact (hquiet hlayout).2 List.mem_cons_self
    obtain ⟨s', hs', hon, heq⟩ := resume_separator h hfeed hsep
    refine ⟨s', hs', ?_, heq⟩
    rw [List.contains_cons, List.contains_nil, Bool.or_false]
    exact hon
  | @lineComment body _ hbody hrest =>
    rw [List.cons_append, List.cons_append] at h
    obtain ⟨s₁, hs₁, hon₁, -, heq₁⟩ := resume_slash h
    have hlook : step .slash (some '/') "/" = .ok { next := .lineComment } := rfl
    obtain ⟨s₂, hs₂, hin₂, heq₂⟩ := resume_go hs₁ rfl (by decide) hlook (by decide)
    obtain ⟨s', hs', hin', heq'⟩ := resume_lineComment hs₂ "/"
    obtain ⟨htake, hdrop⟩ := span_line hbody hrest
    rw [htake, hdrop] at hs'
    have hmet : ('/' :: '/' :: body).contains '\n' = false := by simpa using hbody
    refine ⟨s', by simpa using hs', ?_, heq₁.trans (heq₂.trans heq')⟩
    rw [hmet]
    exact (hon₁.trans hin₂.toOnward).trans hin'.toOnward
  | @blockComment body _ hbody =>
    obtain ⟨s₁, hs₁, hon₁, heq₁⟩ := resume_body hbody h
    have hquiet₁ : s₁.layout = true → s₁.metNewline = false := by
      intro hlayout
      obtain ⟨hmet, hmem⟩ := hquiet (hon₁.layout_eq.symm.trans hlayout)
      rw [hon₁.metNewline_eq, hmet, Bool.false_or]
      simpa using hmem
    obtain ⟨s', hs', hin', heq'⟩ := resume_close hs₁ hquiet₁ "/"
    refine ⟨s', by simpa using hs', ?_, heq₁.trans heq'⟩
    have hon' := hon₁.trans hin'.toOnward
    rwa [Bool.or_false] at hon'

/-- In layout mode a separator or a comment that holds a line break ends the scan with it. -/
theorem resume_break (h : Stands s before cs) (hlayout : s.layout = true)
    {filler rest : List Char} (hfiller : filler? cs = some (filler, rest))
    (hmem : '\n' ∈ filler) :
    ∃ s', Stands s' (before ++ filler) rest ∧ Onward s s' true ∧
      s.resume .start "" = (.ok ⟨.newline, ""⟩, s') := by
  obtain ⟨rfl, hlooks⟩ := filler?_eq_some.1 hfiller
  cases hlooks with
  | @separator c _ hsep =>
    obtain rfl : '\n' = c := List.mem_singleton.1 hmem
    exact resume_lineFeed h hlayout
  | lineComment hbody _ => exact absurd hmem (by simpa using hbody)
  | @blockComment body _ hbody =>
    obtain ⟨s₁, hs₁, hon₁, heq₁⟩ := resume_body hbody h
    rw [List.contains_iff_mem.2 hmem] at hon₁
    have hmet : s₁.metNewline = true := hon₁.metNewline_eq.trans (Bool.or_true _)
    obtain ⟨s', hs', hon', heq'⟩ := resume_closeBreak hs₁ (hon₁.layout_eq.trans hlayout) hmet "/"
    exact ⟨s', by simpa using hs', hon₁.trans hon', heq₁.trans heq'⟩

/-- The gap in front of a lexeme is skipped. -/
theorem resume_gap (h : Stands s before cs) (hlayout : s.layout = false) :
    ∃ s', Stands s' (before ++ (skip cs).1) (skip cs).2 ∧ Onward s s' ((skip cs).1.contains '\n') ∧
      s.resume .start "" = s'.resume .start "" := by
  fun_induction skip cs generalizing s before with
  | case1 cs _ => exact ⟨s, by simpa using h, ⟨rfl, rfl, by simp⟩, rfl⟩
  | case2 cs filler rest hfiller ih =>
    obtain ⟨s₁, hs₁, hon₁, heq₁⟩ := resume_filler h hfiller (by simp [hlayout])
    obtain ⟨s', hs', hon', heq'⟩ := ih hs₁ (hon₁.layout_eq.trans hlayout)
    rw [List.append_assoc] at hs'
    refine ⟨s', hs', ?_, heq₁.trans heq'⟩
    rw [List.contains_append]
    exact hon₁.trans hon'

/-! ## Lexemes -/

/-- How a scan ends whose lexeme begins behind `before`. -/
def Ends (before : List Char) (s : Scanner) : Lexeme → Except ScanError Token → Prop
  | .token written token rest, result =>
      Stands s (before ++ written) rest ∧ Marked s before ∧ result = .ok token
  | .endOfText, result =>
      Stands s before [] ∧ s.tokenLine = s.line ∧
        s.tokenColumn = (withoutLineEnd s.currentLine).length ∧ result = .ok ⟨.endOfFile, ""⟩
  | .malformed written rest, result =>
      Stands s (before ++ written) rest ∧ Marked s before ∧ s.rest ≠ [] ∧
        result = .error (s.errorAt .malformedEscape)

/-- A line break inside a comment is noted even where the comment is never closed. -/
def notedIn : Lexeme → Bool
  | .token written token _ => token = ⟨.error, "/*"⟩ && written.contains '\n'
  | _ => false

/-- From its place the scanner reads a lexeme. -/
def Reads (s : Scanner) (before : List Char) (lex : Lexeme) : Prop :=
  ∃ s' result, s.resume .start "" = (result, s') ∧ Onward s s' (notedIn lex) ∧
    Ends before s' lex result

private theorem notedIn_of_ne {written rest : List Char} {token : Token}
    (h : token ≠ ⟨.error, "/*"⟩) : notedIn (.token written token rest) = false := by
  simp [notedIn, h]

/-- A token is read whose first character has led to a scan that ends with it. -/
private theorem Reads.of_inside {s₁ s' : Scanner} {written rest : List Char} {token : Token}
    {met : Bool} (hon : Onward s s₁ false) (hmark : s₁.Marked before) (hin : Inside s₁ s' met)
    (hmet : met = notedIn (.token written token rest)) (hs' : Stands s' (before ++ written) rest)
    (heq : s.resume .start "" = (.ok token, s')) : Reads s before (.token written token rest) := by
  refine ⟨s', .ok token, heq, ?_, hs', hin.marked hmark, rfl⟩
  rw [← hmet]
  exact hon.trans hin.toOnward

variable {c : Char}

private theorem wordToken_ne_error (word content : String) :
    wordToken word ≠ ⟨.error, content⟩ := by
  unfold wordToken
  split <;> simp

theorem reads_word (h : Stands s before (c :: cs))
    (hletter : isLetter c = true) :
    Reads s before (.token (c :: cs.takeWhile isWordChar)
      (wordToken (String.ofList (c :: cs.takeWhile isWordChar))) (cs.dropWhile isWordChar)) := by
  have hsep : isSeparator c = false := isSeparator_of_isWordChar (by simp [isWordChar, hletter])
  have hopen : fromStart (some c) = { next := .identifier, append := some c } := by
    simp [fromStart, hsep, hletter]
  obtain ⟨s₁, hs₁, hon₁, hmark, heq₁⟩ := resume_begin h hsep hopen rfl
    (by simp)
  obtain ⟨s', hs', hin', heq'⟩ := resume_identifier hs₁ ("".push c)
  rw [push_append_ofList, String.empty_append, ← wordToken_eq_ofWord] at heq'
  refine .of_inside hon₁ hmark hin' (notedIn_of_ne (wordToken_ne_error _ _)).symm ?_
    (heq₁.trans heq')
  simpa using hs'

theorem reads_number (h : Stands s before (c :: cs))
    (hletter : isLetter c = false) (hdigit : isDigit c = true) :
    Reads s before (.token (c :: cs.takeWhile isDigit)
      ⟨.integer, String.ofList (c :: cs.takeWhile isDigit)⟩ (cs.dropWhile isDigit)) := by
  have hsep : isSeparator c = false := isSeparator_of_isWordChar (by simp [isWordChar, hdigit])
  have hopen : fromStart (some c) = { next := .integer, append := some c } := by
    simp [fromStart, hsep, hletter, hdigit]
  obtain ⟨s₁, hs₁, hon₁, hmark, heq₁⟩ := resume_begin h hsep hopen rfl
    (by simp)
  obtain ⟨s', hs', hin', heq'⟩ := resume_integer hs₁ ("".push c)
  rw [push_append_ofList, String.empty_append] at heq'
  refine .of_inside hon₁ hmark hin' (notedIn_of_ne (by simp)).symm ?_ (heq₁.trans heq')
  simpa using hs'

/-- A minus in front of a digit belongs to the number. -/
theorem reads_negative (h : Stands s before ('-' :: c :: cs))
    (hdigit : isDigit c = true) :
    Reads s before (.token ('-' :: c :: cs.takeWhile isDigit)
      ⟨.integer, String.ofList ('-' :: c :: cs.takeWhile isDigit)⟩ (cs.dropWhile isDigit)) := by
  have hopen : fromStart (some '-') = { next := .minus, append := some '-' } := by decide
  obtain ⟨s₁, hs₁, hon₁, hmark, heq₁⟩ := resume_begin h rfl hopen rfl
    (by simp)
  have hlook : step .minus (some c) ("".push '-') = .ok { next := .integer, append := some c } := by
    simp [step, Option.filter, hdigit]
  obtain ⟨s₂, hs₂, hin₂, heq₂⟩ := resume_go hs₁ rfl (by decide) hlook (by decide)
  rw [isNoted_eq_false (by decide) c] at hin₂
  obtain ⟨s', hs', hin', heq'⟩ := resume_integer hs₂ (("".push '-').push c)
  rw [push_append_ofList, push_append_ofList, String.empty_append] at heq'
  refine .of_inside hon₁ hmark (hin₂.trans hin') (notedIn_of_ne (by simp)).symm ?_
    (heq₁.trans (heq₂.trans heq'))
  simpa using hs'

theorem reads_literal (h : Stands s before ('"' :: cs)) :
    Reads s before ((literal cs).lexeme cs) := by
  have hopen : fromStart (some '"') = { next := .string } := by decide
  obtain ⟨s₁, hs₁, hon₁, hmark, heq₁⟩ := resume_begin h rfl hopen rfl
    (by simp)
  obtain ⟨s', result, hin', heq', hends⟩ := resume_literal hs₁ ""
  cases hlit : literal cs with
  | closed written content rest =>
    rw [hlit] at hends
    obtain ⟨hs', rfl⟩ := hends
    rw [String.empty_append] at heq'
    refine .of_inside hon₁ hmark hin' (notedIn_of_ne (by simp)).symm ?_ (heq₁.trans heq')
    simpa using hs'
  | unclosed content =>
    rw [hlit] at hends
    obtain ⟨hs', rfl⟩ := hends
    have hquote : "\"" ++ ("" ++ String.ofList content) = String.ofList ('"' :: content) := by
      apply String.toList_injective
      simp
    rw [hquote] at heq'
    refine .of_inside hon₁ hmark hin' (notedIn_of_ne ?_).symm ?_ (heq₁.trans heq')
    · intro heq
      have hcontent := congrArg (fun t => t.content.toList) heq
      simp at hcontent
    · simpa using hs'
  | malformed written rest =>
    rw [hlit] at hends
    obtain ⟨hs', hne, rfl⟩ := hends
    exact ⟨s', _, heq₁.trans heq', hon₁.trans hin'.toOnward, by simpa using hs', hin'.marked hmark,
      hne, rfl⟩

/-- A comment that is never closed is an error up to the end of the text. -/
theorem reads_comment (h : Stands s before ('/' :: '*' :: cs))
    (hopen : splitAtClose? cs = none) :
    Reads s before (.token ('/' :: '*' :: cs) ⟨.error, "/*"⟩ []) := by
  obtain ⟨s₁, hs₁, hon₁, hmark, heq₁⟩ := resume_open h
  have hcomment := resume_comment hs₁ "/"
  rw [hopen] at hcomment
  obtain ⟨s', hs', hin', heq'⟩ := hcomment
  refine .of_inside hon₁ hmark hin' ?_ ?_ (heq₁.trans heq')
  · simp [notedIn]
  · simpa using hs'

/-! ## Symbols -/

/-- A character that is a symbol, and begins no longer one, is read as that symbol. -/
private theorem reads_single {s' : Scanner} {symbol : Symbol} (hon : Onward s s' false)
    (hs' : Stands s' (before ++ [c]) cs) (hmark : s'.Marked before)
    (heq : s.resume .start "" = (.ok ⟨.symbol symbol, ""⟩, s'))
    (hsymbol : symbol.lexeme.toList = [c])
    (hlong : ∀ (long : Symbol) (d : Char), long.lexeme.toList = [c, d] → cs.head? ≠ some d) :
    Reads s before (symbolOrError c cs) := by
  rw [symbolOrError, symbol?_of_single hsymbol hlong]
  refine ⟨s', _, heq, ?_, ?_, hmark, rfl⟩
  · rw [notedIn_of_ne (by simp)]
    exact hon
  · simpa [hsymbol] using hs'

/-- An operator that may have a second character is read with it if it stands there. -/
private theorem reads_operator (state : State) (second : Char) (long short : Symbol)
    (h : Stands s before (c :: cs)) (hsep : isSeparator c = false)
    (hopen : fromStart (some c) = { next := state, append := some c })
    (hset : ∀ look, state.settled look = state)
    (hstate : state ≠ .start ∧ state.inBlockComment = false)
    (hstep : ∀ look lexeme,
      step state look lexeme = .ok (fromOperator state second long short look))
    (hlong : long.lexeme.toList = [c, second]) (hshort : short.lexeme.toList = [c])
    (honly : ∀ (symbol : Symbol) (d : Char), symbol.lexeme.toList = [c, d] → d = second) :
    Reads s before (symbolOrError c cs) := by
  obtain ⟨s₁, hs₁, hon₁, hmark, heq₁⟩ := resume_begin h hsep hopen rfl
    fun _ => hstate.1
  by_cases hsecond : cs.head? = some second
  · obtain ⟨tail, rfl⟩ := List.head?_eq_some_iff.1 hsecond
    -- both characters are consumed, and together they are the longer symbol
    obtain ⟨s', hs', hin', heq'⟩ := resume_second hset hstate.1 (isNoted_eq_false hstate second)
      hstep hs₁ ("".push c)
    rw [symbolOrError, symbol?_of_pair hlong]
    refine .of_inside hon₁ hmark hin' (notedIn_of_ne (by simp)).symm ?_ (heq₁.trans heq')
    simpa [hlong] using hs'
  · -- what comes next is looked at and left
    have hlook : step state cs.head? ("".push c)
        = .ok { next := state, emit := some ⟨.symbol short, ""⟩, consume := false } := by
      rw [hstep, fromOperator, if_neg hsecond, Scan.before]
    obtain ⟨s', hs', hin', heq'⟩ := resume_first hset hstate.1 (isNoted_eq_false hstate) hlook hs₁
    refine reads_single (hon₁.trans hin'.toOnward) hs' (hin'.marked hmark) (heq₁.trans heq')
      hshort ?_
    intro symbol d hsymbol
    rw [honly symbol d hsymbol]
    exact hsecond

/-- An operator of one character whose state looks ahead for something else than an operator. -/
private theorem reads_alone (state : State) (short : Symbol)
    (h : Stands s before (c :: cs)) (hsep : isSeparator c = false)
    (hopen : fromStart (some c) = { next := state, append := some c })
    (hset : ∀ look, state.settled look = state)
    (hstate : state ≠ .start ∧ state.inBlockComment = false)
    (hstep : step state cs.head? ("".push c)
      = .ok { next := state, emit := some ⟨.symbol short, ""⟩, consume := false })
    (hshort : short.lexeme.toList = [c])
    (honly : ∀ (symbol : Symbol) (d : Char), symbol.lexeme.toList ≠ [c, d]) :
    Reads s before (symbolOrError c cs) := by
  obtain ⟨s₁, hs₁, hon₁, hmark, heq₁⟩ := resume_begin h hsep hopen rfl
    fun _ => hstate.1
  obtain ⟨s', hs', hin', heq'⟩ := resume_first hset hstate.1 (isNoted_eq_false hstate) hstep hs₁
  exact reads_single (hon₁.trans hin'.toOnward) hs' (hin'.marked hmark) (heq₁.trans heq') hshort
    fun symbol d hsymbol => absurd hsymbol (honly symbol d)

/-- The second characters of operators. -/
private def second? : Char → Option Char
  | '+' => some '+'
  | '=' | '<' | '>' | '!' => some '='
  | _ => none

private theorem second?_of_pair {symbol : Symbol} {d : Char} (h : symbol.lexeme.toList = [c, d]) :
    second? c = some d := by
  cases symbol <;> simp [Symbol.lexeme] at h
  all_goals
    obtain ⟨rfl, rfl⟩ := h
    rfl

private theorem second_of_pair {second : Char} (hsecond : second? c = some second)
    (symbol : Symbol) (d : Char) (h : symbol.lexeme.toList = [c, d]) : d = second :=
  Option.some.inj ((second?_of_pair h).symm.trans hsecond)

/-- A character that a symbol begins with opens an operator or is a symbol of its own. -/
private theorem opener?_or_single? {symbol : Symbol} (h : symbol.lexeme.toList.head? = some c) :
    (opener? c).isSome ∨ (single? c).isSome := by
  cases symbol <;> simp only [Symbol.lexeme, String.reduceToList, List.head?_cons,
    Option.some.injEq] at h <;> subst h <;> decide

private theorem lexeme_of_single? {symbol : Symbol} (h : single? c = some symbol) :
    symbol.lexeme.toList = [c] ∧ ∀ (long : Symbol) (d : Char), long.lexeme.toList ≠ [c, d] := by
  unfold single? at h
  split at h <;> cases h
  all_goals
    refine ⟨rfl, fun long d hlong => ?_⟩
    cases long <;> simp [Symbol.lexeme] at hlong

private theorem fromStart_of_single? {symbol : Symbol} (h : single? c = some symbol) :
    isSeparator c = false ∧ fromStart (some c) = after .start (.symbol symbol) "" := by
  unfold single? at h
  split at h <;> cases h <;> decide

/-- No symbol begins with the character. -/
private theorem symbol?_eq_none (hopener : opener? c = none) (hsingle : single? c = none) :
    symbol? (c :: cs) = none := by
  cases hsymbol : symbol? (c :: cs) with
  | none => rfl
  | some symbol =>
    obtain ⟨tail, htail⟩ := lexeme_of_symbol? hsymbol
    have hhead : symbol.lexeme.toList.head? = some c := by
      have hne : symbol.lexeme.toList ≠ [] := by cases symbol <;> decide
      obtain ⟨d, ds, hd⟩ := List.exists_cons_of_ne_nil hne
      rw [hd] at htail ⊢
      rw [(List.cons.inj htail).1, List.head?_cons]
    rcases opener?_or_single? hhead with hsome | hsome
    · simp [hopener] at hsome
    · simp [hsingle] at hsome

/-- Where no word, number, literal or comment begins a symbol is read, or else an error. -/
theorem reads_symbolOrError (h : Stands s before (c :: cs))
    (hsep : isSeparator c = false) (hletter : isLetter c = false) (hdigit : isDigit c = false)
    (hquote : c ≠ '"') (hminus : c = '-' → cs.head?.filter isDigit = none)
    (hslash : c = '/' → cs.head? ≠ some '*' ∧ cs.head? ≠ some '/') :
    Reads s before (symbolOrError c cs) := by
  cases hopener : opener? c with
  | some state =>
    unfold opener? at hopener
    split at hopener <;> cases hopener
    · exact reads_operator .plus '+' .choice .plus h rfl (by decide) (fun _ => rfl)
        (by decide) (fun _ _ => rfl) rfl rfl (second_of_pair rfl)
    · exact reads_operator .equals '=' .equal .assign h rfl (by decide) (fun _ => rfl)
        (by decide) (fun _ _ => rfl) rfl rfl (second_of_pair rfl)
    · exact reads_operator .leftAngle '=' .atMost .leftAngle h rfl (by decide)
        (fun _ => rfl) (by decide) (fun _ _ => rfl) rfl rfl (second_of_pair rfl)
    · exact reads_operator .rightAngle '=' .atLeast .rightAngle h rfl (by decide)
        (fun _ => rfl) (by decide) (fun _ _ => rfl) rfl rfl (second_of_pair rfl)
    · exact reads_operator .bang '=' .notEqual .not h rfl (by decide) (fun _ => rfl)
        (by decide) (fun _ _ => rfl) rfl rfl (second_of_pair rfl)
    · refine reads_alone .slash .divide h rfl (by decide) (fun _ => rfl) (by decide) ?_ rfl
        fun symbol d hpair => by cases second?_of_pair hpair
      rw [step, if_neg (hslash rfl).1, if_neg (hslash rfl).2, Scan.before]
    · refine reads_alone .minus .minus h rfl (by decide) (fun _ => rfl) (by decide) ?_ rfl
        fun symbol d hpair => by cases second?_of_pair hpair
      rw [step, hminus rfl, Scan.before]
  | none =>
    cases hsingle : single? c with
    | some symbol =>
      obtain ⟨-, hopen⟩ := fromStart_of_single? hsingle
      obtain ⟨hsymbol, honly⟩ := lexeme_of_single? hsingle
      obtain ⟨s₁, hs₁, hon₁, hmark, heq₁⟩ := resume_begin h hsep hopen rfl
        (by simp [after])
      exact reads_single hon₁ hs₁ hmark heq₁ hsymbol fun long d hlong => absurd hlong (honly long d)
    | none =>
      have hopen : fromStart (some c) = after .start .error (String.singleton c) := by
        simp [fromStart, hsep, hletter, hdigit, hquote, hopener, hsingle]
      obtain ⟨s₁, hs₁, hon₁, hmark, heq₁⟩ := resume_begin h hsep hopen rfl
        (by simp [after])
      rw [symbolOrError, symbol?_eq_none hopener hsingle]
      refine .of_inside hon₁ hmark (.refl s₁) (notedIn_of_ne ?_).symm hs₁ heq₁
      intro heq
      have hcontent := congrArg (fun t => t.content.toList) heq
      simp at hcontent

/-! ## Reading on from a place -/

/-- Behind a gap the scanner reads the lexeme that stands there. -/
theorem reads_lexeme (h : Stands s before cs)
    (hfiller : filler? cs = none) : Reads s before (lexeme cs) := by
  cases cs with
  | nil =>
    have hon : Onward s s.markToken false := ⟨rfl, rfl, by simp [markToken]⟩
    refine ⟨s.markToken, .ok ⟨.endOfFile, ""⟩, ?_, hon, ?_⟩
    · rw [resume_nil h]
      rfl
    · exact ⟨h.markToken, rfl, by simp [markToken, h.unread_eq_nil.1, currentLine], rfl⟩
  | cons c cs =>
    obtain ⟨hsep, hline, hblock⟩ := of_filler?_none hfiller
    rw [lexeme]
    split
    · rename_i hletter
      exact reads_word h hletter
    rename_i hletter
    have hletter : isLetter c = false := by simpa using hletter
    split
    · rename_i hnumber
      cases hdigit : isDigit c with
      | true => exact reads_number h hletter hdigit
      | false =>
        rw [hdigit, Bool.false_or, Bool.and_eq_true, decide_eq_true_iff,
          Option.any_eq_true] at hnumber
        obtain ⟨rfl, d, hhead, hd⟩ := hnumber
        obtain ⟨tail, rfl⟩ := List.head?_eq_some_iff.1 hhead
        rw [List.takeWhile_cons_of_pos hd, List.dropWhile_cons_of_pos hd]
        exact reads_negative h hd
    rename_i hnumber
    rw [Bool.or_eq_true, not_or, Bool.and_eq_true, decide_eq_true_iff] at hnumber
    obtain ⟨hdigit, hminus⟩ := hnumber
    have hdigit : isDigit c = false := by simpa using hdigit
    have hminus : c = '-' → cs.head?.filter isDigit = none := by
      intro hc
      cases hhead : cs.head? with
      | none => rfl
      | some d => simpa [hhead, Option.filter, hc] using hminus
    split
    · rename_i hquote
      subst hquote
      exact reads_literal h
    rename_i hquote
    split
    · rename_i hopen
      obtain ⟨rfl, hhead⟩ := hopen
      obtain ⟨tail, rfl⟩ := List.head?_eq_some_iff.1 hhead
      exact reads_comment h (hblock rfl rfl)
    · rename_i hopen
      exact reads_symbolOrError h hsep hletter hdigit hquote hminus
        fun hc => ⟨fun hhead => hopen ⟨hc, hhead⟩, hline hc⟩

/-- The scanner gives what the grammar reads at its place: the gap is skipped, and the scan of the
lexeme behind it ends as the lexeme says. -/
theorem next_ends (h : Stands s before cs) (hlayout : s.layout = false) :
    Onward { s with metNewline := false } s.next.2
        ((read cs).gap.contains '\n' || notedIn (read cs).lexeme) ∧
      Ends (before ++ (read cs).gap) s.next.2 (read cs).lexeme s.next.1 := by
  obtain ⟨s₁, hs₁, hon₁, heq₁⟩ := resume_gap (h.note false) hlayout
  obtain ⟨s', result, heq', hon', hends⟩ :=
    reads_lexeme hs₁ (filler?_skip cs)
  have hnext : s.next = (result, s') := heq₁.trans heq'
  rw [hnext]
  exact ⟨hon₁.trans hon', hends⟩

end ServiceSyntax.Scanner
