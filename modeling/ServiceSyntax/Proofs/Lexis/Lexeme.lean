import ServiceSyntax.Proofs.Lexis.Gap
import ServiceSyntax.Proofs.Lexis.Literal
import ServiceSyntax.Proofs.Text.Classes

/-!
# Lexemes

`lexeme` finds the longest lexeme at the beginning of a text: a word, a number, a string literal or
a symbol, and an error where there is none of these. `IsLexeme` says of a piece of text that it is
the lexeme in front of another, and the two agree (`lexeme_eq_token`).
-/

namespace ServiceSyntax.Lexis

open Scan Text

/-! ## Symbols -/

/-- The symbol that is written `cs`. -/
def symbolOf? (cs : List Char) : Option Symbol :=
  Symbol.all.find? fun s => s.lexeme.toList == cs

/-- The symbol that a text begins with; one of two characters comes before one of one. -/
def symbol? (cs : List Char) : Option Symbol := (symbolOf? (cs.take 2)).or (symbolOf? (cs.take 1))

theorem lexeme_of_symbolOf? {cs : List Char} {s : Symbol} (h : symbolOf? cs = some s) :
    s.lexeme.toList = cs := by
  simpa using List.find?_some h

theorem symbolOf?_lexeme (s : Symbol) : symbolOf? s.lexeme.toList = some s := by
  cases s <;> rfl

theorem lexeme_of_symbol? {cs : List Char} {s : Symbol} (h : symbol? cs = some s) :
    s.lexeme.toList <+: cs := by
  rcases Option.or_eq_some_iff.1 h with htwo | ⟨-, hone⟩
  · rw [lexeme_of_symbolOf? htwo]
    exact List.take_prefix 2 cs
  · rw [lexeme_of_symbolOf? hone]
    exact List.take_prefix 1 cs

/-- Two characters that are a symbol are read as one. -/
theorem symbol?_of_pair {c d : Char} {long : Symbol} (h : long.lexeme.toList = [c, d])
    (cs : List Char) : symbol? (c :: d :: cs) = some long := by
  have htwo : symbolOf? [c, d] = some long := h ▸ symbolOf?_lexeme long
  rw [symbol?, List.take_succ_cons, List.take_succ_cons, List.take_zero, htwo, Option.some_or]

/-- A character is read as a symbol unless it is one together with the next character. -/
theorem symbol?_of_single {c : Char} {cs : List Char} {short : Symbol}
    (h : short.lexeme.toList = [c])
    (hlong : ∀ (long : Symbol) (d : Char), long.lexeme.toList = [c, d] → cs.head? ≠ some d) :
    symbol? (c :: cs) = some short := by
  have hone : symbolOf? [c] = some short := h ▸ symbolOf?_lexeme short
  cases cs with
  | nil => rw [symbol?, List.take_succ_cons, List.take_nil, hone, Option.some_or]
  | cons d cs =>
    have htwo : symbolOf? [c, d] = none := by
      cases htwo : symbolOf? [c, d] with
      | none => rfl
      | some long => exact absurd rfl (hlong long d (lexeme_of_symbolOf? htwo))
    rw [symbol?, List.take_succ_cons, List.take_succ_cons, List.take_zero, htwo, Option.none_or,
      List.take_succ_cons, List.take_zero, hone]

/-! ## Words -/

/-- The words with a meaning of their own. -/
def keywords : List (String × Keyword) :=
  [("if", .ifWord), ("else", .elseWord), ("in", .inWord), ("out", .out), ("and", .and), ("or", .or),
   ("linkIn", .linkIn), ("linkOut", .linkOut), ("OneWay", .oneWay),
   ("RequestResponse", .requestResponse), ("Notification", .notification),
   ("SolicitResponse", .solicitResponse), ("locations", .locations), ("operations", .operations),
   ("variables", .variables), ("main", .main), ("define", .define), ("links", .links),
   ("nullProcess", .nullProcess), ("while", .whileWord), ("sleep", .sleep), ("int", .intType),
   ("string", .stringType), ("variant", .variantType), ("cset", .cset), ("persistent", .persistent),
   ("not_persistent", .notPersistent), ("concurrent", .concurrent), ("sequential", .sequential),
   ("state", .state), ("execution", .execution), ("throw", .throw),
   ("installFH", .installFaultHandler), ("installComp", .installCompensation), ("scope", .scope),
   ("comp", .compensate), ("include", .includeWord), ("from", .fromWord), ("import", .importWord),
   ("as", .asWord), ("service", .service), ("inputPort", .inputPort), ("outputPort", .outputPort),
   ("interface", .interface), ("type", .type), ("embedded", .embedded), ("courier", .courier),
   ("constants", .constants), ("init", .init)]

/-- What a word stands for. -/
def wordToken (word : String) : Token :=
  match keywords.lookup word with
  | some k => ⟨.keyword k, ""⟩
  | none => ⟨.identifier, word⟩

private theorem lookup_map_lexeme (word : String) (ks : List Keyword) :
    (ks.map fun k => (k.lexeme, k)).lookup word = ks.find? fun k => k.lexeme == word := by
  induction ks with
  | nil => rfl
  | cons k ks ih =>
    rw [List.map_cons, List.lookup_cons, List.find?_cons, ih, Bool.beq_comm]

/-- The two tables of keywords agree. -/
theorem wordToken_eq_ofWord (word : String) : wordToken word = Token.ofWord word := by
  have htable : keywords = Keyword.all.map fun k => (k.lexeme, k) := rfl
  rw [wordToken, htable, lookup_map_lexeme]
  rfl

/-! ## Lexemes -/

/-- What stands at the beginning of a text that begins with no gap. -/
inductive Lexeme where
  | token (written : List Char) (token : Token) (rest : List Char)
  | endOfText
  /-- A literal with a backslash, the last character of `written`, that escapes nothing. -/
  | malformed (written rest : List Char)
deriving Repr, DecidableEq

/-- A literal with its quotes; without a closing quote it is an error token up to the end. -/
def Literal.lexeme (cs : List Char) : Literal → Lexeme
  | closed written content rest =>
    .token ('"' :: written ++ ['"']) ⟨.string, String.ofList content⟩ rest
  | unclosed content => .token ('"' :: cs) ⟨.error, String.ofList ('"' :: content)⟩ []
  | malformed written rest => .malformed ('"' :: written) rest

/-- The longest symbol at the beginning of a text, or else its first character as an error. -/
def symbolOrError (c : Char) (cs : List Char) : Lexeme :=
  match symbol? (c :: cs) with
  | some s => .token s.lexeme.toList ⟨.symbol s, ""⟩ ((c :: cs).drop s.lexeme.toList.length)
  | none => .token [c] ⟨.error, String.singleton c⟩ cs

/-- The longest lexeme at the beginning of a text. -/
def lexeme : List Char → Lexeme
  | [] => .endOfText
  | c :: cs =>
    if isLetter c then
      let word := c :: cs.takeWhile isWordChar
      .token word (wordToken (String.ofList word)) (cs.dropWhile isWordChar)
    else if isDigit c || (c = '-' && cs.head?.any isDigit) then
      let number := c :: cs.takeWhile isDigit
      .token number ⟨.integer, String.ofList number⟩ (cs.dropWhile isDigit)
    else if c = '"' then (literal cs).lexeme cs
    -- the comment is never closed, or else it would be part of the gap
    else if c = '/' ∧ cs.head? = some '*' then .token (c :: cs) ⟨.error, "/*"⟩ []
    else symbolOrError c cs

/-! ## What a lexeme looks like -/

/-- `written` is the longest lexeme in front of `rest`, and `token` is what it stands for. -/
inductive IsLexeme : List Char → Token → List Char → Prop
  | word {c : Char} {word rest : List Char} : isLetter c = true →
      (∀ x ∈ word, isWordChar x = true) → (∀ x ∈ rest.head?, isWordChar x = false) →
      IsLexeme (c :: word) (wordToken (String.ofList (c :: word))) rest
  | number {c : Char} {digits rest : List Char} : isDigit c = true →
      (∀ x ∈ digits, isDigit x = true) → (∀ x ∈ rest.head?, isDigit x = false) →
      IsLexeme (c :: digits) ⟨.integer, String.ofList (c :: digits)⟩ rest
  | negative {c : Char} {digits rest : List Char} : isDigit c = true →
      (∀ x ∈ digits, isDigit x = true) → (∀ x ∈ rest.head?, isDigit x = false) →
      IsLexeme ('-' :: c :: digits) ⟨.integer, String.ofList ('-' :: c :: digits)⟩ rest
  | literal {written content rest : List Char} : Spells written content →
      IsLexeme ('"' :: written ++ ['"']) ⟨.string, String.ofList content⟩ rest
  | unclosedLiteral {cs content : List Char} : literal cs = .unclosed content →
      IsLexeme ('"' :: cs) ⟨.error, String.ofList ('"' :: content)⟩ []
  | unclosedComment {cs : List Char} : IsLexeme ('/' :: '*' :: cs) ⟨.error, "/*"⟩ []
  | symbol {symbol : Symbol} {rest : List Char} :
      symbol? (symbol.lexeme.toList ++ rest) = some symbol →
      (symbol = .divide → rest.head? ≠ some '*') →
      (symbol = .minus → ∀ x ∈ rest.head?, isDigit x = false) →
      IsLexeme symbol.lexeme.toList ⟨.symbol symbol, ""⟩ rest
  | error {c : Char} {rest : List Char} : isLetter c = false → isDigit c = false → c ≠ '"' →
      symbol? (c :: rest) = none → IsLexeme [c] ⟨.error, String.singleton c⟩ rest

theorem IsLexeme.ne_nil {written rest : List Char} {t : Token} (h : IsLexeme written t rest) :
    written ≠ [] := by
  cases h with
  | @symbol symbol => cases symbol <;> decide
  | _ => simp

/-- No lexeme is the end of the text or a line break. -/
theorem IsLexeme.kind_ne {written rest : List Char} {t : Token} (h : IsLexeme written t rest) :
    t.kind ≠ .endOfFile ∧ t.kind ≠ .newline := by
  cases h with
  | word =>
    unfold wordToken
    split <;> simp
  | _ => simp

/-- A run of a class ends where it is followed by something else. -/
theorem run_append {p : Char → Bool} {run rest : List Char} (hrun : ∀ x ∈ run, p x = true)
    (hrest : ∀ x ∈ rest.head?, p x = false) :
    (run ++ rest).takeWhile p = run ∧ (run ++ rest).dropWhile p = rest := by
  rw [List.takeWhile_append_of_pos hrun, List.dropWhile_append_of_pos hrun]
  cases rest with
  | nil => simp
  | cons c rest =>
    have hc : p c = false := hrest c rfl
    simp [hc]

private theorem run_takeWhile (p : Char → Bool) (cs : List Char) :
    (∀ x ∈ cs.takeWhile p, p x = true) ∧ ∀ x ∈ (cs.dropWhile p).head?, p x = false := by
  constructor
  · exact List.all_eq_true.1 List.all_takeWhile
  · intro x hx
    have hhead := List.head?_dropWhile_not p cs
    rw [Option.mem_def.1 hx] at hhead
    simpa using hhead

private theorem isLexeme_of_lexeme {cs written rest : List Char} {t : Token}
    (h : lexeme cs = .token written t rest) : cs = written ++ rest ∧ IsLexeme written t rest := by
  cases cs with
  | nil => cases h
  | cons c cs =>
    rw [lexeme] at h
    split at h
    · rename_i hletter
      obtain ⟨rfl, rfl, rfl⟩ := Lexeme.token.inj h
      obtain ⟨hrun, hstop⟩ := run_takeWhile isWordChar cs
      exact ⟨by rw [List.cons_append, List.takeWhile_append_dropWhile], .word hletter hrun hstop⟩
    rename_i hletter
    split at h
    · rename_i hnumber
      obtain ⟨rfl, rfl, rfl⟩ := Lexeme.token.inj h
      refine ⟨by rw [List.cons_append, List.takeWhile_append_dropWhile], ?_⟩
      obtain ⟨hrun, hstop⟩ := run_takeWhile isDigit cs
      cases hdigit : isDigit c with
      | true => exact .number hdigit hrun hstop
      | false =>
        -- a minus, and the digits begin behind it
        rw [hdigit, Bool.false_or, Bool.and_eq_true, decide_eq_true_iff,
          Option.any_eq_true] at hnumber
        obtain ⟨rfl, d, hhead, hd⟩ := hnumber
        obtain ⟨tail, rfl⟩ := List.head?_eq_some_iff.1 hhead
        rw [List.takeWhile_cons_of_pos hd] at hrun ⊢
        exact .negative hd (fun x hx => hrun x (List.mem_cons_of_mem _ hx)) hstop
    rename_i hnumber
    rw [Bool.or_eq_true, not_or, Bool.and_eq_true, decide_eq_true_iff] at hnumber
    split at h
    · rename_i hquote
      subst hquote
      cases hlit : literal cs with
      | closed written' content rest' =>
        rw [hlit] at h
        obtain ⟨rfl, rfl, rfl⟩ := Lexeme.token.inj h
        obtain ⟨rfl, hspells⟩ := literal_eq_closed.1 hlit
        exact ⟨by simp, .literal hspells⟩
      | unclosed content =>
        rw [hlit] at h
        obtain ⟨rfl, rfl, rfl⟩ := Lexeme.token.inj h
        exact ⟨(List.append_nil _).symm, .unclosedLiteral hlit⟩
      | malformed => rw [hlit] at h; cases h
    rename_i hquote
    split at h
    · rename_i hopen
      obtain ⟨rfl, hhead⟩ := hopen
      obtain ⟨tail, rfl⟩ := List.head?_eq_some_iff.1 hhead
      obtain ⟨rfl, rfl, rfl⟩ := Lexeme.token.inj h
      exact ⟨(List.append_nil _).symm, .unclosedComment⟩
    rename_i hopen
    rw [symbolOrError] at h
    split at h
    · rename_i symbol hsymbol
      obtain ⟨rfl, rfl, rfl⟩ := Lexeme.token.inj h
      have hcs := (List.prefix_iff_eq_append.1 (lexeme_of_symbol? hsymbol)).symm
      -- the branches above have taken every slash and minus that is no symbol
      refine ⟨hcs, .symbol (hcs ▸ hsymbol) ?_ ?_⟩
      · intro heq hhead
        subst heq
        exact hopen ⟨(List.cons.inj hcs).1, hhead⟩
      · intro heq x hx
        subst heq
        have hnot := hnumber.2
        rw [Option.any_eq_true] at hnot
        rw [Bool.eq_false_iff]
        exact fun hdigit => hnot ⟨(List.cons.inj hcs).1, x, hx, hdigit⟩
    · rename_i hnone
      obtain ⟨rfl, rfl, rfl⟩ := Lexeme.token.inj h
      exact ⟨rfl, .error (by simpa using hletter) (by simpa using hnumber.1) hquote hnone⟩

/-- The first character of a symbol begins nothing else. -/
private theorem first_of_symbol {symbol : Symbol} {c : Char} {cs : List Char}
    (h : symbol.lexeme.toList = c :: cs) :
    isLetter c = false ∧ isDigit c = false ∧ c ≠ '"' ∧ (c = '/' → symbol = .divide ∧ cs = []) ∧
      (c = '-' → symbol = .minus ∧ cs = []) := by
  cases symbol <;> simp only [Symbol.lexeme, String.reduceToList, List.cons.injEq] at h <;>
    obtain ⟨rfl, rfl⟩ := h <;> decide

private theorem lexeme_of_other {c : Char} {cs : List Char} (hletter : isLetter c = false)
    (hdigit : isDigit c = false) (hquote : c ≠ '"') (hslash : c = '/' → cs.head? ≠ some '*')
    (hminus : c = '-' → ∀ x ∈ cs.head?, isDigit x = false) :
    lexeme (c :: cs) = symbolOrError c cs := by
  have hnumber : ¬ (isDigit c || (decide (c = '-') && cs.head?.any isDigit)) = true := by
    rw [hdigit, Bool.false_or, Bool.and_eq_true, decide_eq_true_iff, Option.any_eq_true]
    intro hparts
    obtain ⟨hc, x, hx, hd⟩ := hparts
    rw [hminus hc x hx] at hd
    cases hd
  rw [lexeme, if_neg (by simp [hletter]), if_neg hnumber, if_neg hquote,
    if_neg fun hopen => hslash hopen.1 hopen.2]

private theorem lexeme_of_isLexeme {written rest : List Char} {t : Token}
    (h : IsLexeme written t rest) : lexeme (written ++ rest) = .token written t rest := by
  cases h with
  | word hletter hrun hstop =>
    obtain ⟨htake, hdrop⟩ := run_append hrun hstop
    rw [List.cons_append, lexeme, if_pos hletter, htake, hdrop]
  | number hdigit hrun hstop =>
    obtain ⟨htake, hdrop⟩ := run_append hrun hstop
    rw [List.cons_append, lexeme, if_neg (by simp [isLetter_of_isDigit hdigit]), htake, hdrop,
      if_pos (by simp [hdigit])]
  | negative hdigit hrun hstop =>
    obtain ⟨htake, hdrop⟩ := run_append hrun hstop
    rw [List.cons_append, List.cons_append, lexeme, if_neg (by decide), if_pos (by simp [hdigit]),
      List.takeWhile_cons_of_pos hdigit, List.dropWhile_cons_of_pos hdigit, htake, hdrop]
  | @literal written content _ hspells =>
    have hlit : literal (written ++ '"' :: rest) = .closed written content rest :=
      literal_of_spells hspells rest
    have hcs : '"' :: written ++ ['"'] ++ rest = '"' :: (written ++ '"' :: rest) := by simp
    rw [hcs, lexeme, if_neg (by decide), if_neg (by simp; decide), if_pos rfl, hlit]
    rfl
  | unclosedLiteral hlit =>
    rw [List.append_nil, lexeme, if_neg (by decide), if_neg (by simp; decide), if_pos rfl, hlit]
    rfl
  | unclosedComment =>
    rw [List.append_nil, lexeme, if_neg (by decide), if_neg (by simp; decide), if_neg (by decide),
      if_pos ⟨rfl, rfl⟩]
  | @symbol symbol _ hsymbol hdivide hminus =>
    obtain ⟨c, cs, hcs⟩ : ∃ c cs, symbol.lexeme.toList = c :: cs := by
      cases symbol <;> exact ⟨_, _, rfl⟩
    obtain ⟨hletter, hdigit, hquote, hslash, hdash⟩ := first_of_symbol hcs
    -- only `/` and `-` could begin something else, and what follows them does not
    have hother : lexeme (c :: (cs ++ rest)) = symbolOrError c (cs ++ rest) := by
      refine lexeme_of_other hletter hdigit hquote ?_ ?_
      · intro hc
        obtain ⟨hsymbol, rfl⟩ := hslash hc
        exact hdivide hsymbol
      · intro hc
        obtain ⟨hsymbol, rfl⟩ := hdash hc
        exact hminus hsymbol
    rw [hcs, List.cons_append] at hsymbol
    rw [hcs, List.cons_append, hother, symbolOrError, hsymbol]
    simp [hcs]
  | @error c _ hletter hdigit hquote hnone =>
    -- `/` and `-` are symbols, so the character is neither
    have hsingle := (Option.or_eq_none_iff.1 hnone).2
    rw [List.take_succ_cons, List.take_zero] at hsingle
    have hother : lexeme (c :: rest) = symbolOrError c rest := by
      refine lexeme_of_other hletter hdigit hquote ?_ ?_
      · intro heq
        subst heq
        cases hsingle
      · intro heq
        subst heq
        cases hsingle
    rw [List.singleton_append, hother, symbolOrError, hnone]

/-- A text begins with a lexeme exactly where a piece of it looks like one. -/
theorem lexeme_eq_token {cs written rest : List Char} {t : Token} :
    lexeme cs = .token written t rest ↔ cs = written ++ rest ∧ IsLexeme written t rest := by
  refine ⟨isLexeme_of_lexeme, ?_⟩
  intro hparts
  obtain ⟨rfl, h⟩ := hparts
  exact lexeme_of_isLexeme h

/-- Only at the end of a text there is no lexeme. -/
theorem eq_nil_of_lexeme {cs : List Char} (h : lexeme cs = .endOfText) : cs = [] := by
  cases cs with
  | nil => rfl
  | cons c cs =>
    rw [lexeme] at h
    split at h
    · cases h
    split at h
    · cases h
    split at h
    · cases hlit : literal cs <;> rw [hlit] at h <;> cases h
    split at h
    · cases h
    · rw [symbolOrError] at h
      split at h <;> cases h

/-- A lexeme is malformed exactly where a literal is. -/
private theorem lexeme_eq_malformed_literal {cs written rest : List Char} :
    lexeme cs = .malformed written rest ↔
      ∃ tail written', cs = '"' :: tail ∧ written = '"' :: written' ∧
        literal tail = .malformed written' rest := by
  constructor
  · intro h
    cases cs with
    | nil => cases h
    | cons c cs =>
      rw [lexeme] at h
      split at h
      · cases h
      split at h
      · cases h
      split at h
      · rename_i hquote
        subst hquote
        cases hlit : literal cs with
        | malformed written' rest' =>
          rw [hlit] at h
          obtain ⟨rfl, rfl⟩ := Lexeme.malformed.inj h
          exact ⟨cs, written', rfl, rfl, hlit⟩
        | closed => rw [hlit] at h; cases h
        | unclosed => rw [hlit] at h; cases h
      split at h
      · cases h
      · rw [symbolOrError] at h
        split at h <;> cases h
  · intro hparts
    obtain ⟨tail, written', rfl, rfl, hlit⟩ := hparts
    rw [lexeme, if_neg (by decide), if_neg (by simp; decide), if_pos rfl, hlit]
    rfl

/-- A lexeme is malformed exactly where a quote and a spelt beginning are followed by a backslash
and a character that it does not escape. -/
theorem lexeme_eq_malformed {cs written rest : List Char} :
    lexeme cs = .malformed written rest ↔
      ∃ body content e tail, Spells body content ∧ escapes.lookup e = none ∧
        written = '"' :: body ++ ['\\'] ∧ rest = e :: tail ∧ cs = written ++ rest := by
  rw [lexeme_eq_malformed_literal]
  constructor
  · intro hparts
    obtain ⟨tail, written', rfl, rfl, hlit⟩ := hparts
    obtain ⟨body, content, e, tail', hspells, he, rfl, rfl, rfl⟩ := literal_eq_malformed.1 hlit
    exact ⟨body, content, e, tail', hspells, he, rfl, rfl, rfl⟩
  · intro hparts
    obtain ⟨body, content, e, tail, hspells, he, rfl, rfl, rfl⟩ := hparts
    exact ⟨_, body ++ ['\\'], rfl, rfl,
      literal_eq_malformed.2 ⟨body, content, e, tail, hspells, he, rfl, rfl, rfl⟩⟩

end ServiceSyntax.Lexis
