import ServiceSyntax.Token.Basic

/-!
# String literals

`literal` reads what follows an opening quote: up to the next quote that no backslash escapes, to
the end of the text, or to a backslash that escapes nothing. `Spells` relates the characters between
two quotes to the content they stand for, and a literal is closed exactly where they spell one
(`literal_eq_closed`). Every content is spelt by its written form (`spells_escaped`).
-/

namespace ServiceSyntax.Lexis

/-- The characters that a backslash gives a meaning to, with their meaning. -/
def escapes : List (Char × Char) := [('\\', '\\'), ('n', '\n'), ('t', '\t'), ('"', '"')]

/-- What follows an opening quote. -/
inductive Literal where
  /-- A closing quote stands between `written` and `rest`. -/
  | closed (written content rest : List Char)
  | unclosed (content : List Char)
  /-- The last character of `written` is a backslash that escapes nothing. -/
  | malformed (written rest : List Char)
deriving Repr, DecidableEq

/-- A literal behind one more character, as it is written and as it is meant. -/
def Literal.behind (written : List Char) (meant : Char) : Literal → Literal
  | closed written' content rest => closed (written ++ written') (meant :: content) rest
  | unclosed content => unclosed (meant :: content)
  | malformed written' rest => malformed (written ++ written') rest

/-- The literal whose opening quote stands in front of a text. -/
def literal : List Char → Literal
  | [] => .unclosed []
  | c :: cs =>
    if c = '"' then .closed [] [] cs
    else if c = '\\' then
      match cs with
      | [] => .unclosed []
      | e :: cs =>
        match escapes.lookup e with
        | some meant => (literal cs).behind ['\\', e] meant
        | none => .malformed ['\\'] (e :: cs)
    else (literal cs).behind [c] c

theorem literal_quote (cs : List Char) : literal ('"' :: cs) = .closed [] [] cs := by
  rw [literal.eq_def]
  rfl

theorem literal_plain {c : Char} (hquote : c ≠ '"') (hback : c ≠ '\\') (cs : List Char) :
    literal (c :: cs) = (literal cs).behind [c] c := by
  rw [literal.eq_def]
  simp [hquote, hback]

theorem literal_escape {e meant : Char} (h : escapes.lookup e = some meant) (cs : List Char) :
    literal ('\\' :: e :: cs) = (literal cs).behind ['\\', e] meant := by
  rw [literal.eq_def]
  simp [h]

theorem literal_malformed {e : Char} (h : escapes.lookup e = none) (cs : List Char) :
    literal ('\\' :: e :: cs) = .malformed ['\\'] (e :: cs) := by
  rw [literal.eq_def]
  simp [h]

/-! ## Spelling -/

/-- The characters between two quotes spell a content. -/
inductive Spells : List Char → List Char → Prop
  | nil : Spells [] []
  | plain {c : Char} {written content : List Char} : c ≠ '"' → c ≠ '\\' →
      Spells written content → Spells (c :: written) (c :: content)
  | escape {e meant : Char} {written content : List Char} : escapes.lookup e = some meant →
      Spells written content → Spells ('\\' :: e :: written) (meant :: content)

theorem Spells.append {written written' content content' : List Char} (h : Spells written content)
    (h' : Spells written' content') : Spells (written ++ written') (content ++ content') := by
  induction h with
  | nil => exact h'
  | plain hquote hback _ ih => exact .plain hquote hback ih
  | escape hmeant _ ih => exact .escape hmeant ih

/-- A content is never longer than what spells it. -/
theorem Spells.length_le {written content : List Char} (h : Spells written content) :
    content.length ≤ written.length := by
  induction h with
  | nil => exact Nat.le_refl 0
  | plain _ _ _ ih => exact Nat.succ_le_succ ih
  | escape _ _ ih => exact Nat.le_succ_of_le (Nat.succ_le_succ ih)

/-- What is spelt before a quote is a closed literal. -/
theorem literal_of_spells {written content : List Char} (h : Spells written content)
    (rest : List Char) : literal (written ++ '"' :: rest) = .closed written content rest := by
  induction h with
  | nil => exact literal_quote rest
  | plain hquote hback _ ih =>
    rw [List.cons_append, literal_plain hquote hback, ih]
    rfl
  | escape hmeant _ ih =>
    rw [List.cons_append, List.cons_append, literal_escape hmeant, ih]
    rfl

theorem Literal.behind_eq_closed {lit : Literal} {front written content rest : List Char}
    {meant : Char} (h : lit.behind front meant = .closed written content rest) :
    ∃ written' content', lit = .closed written' content' rest ∧ written = front ++ written' ∧
      content = meant :: content' := by
  cases lit with
  | closed written' content' rest' =>
    obtain ⟨rfl, rfl, rfl⟩ := Literal.closed.inj h
    exact ⟨written', content', rfl, rfl, rfl⟩
  | unclosed => cases h
  | malformed => cases h

/-- A literal is closed exactly where a content is spelt before a quote. -/
theorem literal_eq_closed {cs written content rest : List Char} :
    literal cs = .closed written content rest
      ↔ cs = written ++ '"' :: rest ∧ Spells written content := by
  constructor
  · intro h
    fun_induction literal cs generalizing written content with
    | case1 => cases h
    | case2 cs => cases h; exact ⟨rfl, .nil⟩
    | case3 => cases h
    | case4 e cs meant hmeant _ ih =>
      obtain ⟨written', content', hlit, rfl, rfl⟩ := Literal.behind_eq_closed h
      obtain ⟨rfl, hspells⟩ := ih hlit
      exact ⟨rfl, .escape hmeant hspells⟩
    | case5 => cases h
    | case6 c cs hquote hback ih =>
      obtain ⟨written', content', hlit, rfl, rfl⟩ := Literal.behind_eq_closed h
      obtain ⟨rfl, hspells⟩ := ih hlit
      exact ⟨rfl, .plain hquote hback hspells⟩
  · intro hparts
    obtain ⟨rfl, hspells⟩ := hparts
    exact literal_of_spells hspells rest

theorem Literal.behind_eq_malformed {lit : Literal} {front written rest : List Char} {meant : Char}
    (h : lit.behind front meant = .malformed written rest) :
    ∃ written', lit = .malformed written' rest ∧ written = front ++ written' := by
  cases lit with
  | malformed written' rest' =>
    obtain ⟨rfl, rfl⟩ := Literal.malformed.inj h
    exact ⟨written', rfl, rfl⟩
  | closed => cases h
  | unclosed => cases h

/-- A literal is malformed exactly where a spelt beginning is followed by a backslash and a
character that it does not escape. -/
theorem literal_eq_malformed {cs written rest : List Char} :
    literal cs = .malformed written rest ↔
      ∃ body content e tail, Spells body content ∧ escapes.lookup e = none ∧
        written = body ++ ['\\'] ∧ rest = e :: tail ∧ cs = written ++ rest := by
  constructor
  · intro h
    fun_induction literal cs generalizing written with
    | case1 => cases h
    | case2 => cases h
    | case3 => cases h
    | case4 d cs meant hmeant _ ih =>
      obtain ⟨written', hlit, rfl⟩ := Literal.behind_eq_malformed h
      obtain ⟨body, content, e, tail, hspells, he, rfl, rfl, rfl⟩ := ih hlit
      exact ⟨_, _, e, tail, .escape hmeant hspells, he, rfl, rfl, rfl⟩
    | case5 e cs he =>
      obtain ⟨rfl, rfl⟩ := Literal.malformed.inj h
      exact ⟨[], [], e, cs, .nil, he, rfl, rfl, rfl⟩
    | case6 c cs hquote hback ih =>
      obtain ⟨written', hlit, rfl⟩ := Literal.behind_eq_malformed h
      obtain ⟨body, content, e, tail, hspells, he, rfl, rfl, rfl⟩ := ih hlit
      exact ⟨_, _, e, tail, .plain hquote hback hspells, he, rfl, rfl, rfl⟩
  · intro hparts
    obtain ⟨body, content, e, tail, hspells, he, rfl, rfl, rfl⟩ := hparts
    rw [List.append_assoc, List.singleton_append]
    induction hspells with
    | nil => exact literal_malformed he tail
    | plain hquote hback _ ih =>
      rw [List.cons_append, literal_plain hquote hback, ih]
      rfl
    | escape hmeant _ ih =>
      rw [List.cons_append, List.cons_append, literal_escape hmeant, ih]
      rfl

/-- Every content is spelt by its written form. -/
theorem spells_escaped (content : List Char) : Spells (content.flatMap Token.escaped) content := by
  induction content with
  | nil => exact .nil
  | cons c content ih =>
    rw [List.flatMap_cons, Token.escaped]
    split
    · subst c; exact .escape rfl ih
    split
    · subst c; exact .escape rfl ih
    split
    · subst c; exact .escape rfl ih
    split
    · subst c; exact .escape rfl ih
    · rename_i hback _ _ hquote
      exact .plain hquote hback ih

end ServiceSyntax.Lexis
