import ServiceSyntax.Proofs.Lexis.Lexeme

/-!
# The tokens of a text

The lexical grammar on a whole text: a text begins with a gap and goes on with a lexeme. `read`
finds both, each as long as it can be, and `tokens` repeats it up to the end of the text or to a
backslash that escapes nothing. There are no lines here and no positions.
-/

namespace ServiceSyntax.Lexis

/-- The first gap of a text and what stands behind it. -/
structure Reading where
  gap : List Char
  lexeme : Lexeme
deriving Repr, DecidableEq

/-- What a text begins with. -/
def read (cs : List Char) : Reading := ⟨(skip cs).1, lexeme (skip cs).2⟩

/-- A token read is made up of the characters in front of the rest. -/
theorem append_of_read {cs gap written rest : List Char} {t : Token}
    (h : read cs = ⟨gap, .token written t rest⟩) :
    cs = gap ++ (written ++ rest) ∧ IsLexeme written t rest := by
  obtain ⟨rfl, hlexeme⟩ := Reading.mk.inj h
  obtain ⟨hskip, hlooks⟩ := lexeme_eq_token.1 hlexeme
  refine ⟨?_, hlooks⟩
  rw [← hskip, skip_append_skip]

/-- In front of a token stands a gap. -/
theorem isGap_of_read {cs gap written rest : List Char} {t : Token}
    (h : read cs = ⟨gap, .token written t rest⟩) : IsGap gap := by
  obtain ⟨rfl, hlexeme⟩ := Reading.mk.inj h
  obtain ⟨hskip, hlooks⟩ := lexeme_eq_token.1 hlexeme
  apply isGap_skip
  rw [hskip]
  exact List.append_ne_nil_of_left_ne_nil hlooks.ne_nil _

/-- A gap in front of anything else is read as the gap. -/
theorem read_append {gap cs : List Char} (hgap : IsGap gap) (hcs : filler? cs = none) :
    read (gap ++ cs) = ⟨gap, lexeme cs⟩ := by
  rw [read, skip_append hgap, skip_of_none hcs, List.append_nil]

/-- A malformed literal is read exactly behind a gap, where a quote and a spelt beginning are
followed by a backslash and a character that it does not escape. -/
theorem read_eq_malformed {cs gap written rest : List Char} :
    read cs = ⟨gap, .malformed written rest⟩ ↔
      ∃ body content e tail, IsGap gap ∧ Spells body content ∧ escapes.lookup e = none ∧
        written = '"' :: body ++ ['\\'] ∧ rest = e :: tail ∧ cs = gap ++ (written ++ rest) := by
  constructor
  · intro h
    obtain ⟨rfl, hlexeme⟩ := Reading.mk.inj h
    obtain ⟨body, content, e, tail, hspells, he, rfl, rfl, hskip⟩ := lexeme_eq_malformed.1 hlexeme
    have hne : (skip cs).2 ≠ [] := by
      rw [hskip]
      exact List.append_ne_nil_of_left_ne_nil (List.cons_ne_nil _ _) _
    exact ⟨body, content, e, tail, isGap_skip hne, hspells, he, rfl, rfl,
      by rw [← hskip, skip_append_skip]⟩
  · intro hparts
    obtain ⟨body, content, e, tail, hgap, hspells, he, rfl, rfl, rfl⟩ := hparts
    have hlexeme := lexeme_eq_malformed.2 ⟨body, content, e, tail, hspells, he, rfl, rfl, rfl⟩
    have hfiller : filler? ('"' :: body ++ ['\\'] ++ e :: tail) = none := rfl
    rw [read_append hgap hfiller, hlexeme]

theorem append_of_read_malformed {cs gap written rest : List Char}
    (h : read cs = ⟨gap, .malformed written rest⟩) : cs = gap ++ (written ++ rest) := by
  obtain ⟨-, -, -, -, -, -, -, -, -, hcs⟩ := read_eq_malformed.1 h
  exact hcs

/-- Where the end of the text is read nothing but a gap stands in front of it. -/
theorem of_read_endOfText {cs gap : List Char} (h : read cs = ⟨gap, .endOfText⟩) :
    skip cs = (cs, []) ∧ gap = cs := by
  obtain ⟨rfl, hlexeme⟩ := Reading.mk.inj h
  have hskip := skip_append_skip cs
  rw [eq_nil_of_lexeme hlexeme, List.append_nil] at hskip
  exact ⟨Prod.ext hskip (eq_nil_of_lexeme hlexeme), hskip⟩

theorem length_of_read {cs gap written rest : List Char} {t : Token}
    (h : read cs = ⟨gap, .token written t rest⟩) : rest.length < cs.length := by
  obtain ⟨rfl, hlooks⟩ := append_of_read h
  have hpos := List.length_pos_iff.2 hlooks.ne_nil
  rw [List.length_append, List.length_append]
  omega

/-- The tokens of a text, the end-of-file token last; or else what is left of the text from the
character on that a backslash does not escape. -/
def tokens (cs : List Char) : Except (List Char) (List Token) :=
  match _h : read cs with
  | ⟨_, .token _ t rest⟩ => (tokens rest).map (t :: ·)
  | ⟨_, .endOfText⟩ => .ok [⟨.endOfFile, ""⟩]
  | ⟨_, .malformed _ rest⟩ => .error rest
termination_by cs.length
decreasing_by exact length_of_read _h

/-! ## Runs -/

/-- The tokens that can be read in front of a part of a text. -/
inductive Leads : List Char → List Token → List Char → Prop
  | refl (cs : List Char) : Leads cs [] cs
  | step {cs gap written rest last : List Char} {t : Token} {ts : List Token} :
      read cs = ⟨gap, .token written t rest⟩ → Leads rest ts last → Leads cs (t :: ts) last

theorem tokens_of_token {cs gap written rest : List Char} {t : Token}
    (h : read cs = ⟨gap, .token written t rest⟩) : tokens cs = (tokens rest).map (t :: ·) := by
  rw [tokens]
  split <;> simp_all

theorem tokens_of_endOfText {cs gap : List Char} (h : read cs = ⟨gap, .endOfText⟩) :
    tokens cs = .ok [⟨.endOfFile, ""⟩] := by
  rw [tokens]
  split <;> simp_all

theorem tokens_of_malformed {cs gap written rest : List Char}
    (h : read cs = ⟨gap, .malformed written rest⟩) : tokens cs = .error rest := by
  rw [tokens]
  split <;> simp_all

/-- Reading the tokens of a text fails exactly where they lead to a malformed literal. -/
theorem tokens_eq_error {cs rest : List Char} :
    tokens cs = .error rest ↔
      ∃ ts gap body content e tail, Leads cs ts (gap ++ '"' :: body ++ '\\' :: e :: tail) ∧
        IsGap gap ∧ Spells body content ∧ escapes.lookup e = none ∧ rest = e :: tail := by
  constructor
  · intro h
    fun_induction tokens cs with
    | case1 cs gap written t rest' hread ih =>
      cases htokens : tokens rest' with
      | ok ts => rw [htokens] at h; cases h
      | error r =>
        rw [htokens] at h ih
        obtain ⟨ts, gap', body, content, e, tail, hleads, hlast⟩ := ih h
        exact ⟨t :: ts, gap', body, content, e, tail, .step hread hleads, hlast⟩
    | case2 => cases h
    | case3 cs gap written rest' hread =>
      cases h
      obtain ⟨body, content, e, tail, hgap, hspells, he, rfl, rfl, rfl⟩ := read_eq_malformed.1 hread
      refine ⟨[], gap, body, content, e, tail, ?_, hgap, hspells, he, rfl⟩
      simpa using Leads.refl _
  · intro hparts
    obtain ⟨ts, gap, body, content, e, tail, hleads, hgap, hspells, he, rfl⟩ := hparts
    -- the induction is on the tokens in front, so the malformed rest gets a name
    generalize hlast : gap ++ '"' :: body ++ '\\' :: e :: tail = last at hleads
    induction hleads with
    | refl cs =>
      have hread : read cs = ⟨gap, .malformed ('"' :: body ++ ['\\']) (e :: tail)⟩ :=
        read_eq_malformed.2 ⟨body, content, e, tail, hgap, hspells, he, rfl, rfl, by simp [← hlast]⟩
      exact tokens_of_malformed hread
    | step hread _ ih => rw [tokens_of_token hread, ih hlast]; rfl

/-- The tokens of a text end with the only end-of-file token. -/
theorem exists_of_tokens_ok {cs : List Char} {ts : List Token} (h : tokens cs = .ok ts) :
    ∃ others, ts = others ++ [⟨.endOfFile, ""⟩] ∧ ∀ t ∈ others, t.kind ≠ .endOfFile := by
  fun_induction tokens cs generalizing ts with
  | case1 cs gap written t rest hread ih =>
    cases htokens : tokens rest with
    | error r => rw [htokens] at h; cases h
    | ok ts' =>
      rw [htokens] at h
      obtain rfl := Except.ok.inj h
      obtain ⟨others, rfl, hothers⟩ := ih htokens
      have hne := (lexeme_eq_token.1 (Reading.mk.inj hread).2).2.kind_ne.1
      refine ⟨t :: others, rfl, ?_⟩
      intro t' ht'
      rcases List.mem_cons.1 ht' with rfl | ht'
      · exact hne
      · exact hothers t' ht'
  | case2 => cases h; exact ⟨[], rfl, by simp⟩
  | case3 => cases h

end ServiceSyntax.Lexis
