import ServiceSyntax.Scan.Automaton

/-!
# Gaps between tokens

Between two tokens stand separators and comments. `skip` divides a text behind its first gap, which
is as long as it can be, and `IsGap` says what such a gap is made of. A gap in front of a text is
skipped whole (`skip_append`), and what is skipped in front of a token is a gap (`isGap_skip`).
-/

namespace ServiceSyntax.Lexis

open Scan

/-! ## Separators -/

theorem isWordChar_of_isSeparator {c : Char} (h : isSeparator c = true) : isWordChar c = false := by
  simp only [isSeparator, Bool.or_eq_true, decide_eq_true_iff] at h
  rcases h with ((rfl | rfl) | rfl) | rfl <;> decide

theorem isSeparator_of_isWordChar {c : Char} (h : isWordChar c = true) : isSeparator c = false := by
  rw [Bool.eq_false_iff]
  intro hsep
  rw [isWordChar_of_isSeparator hsep] at h
  cases h

/-! ## Comments -/

/-- A text divided at its first `*/`, which belongs to neither part. -/
def splitAtClose? : List Char → Option (List Char × List Char)
  | [] => none
  | c :: cs =>
    if c = '*' ∧ cs.head? = some '/' then some ([], cs.tail)
    else (splitAtClose? cs).map fun (body, rest) => (c :: body, rest)

/-- A text closes a comment exactly behind a part that does not close it already. -/
theorem splitAtClose?_eq_some {cs body rest : List Char} :
    splitAtClose? cs = some (body, rest)
      ↔ cs = body ++ '*' :: '/' :: rest ∧ ¬ ['*', '/'] <:+: body := by
  induction cs generalizing body with
  | nil => simp [splitAtClose?]
  | cons c cs ih =>
    rw [splitAtClose?]
    by_cases hclose : c = '*' ∧ cs.head? = some '/'
    · rw [if_pos hclose]
      obtain ⟨rfl, hhead⟩ := hclose
      obtain ⟨tail, rfl⟩ := List.head?_eq_some_iff.1 hhead
      cases body with
      | nil => simp
      | cons b body =>
        -- a longer body would hold the close that stands here
        have hno : ('*' :: '/' :: tail = b :: body ++ '*' :: '/' :: rest) →
            ['*', '/'] <:+: b :: body := by
          intro heq
          cases body with
          | nil => simp at heq
          | cons b' body =>
            simp only [List.cons_append, List.cons.injEq] at heq
            obtain ⟨rfl, rfl, -⟩ := heq
            exact ⟨[], body, rfl⟩
        grind
    · rw [if_neg hclose, Option.map_eq_some_iff]
      constructor
      · intro hparts
        obtain ⟨⟨body', rest'⟩, hsplit, heq⟩ := hparts
        obtain ⟨rfl, rfl⟩ := Prod.mk.inj heq
        obtain ⟨rfl, hbody⟩ := ih.1 hsplit
        refine ⟨rfl, fun hinfix => ?_⟩
        rcases List.infix_cons_iff.1 hinfix with ⟨t, ht⟩ | hinfix
        · obtain ⟨rfl, rfl⟩ := List.cons.inj ht
          exact hclose ⟨rfl, rfl⟩
        · exact hbody hinfix
      · intro hparts
        obtain ⟨heq, hbody⟩ := hparts
        cases body with
        | nil =>
          obtain ⟨rfl, rfl⟩ := List.cons.inj heq
          exact absurd ⟨rfl, rfl⟩ hclose
        | cons b body =>
          obtain ⟨rfl, rfl⟩ := List.cons.inj heq
          exact ⟨(body, rest), ih.2 ⟨rfl, fun h => hbody (List.infix_cons h)⟩, rfl⟩

/-! ## Skipping -/

/-- The separator or the comment that a text begins with, and the text behind it. A line comment
ends in front of its line feed, a block comment behind its first `*/`. -/
def filler? : List Char → Option (List Char × List Char)
  | [] => none
  | c :: cs =>
    if isSeparator c then some ([c], cs)
    else if c = '/' ∧ cs.head? = some '/' then
      some (c :: cs.takeWhile (· != '\n'), cs.dropWhile (· != '\n'))
    else if c = '/' ∧ cs.head? = some '*' then
      (splitAtClose? cs.tail).map fun (body, rest) => ('/' :: '*' :: body ++ ['*', '/'], rest)
    else none

/-- What a separator or a comment in front of a text looks like. -/
inductive IsFiller : List Char → List Char → Prop
  | separator {c : Char} {rest : List Char} : isSeparator c = true → IsFiller [c] rest
  | lineComment {body rest : List Char} : '\n' ∉ body → (rest = [] ∨ rest.head? = some '\n') →
      IsFiller ('/' :: '/' :: body) rest
  | blockComment {body rest : List Char} : ¬ ['*', '/'] <:+: body →
      IsFiller ('/' :: '*' :: body ++ ['*', '/']) rest

theorem IsFiller.ne_nil {filler rest : List Char} (h : IsFiller filler rest) : filler ≠ [] := by
  cases h <;> simp

/-- A line is divided in front of its line feed. -/
theorem span_line {body rest : List Char} (hbody : '\n' ∉ body)
    (hrest : rest = [] ∨ rest.head? = some '\n') :
    (body ++ rest).takeWhile (· != '\n') = body ∧ (body ++ rest).dropWhile (· != '\n') = rest := by
  have hall : ∀ x ∈ body, (x != '\n') = true := by
    intro x hx
    rw [bne_iff_ne]
    intro heq
    subst heq
    exact hbody hx
  rw [List.takeWhile_append_of_pos hall, List.dropWhile_append_of_pos hall]
  cases rest with
  | nil => simp
  | cons c rest =>
    obtain rfl : c = '\n' := by simpa using hrest
    simp

/-- A text begins with a separator or a comment exactly where it looks so. -/
theorem filler?_eq_some {cs filler rest : List Char} :
    filler? cs = some (filler, rest) ↔ cs = filler ++ rest ∧ IsFiller filler rest := by
  constructor
  · intro h
    cases cs with
    | nil => simp [filler?] at h
    | cons c cs =>
      rw [filler?] at h
      split at h
      · rename_i hsep
        obtain ⟨rfl, rfl⟩ := Prod.mk.inj (Option.some.inj h)
        exact ⟨rfl, .separator hsep⟩
      split at h
      · rename_i hopen
        obtain ⟨rfl, hhead⟩ := hopen
        obtain ⟨tail, rfl⟩ := List.head?_eq_some_iff.1 hhead
        obtain ⟨rfl, rfl⟩ := Prod.mk.inj (Option.some.inj h)
        rw [List.takeWhile_cons_of_pos (by decide), List.dropWhile_cons_of_pos (by decide)]
        refine ⟨by simp, .lineComment (fun hmem => ?_) ?_⟩
        · have hall := List.all_takeWhile (p := (· != '\n')) (l := tail)
          rw [List.all_eq_true] at hall
          simpa using hall '\n' hmem
        · cases hdrop : tail.dropWhile (· != '\n') with
          | nil => exact Or.inl rfl
          | cons d rest =>
            have hd := List.head?_dropWhile_not (· != '\n') tail
            rw [hdrop] at hd
            exact Or.inr (by simpa using hd)
      split at h
      · rename_i hopen
        obtain ⟨rfl, hhead⟩ := hopen
        obtain ⟨tail, rfl⟩ := List.head?_eq_some_iff.1 hhead
        obtain ⟨⟨body, rest'⟩, hsplit, heq⟩ := Option.map_eq_some_iff.1 h
        obtain ⟨rfl, rfl⟩ := Prod.mk.inj heq
        obtain ⟨htail, hbody⟩ := splitAtClose?_eq_some.1 hsplit
        rw [List.tail_cons] at htail
        exact ⟨by simp [htail], .blockComment hbody⟩
      · cases h
  · intro hparts
    obtain ⟨rfl, hfiller⟩ := hparts
    cases hfiller with
    | separator hsep => simp [filler?, hsep]
    | lineComment hbody hrest =>
      obtain ⟨htake, hdrop⟩ := span_line hbody hrest
      rw [List.cons_append, List.cons_append, filler?, if_neg (by decide),
        if_pos ⟨rfl, rfl⟩, List.takeWhile_cons_of_pos (by decide),
        List.dropWhile_cons_of_pos (by decide), htake, hdrop]
    | @blockComment body _ hbody =>
      have hsplit : splitAtClose? (body ++ '*' :: '/' :: rest) = some (body, rest) :=
        splitAtClose?_eq_some.2 ⟨rfl, hbody⟩
      simp [filler?, isSeparator, hsplit]

/-- What a text looks like that begins with no separator and no comment. -/
theorem of_filler?_none {c : Char} {cs : List Char} (h : filler? (c :: cs) = none) :
    isSeparator c = false ∧ (c = '/' → cs.head? ≠ some '/') ∧
      (c = '/' → cs.head? = some '*' → splitAtClose? cs.tail = none) := by
  rw [filler?] at h
  split at h
  · cases h
  · rename_i hsep
    refine ⟨by simpa using hsep, ?_, ?_⟩
    · intro hc hhead
      rw [if_pos ⟨hc, hhead⟩] at h
      cases h
    · intro hc hhead
      have hne : ¬ (c = '/' ∧ cs.head? = some '/') := by simp [hhead]
      rw [if_neg hne, if_pos ⟨hc, hhead⟩] at h
      simpa using h

theorem length_of_filler? {cs filler rest : List Char} (h : filler? cs = some (filler, rest)) :
    rest.length < cs.length := by
  obtain ⟨hcs, hfiller⟩ := filler?_eq_some.1 h
  have hpos := List.length_pos_iff.2 hfiller.ne_nil
  rw [hcs, List.length_append]
  omega

/-- The longest gap at the beginning of a text, and the text behind it. -/
def skip (cs : List Char) : List Char × List Char :=
  match _h : filler? cs with
  | none => ([], cs)
  | some (filler, rest) => (filler ++ (skip rest).1, (skip rest).2)
termination_by cs.length
decreasing_by all_goals exact length_of_filler? _h

theorem skip_of_none {cs : List Char} (h : filler? cs = none) : skip cs = ([], cs) := by
  rw [skip]
  split <;> simp_all

theorem skip_of_some {cs filler rest : List Char} (h : filler? cs = some (filler, rest)) :
    skip cs = (filler ++ (skip rest).1, (skip rest).2) := by
  rw [skip]
  split <;> simp_all

theorem skip_append_skip (cs : List Char) : (skip cs).1 ++ (skip cs).2 = cs := by
  fun_induction skip cs with
  | case1 => rfl
  | case2 cs filler rest h ih => rw [List.append_assoc, ih, ← (filler?_eq_some.1 h).1]

/-- Behind the longest gap stands neither a separator nor a comment. -/
theorem filler?_skip (cs : List Char) : filler? (skip cs).2 = none := by
  fun_induction skip cs with
  | case1 cs h => exact h
  | case2 cs filler rest h ih => exact ih

/-! ## What a gap is made of -/

/-- Separators, line comments with the line feed that ends them, and closed block comments. -/
inductive IsGap : List Char → Prop
  | nil : IsGap []
  | separator {c : Char} {gap : List Char} : isSeparator c = true → IsGap gap → IsGap (c :: gap)
  | lineComment {body gap : List Char} : '\n' ∉ body → IsGap gap →
      IsGap ('/' :: '/' :: body ++ '\n' :: gap)
  | blockComment {body gap : List Char} : ¬ ['*', '/'] <:+: body → IsGap gap →
      IsGap ('/' :: '*' :: body ++ '*' :: '/' :: gap)

/-- A gap in front of a text is skipped together with the gap of the text. -/
theorem skip_append {gap : List Char} (h : IsGap gap) (cs : List Char) :
    skip (gap ++ cs) = (gap ++ (skip cs).1, (skip cs).2) := by
  induction h with
  | nil => rfl
  | @separator c gap hsep _ ih =>
    have hfiller : filler? (c :: gap ++ cs) = some ([c], gap ++ cs) :=
      filler?_eq_some.2 ⟨rfl, .separator hsep⟩
    rw [skip_of_some hfiller, ih]
    rfl
  | @lineComment body gap hbody _ ih =>
    have hline : filler? ('/' :: '/' :: body ++ '\n' :: gap ++ cs)
        = some ('/' :: '/' :: body, '\n' :: (gap ++ cs)) :=
      filler?_eq_some.2 ⟨by simp, .lineComment hbody (Or.inr rfl)⟩
    have hend : filler? ('\n' :: (gap ++ cs)) = some (['\n'], gap ++ cs) :=
      filler?_eq_some.2 ⟨rfl, .separator rfl⟩
    rw [skip_of_some hline, skip_of_some hend, ih]
    simp
  | @blockComment body gap hbody _ ih =>
    have hfiller : filler? ('/' :: '*' :: body ++ '*' :: '/' :: gap ++ cs)
        = some ('/' :: '*' :: body ++ ['*', '/'], gap ++ cs) :=
      filler?_eq_some.2 ⟨by simp, .blockComment hbody⟩
    rw [skip_of_some hfiller, ih]
    simp

/-- What is skipped in front of anything else is a gap: its comments are all closed. -/
theorem isGap_skip {cs : List Char} (h : (skip cs).2 ≠ []) : IsGap (skip cs).1 := by
  fun_induction skip cs with
  | case1 => exact .nil
  | case2 cs filler rest hfiller ih =>
    obtain ⟨-, hlooks⟩ := filler?_eq_some.1 hfiller
    have hgap := ih h
    cases hlooks with
    | separator hsep => exact .separator hsep hgap
    | blockComment hbody => simpa using IsGap.blockComment hbody hgap
    | lineComment hbody hrest =>
      -- the line feed that ends the comment is skipped next
      have hne : rest ≠ [] := by
        intro heq
        subst heq
        rw [skip_of_none rfl] at h
        exact h rfl
      obtain ⟨tail, rfl⟩ := List.head?_eq_some_iff.1 (hrest.resolve_left hne)
      have hend : filler? ('\n' :: tail) = some (['\n'], tail) :=
        filler?_eq_some.2 ⟨rfl, .separator rfl⟩
      rw [skip_of_some hend] at hgap ⊢
      cases hgap with
      | separator _ hgap => exact .lineComment hbody hgap

end ServiceSyntax.Lexis
