import ServiceSyntax.Proofs.Lexis.Joined
import ServiceSyntax.Proofs.Scan.Tokenize

/-!
# Scanning texts joined by a line feed

The scanner gives the tokens of a text of two parts with a line feed between them part by part: those
of the first part as they are, and those of the second part as many lines further down as the first
part has (`tokens_joined`).
-/

namespace ServiceSyntax

open Scan Text Lexis

/-- A token some lines further down. -/
def Located.lowered (count : Nat) (located : Located) : Located :=
  { located with line := located.line + count }

namespace Lexis

variable {before lead : List Char} {p : Piece} {ps : List Piece}

/-! ## Places of pieces -/

theorem locateAll_append (before : List Char) (ps others : List Piece) :
    locateAll before (ps ++ others) = locateAll before ps
      ++ locateAll (before ++ ps.flatMap Piece.chars) others := by
  induction ps generalizing before with
  | nil => simp [locateAll]
  | cons p ps ih => simp [locateAll, ih, List.append_assoc]

/-- A longer gap in front of a piece is like more text in front of it. -/
theorem locateAll_behind (before lead : List Char) (ps : List Piece) :
    locateAll before (behind lead ps) = locateAll (before ++ lead) ps := by
  cases ps with
  | nil => rfl
  | cons p ps => simp [behind, locateAll, Piece.locate, Piece.chars, List.append_assoc]

theorem locate_lowered (front before : List Char) (hp : p.token.kind ≠ .endOfFile) :
    p.locate (front ++ '\n' :: before) = (p.locate before).lowered (front.count '\n' + 1) := by
  have hne : p.token ≠ ⟨.endOfFile, ""⟩ := fun heq => hp (congrArg Token.kind heq)
  obtain ⟨hline, hcolumn⟩ := place_append_newline front (before ++ p.gap)
  rw [Piece.locate, Piece.locate, if_neg hne, if_neg hne, List.append_assoc, List.cons_append,
    hline, hcolumn]
  rfl

/-- Behind a line feed the tokens stand further down, in the same columns. -/
theorem locateAll_lowered (front before : List Char)
    (hps : ∀ p ∈ ps, p.token.kind ≠ .endOfFile) :
    locateAll (front ++ '\n' :: before) ps
      = (locateAll before ps).map (Located.lowered (front.count '\n' + 1)) := by
  induction ps generalizing before with
  | nil => rfl
  | cons p ps ih =>
    rw [List.forall_mem_cons] at hps
    have hplace : front ++ '\n' :: before ++ p.chars = front ++ '\n' :: (before ++ p.chars) := by
      simp
    rw [locateAll, locateAll, List.map_cons, locate_lowered front before hps.1, hplace, ih _ hps.2]

theorem dropLast_locateAll (before : List Char) (ps : List Piece) (p : Piece) :
    (locateAll before (ps ++ [p])).dropLast = locateAll before ps := by
  rw [locateAll_append, locateAll, locateAll, List.dropLast_concat]

/-- The pieces of two texts joined by a line feed stand where those of the texts stand, each by
itself; the second ones are lowered. -/
theorem locateAll_joined {text gap last : List Char} {front others : List Piece}
    (hfront : (front ++ [Piece.last gap]).flatMap Piece.chars = text)
    (hothers : ∀ p ∈ others, p.token.kind ≠ .endOfFile) :
    locateAll [] (front ++ behind (gap ++ ['\n']) (others ++ [.last last]))
      = locateAll [] front ++ (locateAll [] others).map (Located.lowered (text.count '\n' + 1))
        ++ [Piece.locate (text ++ '\n' :: others.flatMap Piece.chars)
          (.last last)] := by
  -- what is in front of the second text is the first one with the line feed
  have hplace : front.flatMap Piece.chars ++ (gap ++ ['\n'])
      = text ++ '\n' :: [] := by
    rw [← hfront, List.flatMap_append, List.flatMap_singleton, List.append_assoc]
    simp [Piece.chars, Piece.last]
  have hlast : text ++ '\n' :: [] ++ others.flatMap Piece.chars
      = text ++ '\n' :: others.flatMap Piece.chars := by simp
  rw [locateAll_append, locateAll_behind, List.nil_append, hplace, locateAll_append,
    locateAll_lowered text [] hothers, hlast, List.append_assoc]
  rfl

end Lexis

/-- Where all that a text begins has an end there, a line feed and another text behind it are scanned
as if each of the texts stood by itself. The tokens of the first one keep their positions; those of
the second one keep their columns, and their lines are counted on. Scanning fails exactly where it
fails in the second text. -/
theorem tokens_joined (a b source : String) {ts : List Located}
    (ha : (Scanner.ofText a source).tokens.1 = .ok ts)
    (hclosed : ∀ located ∈ ts, located.token.isUnclosed = false) :
    (∀ us, (Scanner.ofText b source).tokens.1 = .ok us →
      (∃ last, last.token = ⟨.endOfFile, ""⟩ ∧
        (Scanner.ofText (a ++ "\n" ++ b) source).tokens.1
          = .ok (ts.dropLast ++ us.dropLast.map (Located.lowered (a.toList.count '\n' + 1))
            ++ [last])) ∧
      tokenize (a ++ "\n" ++ b) source = .ok ((ts.dropLast ++ us).map Located.token)) ∧
    ((∃ e, (Scanner.ofText (a ++ "\n" ++ b) source).tokens.1 = .error e) ↔
      ∃ e, (Scanner.ofText b source).tokens.1 = .error e) := by
  have htext : (a ++ "\n" ++ b).toList = a.toList ++ '\n' :: b.toList := by simp
  obtain ⟨ps, hps, rfl⟩ := Scanner.exists_pieces_of_tokens ha
  obtain ⟨front, gap, rfl, -, hfront⟩ := exists_of_pieces_ok hps
  have hopen : ∀ p ∈ front, p.token.isUnclosed = false := by
    intro p hp
    have hmem : p.token ∈ (locateAll [] (front ++ [.last gap])).map Located.token := by
      rw [map_token_locateAll]
      exact List.mem_map_of_mem (List.mem_append_left _ hp)
    obtain ⟨located, hlocated, htoken⟩ := List.mem_map.1 hmem
    exact htoken ▸ hclosed located hlocated
  have hjoined := pieces_joined hps hopen b.toList
  constructor
  · intro us hb
    obtain ⟨qs, hqs, rfl⟩ := Scanner.exists_pieces_of_tokens hb
    obtain ⟨others, last, rfl, hothers, -⟩ := exists_of_pieces_ok hqs
    have hlocated : (Scanner.ofText (a ++ "\n" ++ b) source).tokens.1
        = .ok (locateAll [] (front ++ behind (gap ++ ['\n']) (others ++ [.last last]))) := by
      rw [Scanner.tokens_ofText, htext, hjoined, hqs]
      rfl
    rw [dropLast_locateAll, dropLast_locateAll]
    constructor
    · rw [hlocated, locateAll_joined hfront fun p hp => (hothers p hp).1]
      exact ⟨_, rfl, rfl⟩
    · rw [tokenize, hlocated]
      simp only [Except.map, List.map_append, map_token_locateAll, map_token_behind]
  · -- all that can fail is in the pieces of the second text
    rw [Scanner.tokens_ofText, Scanner.tokens_ofText, htext, hjoined]
    cases pieces b.toList with
    | ok qs =>
      constructor
      · rintro ⟨e, he⟩
        cases he
      · rintro ⟨e, he⟩
        cases he
    | error rest => exact ⟨fun _ => ⟨_, rfl⟩, fun _ => ⟨_, rfl⟩⟩

/-- A comment up to the end of its text, and behind the line feed an empty line. -/
theorem tokens_joined_comment :
    let first : List Located := [⟨⟨.integer, "1"⟩, 1, 0⟩, ⟨⟨.endOfFile, ""⟩, 1, 6⟩]
    let second : List Located := [⟨⟨.integer, "-2"⟩, 2, 0⟩, ⟨⟨.endOfFile, ""⟩, 2, 2⟩]
    (Scanner.ofText "1 // x" "text").tokens.1 = .ok first ∧
      (∀ located ∈ first, located.token.isUnclosed = false) ∧
      (Scanner.ofText "\n-2" "text").tokens.1 = .ok second ∧
      (∃ last, last.token = ⟨.endOfFile, ""⟩ ∧
        (Scanner.ofText ("1 // x" ++ "\n" ++ "\n-2") "text").tokens.1
          = .ok [⟨⟨.integer, "1"⟩, 1, 0⟩, ⟨⟨.integer, "-2"⟩, 3, 0⟩, last]) := by
  intro first second
  have hfirst : (Scanner.ofText "1 // x" "text").tokens.1 = .ok first := by
    let s : Scanner := .ofText "1 // x" "text"
    have hnext : s.next = (.ok ⟨.integer, "1"⟩, s.next.2) := Prod.ext rfl rfl
    have hend : s.next.2.next = (.ok ⟨.endOfFile, ""⟩, s.next.2.next.2) := Prod.ext rfl rfl
    rw [Scanner.tokens_of_token hnext (by decide), Scanner.tokens_of_endOfFile hend]
    exact congrArg Except.ok (by decide +kernel)
  have hsecond : (Scanner.ofText "\n-2" "text").tokens.1 = .ok second := by
    let s : Scanner := .ofText "\n-2" "text"
    have hnext : s.next = (.ok ⟨.integer, "-2"⟩, s.next.2) := Prod.ext rfl rfl
    have hend : s.next.2.next = (.ok ⟨.endOfFile, ""⟩, s.next.2.next.2) := Prod.ext rfl rfl
    rw [Scanner.tokens_of_token hnext (by decide), Scanner.tokens_of_endOfFile hend]
    exact congrArg Except.ok (by decide +kernel)
  have hclosed : ∀ located ∈ first, located.token.isUnclosed = false := by decide
  obtain ⟨last, hlast, hjoined⟩ :=
    ((tokens_joined "1 // x" "\n-2" "text" hfirst hclosed).1 second hsecond).1
  exact ⟨hfirst, hclosed, hsecond, last, hlast, hjoined⟩

end ServiceSyntax
