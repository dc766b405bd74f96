import ServiceSyntax.Proofs.Scan.Course

/-!
# The turns of the scanning loop

A scan is a loop: each turn looks at one character, or at the end of the source, in the state that
the turn before has left, and takes up a line where the present one is over. Not every turn consumes
something, for a line comment ends in front of its line feed, so what becomes smaller is counted
from the characters, the lines and the state together (`cost_lt_of_turn`). Hence the loop comes to
its end, and what it ends with is the result of the scan (`turns_eq`).
-/

namespace ServiceSyntax.Scanner

open Scan

variable {s t : Scanner} {state state' : State} {lexeme lexeme' : String} {c : Char}
  {rest : List Char}

/-! ## One turn -/

/-- A turn at the end of the source. A line comment ends there, and one more turn follows. -/
def lastTurn (s : Scanner) (state : State) (lexeme : String) : Progress :=
  let s := if state = .start then s.markToken else s
  match step state none lexeme with
  | .error _ => .done (.error (s.errorAt .malformedEscape)) s
  | .ok look =>
    match look.emit with
    | some token => .done (.ok token) s
    | none => .going look.next (gained lexeme look) s

/-- One turn of the loop. -/
def turn (s : Scanner) (state : State) (lexeme : String) : Progress :=
  match s.rest, s.unread with
  | c :: rest, _ =>
    if s.layout ∧ state = .start ∧ c = '\n' then
      .done (.ok ⟨.newline, ""⟩) ({ s with metNewline := true }.markToken.advance c rest)
    else s.lookAt state lexeme c rest
  | [], line :: unread =>
    match s.load line unread with
    | (.error e, s) => .done (.error e) s
    | (.ok (), s) => .going state lexeme s
  | [], [] => s.lastTurn state lexeme

/-- The turns of the loop, as many as it may take; there is no result if it goes on behind them. -/
def turns (s : Scanner) (state : State) (lexeme : String) :
    Nat → Option (Except ScanError Token × Scanner)
  | 0 => none
  | n + 1 =>
    match s.turn state lexeme with
    | .done result s => some (result, s)
    | .going state lexeme s => s.turns state lexeme n

theorem turn_of_settled (hrest : s.rest = c :: rest) (hsettled : state.settled (some c) = state) :
    s.turn state lexeme = s.readChar state lexeme c rest := by
  simp only [turn, hrest, readChar, hsettled]

/-- In front of a line feed a line comment is over, and nothing else happens. -/
theorem turn_lineComment (hrest : s.rest = '\n' :: rest) (lexeme : String) :
    s.turn .lineComment lexeme = .going .start "" s := by
  have hstep : step .lineComment (some '\n') lexeme
      = .ok { next := .start, consume := false } := rfl
  simp [turn, hrest, lookAt, hstep, State.inBlockComment]

theorem turn_sound {chars : List Char} {unread : Source} (hrest : s.rest = [])
    (hunread : s.unread = .sound chars :: unread) (state : State) (lexeme : String) :
    s.turn state lexeme = .going state lexeme (s.taken chars unread) := by
  simp only [turn, hrest, hunread]
  rfl

theorem turn_broken {line : SourceLine} {unread : Source} {e : ScanError} (hrest : s.rest = [])
    (hunread : s.unread = line :: unread) (hload : s.load line unread = (.error e, t))
    (state : State) (lexeme : String) : s.turn state lexeme = .done (.error e) t := by
  simp only [turn, hrest, hunread, hload]

/-- At the end of the source whatever has begun is over, be it a token or a gap. -/
theorem turn_over (hrest : s.rest = []) (hunread : s.unread = [])
    (hsettled : state.settled none = state) (lexeme : String) :
    s.turn state lexeme = .done (s.finish state lexeme).1 (s.finish state lexeme).2 := by
  have hemits : ∃ look token, step state none lexeme = .ok look ∧ look.emit = some token := by
    by_cases hstart : state = .start
    · subst hstart
      exact ⟨_, _, rfl, rfl⟩
    · obtain ⟨look, token, hstep, hemit, -⟩ :=
        exists_emit_of_step (by rwa [hsettled]) lexeme
      exact ⟨look, token, hsettled ▸ hstep, hemit⟩
  obtain ⟨⟨next, emit, consume, append⟩, token, hstep, hemit⟩ := hemits
  obtain rfl : emit = some token := hemit
  simp only [turn, hrest, hunread, lastTurn, finish, hsettled, hstep]

theorem turn_lineComment_over (hrest : s.rest = []) (hunread : s.unread = []) (lexeme : String) :
    s.turn .lineComment lexeme = .going .start "" s := by
  simp only [turn, hrest, hunread]
  rfl

/-- A state that is not settled is a line comment in front of its end. -/
theorem of_not_settled {look : Option Char} (h : state.settled look ≠ state) :
    state = .lineComment ∧ (look = none ∨ look = some '\n') ∧ state.settled look = .start := by
  unfold State.settled at h ⊢
  split at h
  · rename_i hcomment
    exact ⟨hcomment.1, hcomment.2, if_pos hcomment⟩
  · exact absurd rfl h

/-! ## The whole loop -/

/-- The turns are those of the scan: where one is not the last, the scan goes on behind it. -/
theorem resume_eq_turn (s : Scanner) (state : State) (lexeme : String) :
    s.resume state lexeme = match s.turn state lexeme with
      | .done result t => (result, t)
      | .going state' lexeme' t => t.resume state' lexeme' := by
  cases hrest : s.rest with
  | cons c rest =>
    by_cases hsettled : state.settled (some c) = state
    · rw [turn_of_settled hrest hsettled]
      exact resume_of_rest hrest state lexeme
    · obtain ⟨rfl, hlook, -⟩ := of_not_settled hsettled
      obtain rfl : c = '\n' := by simpa using hlook
      rw [turn_lineComment hrest, resume_of_rest hrest]
      exact (resume_of_rest hrest .start "").symm
  | nil =>
    cases hunread : s.unread with
    | cons line unread =>
      cases line with
      | sound chars => rw [turn_sound hrest hunread, resume_sound hrest hunread]
      | broken valid byte others =>
        rw [turn_broken hrest hunread rfl, resume_broken hrest hunread rfl]
    | nil =>
      by_cases hsettled : state.settled none = state
      · rw [turn_over hrest hunread hsettled, resume_over hrest hunread]
      · obtain ⟨rfl, -, -⟩ := of_not_settled hsettled
        rw [turn_lineComment_over hrest hunread, resume_over hrest hunread]
        exact (resume_over hrest hunread .start "").symm

/-- The characters that have not been consumed. -/
def left (s : Scanner) : List Char := s.rest ++ (s.unread.map SourceLine.chars).flatten

/-- How many turns there can still be: one for each character and one more where it ends a line
comment, and one for each line. -/
def cost (s : Scanner) (state : State) : Nat :=
  2 * s.left.length + s.unread.length + if state = .lineComment then 1 else 0

theorem length_left_of_rest (hrest : s.rest = c :: rest) (ht : t.rest = rest)
    (hunread : t.unread = s.unread) : s.left.length = t.left.length + 1 := by
  rw [left, left, hrest, ht, hunread]
  rfl

/-- Every turn but the last one makes the loop shorter. -/
theorem cost_lt_of_turn (h : s.turn state lexeme = .going state' lexeme' t) :
    t.cost state' < s.cost state := by
  cases hrest : s.rest with
  | cons c rest =>
    by_cases hsettled : state.settled (some c) = state
    · -- the character has been consumed
      rw [turn_of_settled hrest hsettled] at h
      obtain ⟨ht, hunread⟩ := rest_unread_readChar h
      have hleft := length_left_of_rest hrest ht hunread
      rw [cost, cost, hleft, hunread]
      split <;> omega
    · obtain ⟨rfl, hlook, -⟩ := of_not_settled hsettled
      obtain rfl : c = '\n' := by simpa using hlook
      rw [turn_lineComment hrest] at h
      cases h
      exact Nat.lt_succ_self _
  | nil =>
    cases hunread : s.unread with
    | cons line unread =>
      cases line with
      | sound chars =>
        rw [turn_sound hrest hunread] at h
        cases h
        have hleft : (s.taken chars unread).left = s.left := by
          rw [left, left, hrest, hunread]
          rfl
        rw [cost, cost, hleft, hunread]
        exact Nat.add_lt_add_right (Nat.lt_succ_self _) _
      | broken valid byte others =>
        rw [turn_broken hrest hunread rfl] at h
        cases h
    | nil =>
      by_cases hsettled : state.settled none = state
      · rw [turn_over hrest hunread hsettled] at h
        cases h
      · obtain ⟨rfl, -, -⟩ := of_not_settled hsettled
        rw [turn_lineComment_over hrest hunread] at h
        cases h
        exact Nat.lt_succ_self _

/-- With as many turns as there can be the loop comes to its end, and so does the scan. -/
theorem turns_eq {n : Nat} (hn : s.cost state < n) :
    s.turns state lexeme n = some (s.resume state lexeme) := by
  induction n generalizing s state lexeme with
  | zero => exact absurd hn (Nat.not_lt_zero _)
  | succ n ih =>
    rw [turns, resume_eq_turn]
    cases hturn : s.turn state lexeme with
    | done result t => rfl
    | going state' lexeme' t =>
      have hlt := cost_lt_of_turn hturn
      exact ih (by omega)

end ServiceSyntax.Scanner
