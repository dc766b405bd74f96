import ServiceSyntax.Scan.Scanner

/-!
# What a scanner has still to read

`Scanner.pending` counts the characters that have not been consumed and the broken lines that
have not been reported. Every token but the end-of-file token makes it smaller, and so does every
scan error (`pending_next_lt`), so reading all tokens of a source comes to an end.
-/

namespace ServiceSyntax.Scanner

open Scan

/-- Characters not consumed yet, and broken lines not reported yet. -/
def pendingIn : Source → Nat
  | [] => 0
  | line :: unread => line.chars.length + line.isBroken.toNat + pendingIn unread

theorem pendingIn_eq_add (unread : Source) : pendingIn unread
    = (unread.map SourceLine.chars).flatten.length + unread.countP SourceLine.isBroken := by
  induction unread with
  | nil => rfl
  | cons line unread ih =>
    rw [pendingIn, ih, List.map_cons, List.flatten_cons, List.length_append, List.countP_cons]
    cases line.isBroken <;> simp <;> omega

def pending (s : Scanner) : Nat := s.rest.length + pendingIn s.unread

@[simp] theorem pending_markToken (s : Scanner) : s.markToken.pending = s.pending := rfl

private theorem step_start_consume {c : Char} {lexeme : String} {look : Step}
    (h : step .start (some c) lexeme = .ok look) : look.consume = true := by
  simp only [step, fromStart, Except.ok.injEq] at h
  grind [after]

/-- A step that completes no token uses its character up. -/
theorem step_consume {state : State} {c : Char} {lexeme : String} {look : Step}
    (hc : state.settled (some c) = state)
    (h : step state (some c) lexeme = .ok look) (hemit : look.emit = none) :
    look.consume = true := by
  cases state <;> simp only [step, fromStart, Except.ok.injEq] at h <;>
    grind [after, before, fromOperator, Token.ofWord, State.settled]

/-- What one character or several leave to read: nothing is added, and where a scan stood
between tokens something has been read. -/
private def Shrinks (s : Scanner) (state : State) : Progress → Prop
  | .done _ s' => s'.pending ≤ s.pending ∧ (state = .start → s'.pending < s.pending)
  | .going _ _ s' => s'.pending < s.pending

private theorem shrinks_lookAt {s : Scanner} {state : State} (lexeme : String) {c : Char}
    {rest : List Char} (hs : s.rest = c :: rest) (hc : state.settled (some c) = state) :
    Shrinks s state (s.lookAt state lexeme c rest) := by
  have hp : s.pending = rest.length + 1 + pendingIn s.unread := by simp [pending, hs]
  unfold lookAt
  -- marking the token changes nothing that is still to be read
  generalize hm : (if state = .start ∧ !isSeparator c then s.markToken else s) = m
  have hmp : m.pending = s.pending := by subst hm; split <;> simp
  have hmu : m.unread = s.unread := by subst hm; split <;> rfl
  cases hstep : step state (some c) lexeme with
  | error e =>
    have : state ≠ .start := by
      rintro rfl
      simp [step] at hstep
    simp [Shrinks, this, hmp]
  | ok look =>
    have hstart : state = .start → look.consume = true := by
      rintro rfl
      exact step_start_consume hstep
    have hgo := step_consume hc hstep
    simp only
    -- the character is consumed or stays
    generalize hr : (if look.consume = true then m.advance c rest else m) = r
    have hrp : look.consume = true → r.pending < s.pending := by
      intro h
      simp only [h, if_true] at hr
      subst hr
      simp only [pending, advance, hmu]
      simp only [pending] at hp
      omega
    have hrle : r.pending ≤ s.pending := by
      cases h : look.consume with
      | true => exact Nat.le_of_lt (hrp h)
      | false =>
        simp only [h, Bool.false_eq_true, if_false] at hr
        subst hr
        exact Nat.le_of_eq hmp
    -- noting a line break changes nothing either
    generalize hq : (if c = '\n' ∧ (state = .start ∨ state.inBlockComment = true) then
      { r with metNewline := true } else r) = q
    have hqp : q.pending = r.pending := by subst hq; split <;> rfl
    cases hemit : look.emit with
    | some token => exact ⟨by omega, fun h => by have := hrp (hstart h); omega⟩
    | none =>
      have := hrp (hgo hemit)
      simp only
      split
      · split
        · exact ⟨by simp; omega, fun _ => by simp; omega⟩
        · simp only [Shrinks]; omega
      · simp only [Shrinks]; omega

theorem settled_settled (state : State) (look : Option Char) :
    (state.settled look).settled look = state.settled look := by
  unfold State.settled
  grind

private theorem shrinks_readChar {s : Scanner} (state : State) (lexeme : String) {c : Char}
    {rest : List Char} (hs : s.rest = c :: rest) :
    Shrinks s state (s.readChar state lexeme c rest) := by
  have hp : s.pending = rest.length + 1 + pendingIn s.unread := by simp [pending, hs]
  unfold readChar
  split
  · have : (({ s with metNewline := true } : Scanner).markToken.advance c rest).pending
        < s.pending := by
      simp only [pending, advance, markToken]
      simp only [pending] at hp
      omega
    exact ⟨Nat.le_of_lt this, fun _ => this⟩
  · have h := shrinks_lookAt lexeme hs (settled_settled state (some c))
    have hstart : state = .start → state.settled (some c) = .start := by
      rintro rfl
      simp [State.settled]
    revert h
    cases s.lookAt (state.settled (some c)) lexeme c rest with
    | done result s' => exact fun h => ⟨h.1, fun e => h.2 (hstart e)⟩
    | going st' lexeme' s' => exact fun h => h

theorem rest_unread_readChar {s s' : Scanner} {state state' : State}
    {lexeme lexeme' : String} {c : Char} {rest : List Char}
    (h : s.readChar state lexeme c rest = .going state' lexeme' s') :
    s'.rest = rest ∧ s'.unread = s.unread := by
  unfold readChar at h
  split at h
  · cases h
  · unfold lookAt at h
    cases hstep : step (state.settled (some c)) (some c) lexeme with
    | error e => simp [hstep] at h
    | ok look =>
      have hgo := step_consume (settled_settled state (some c)) hstep
      cases hemit : look.emit with
      | some token => simp [hstep, hemit] at h
      | none =>
        simp only [hstep, hemit, hgo hemit, if_true] at h
        grind [advance, markToken]

/-- Where nothing has been read the scan stands where it stood. -/
private def ShrinksOrStays (s : Scanner) (state : State) : Progress → Prop
  | .going state' _ s' => s'.pending < s.pending ∨ (s'.pending = s.pending ∧ state' = state)
  | progress => Shrinks s state progress

private theorem shrinks_readLine {s : Scanner} (state : State) (lexeme : String)
    {cs : List Char} (hs : s.rest = cs) :
    ShrinksOrStays s state (s.readLine state lexeme cs) := by
  induction cs generalizing s state lexeme with
  | nil => exact Or.inr ⟨rfl, rfl⟩
  | cons c rest ih =>
    have h := shrinks_readChar state lexeme hs
    rw [readLine]
    cases hr : s.readChar state lexeme c rest with
    | done result s' => rw [hr] at h; exact h
    | going state' lexeme' s' =>
      rw [hr] at h
      simp only [Shrinks] at h
      have h' := ih state' lexeme' (rest_unread_readChar hr).1
      simp only
      revert h'
      cases s'.readLine state' lexeme' rest with
      | done result s'' => exact fun h' => ⟨by have := h'.1; omega, fun _ => by have := h'.1; omega⟩
      | going state'' lexeme'' s'' =>
        intro h'
        simp only [ShrinksOrStays] at h' ⊢
        omega

private theorem unread_readLine {s : Scanner} {state : State} {lexeme : String}
    {cs : List Char} : ∀ {st lx s'}, s.readLine state lexeme cs = .going st lx s' →
    s'.unread = s.unread := by
  induction cs generalizing s state lexeme with
  | nil => intro st lx s' h; cases h; rfl
  | cons c rest ih =>
    intro st lx s' h
    rw [readLine] at h
    cases hr : s.readChar state lexeme c rest with
    | done => rw [hr] at h; cases h
    | going st' lx' s'' =>
      rw [hr] at h
      exact (ih h).trans (rest_unread_readChar hr).2

private theorem pending_load {s s' : Scanner} {line : SourceLine} {unread : Source}
    {r : Except ScanError Unit} (h : s.load line unread = (r, s')) :
    s'.pending ≤ line.chars.length + pendingIn unread ∧ (s'.unread = unread) := by
  cases line with
  | sound chars =>
    simp only [load, Prod.mk.injEq] at h
    obtain ⟨-, rfl⟩ := h
    simp [pending, SourceLine.chars]
  | broken valid byte others =>
    simp only [load, Prod.mk.injEq] at h
    obtain ⟨-, rfl⟩ := h
    simp [pending, SourceLine.chars]

private theorem pending_load_error {s s' : Scanner} {line : SourceLine} {unread : Source}
    {e : ScanError} (h : s.load line unread = (.error e, s')) :
    s'.pending < line.chars.length + line.isBroken.toNat + pendingIn unread := by
  have := (pending_load h).1
  cases line with
  | sound chars => simp [load] at h
  | broken valid byte others => simp only [SourceLine.isBroken, Bool.toNat_true]; omega

private theorem pending_finish (s : Scanner) (state : State) (lexeme : String) :
    (s.finish state lexeme).2.pending = s.pending := by
  unfold finish
  simp only
  split <;> split <;> rfl

private theorem finish_start (s : Scanner) (lexeme : String) :
    (s.finish .start lexeme).1 = .ok ⟨.endOfFile, ""⟩ := by
  simp [finish, State.settled, step, fromStart, before]

private theorem shrinks_readLines {s : Scanner} (state : State) (lexeme : String)
    {unread : Source} (hu : s.unread = unread) {r : Except ScanError Token} {s' : Scanner}
    (h : s.readLines state lexeme unread = (r, s')) :
    s'.pending ≤ s.pending ∧
      (state = .start → r = .ok ⟨.endOfFile, ""⟩ ∨ s'.pending < s.pending) := by
  induction unread generalizing s state lexeme with
  | nil =>
    have hl := shrinks_readLine (s := s) state lexeme rfl
    rw [readLines] at h
    cases hr : s.readLine state lexeme s.rest with
    | done result t =>
      rw [hr] at h hl
      obtain ⟨rfl, rfl⟩ := Prod.mk.injEq _ _ _ _ ▸ h
      exact ⟨hl.1, fun e => Or.inr (hl.2 e)⟩
    | going st lx t =>
      rw [hr] at h hl
      simp only at h
      have hf : s'.pending = t.pending := by rw [← pending_finish t st lx, h]
      simp only [ShrinksOrStays] at hl
      refine ⟨by omega, ?_⟩
      rintro rfl
      rcases hl with hl | ⟨-, rfl⟩
      · exact Or.inr (by omega)
      · exact Or.inl (by rw [← finish_start t lx, h])
  | cons line unread ih =>
    have hl := shrinks_readLine (s := s) state lexeme rfl
    rw [readLines] at h
    cases hr : s.readLine state lexeme s.rest with
    | done result t =>
      rw [hr] at h hl
      obtain ⟨rfl, rfl⟩ := Prod.mk.injEq _ _ _ _ ▸ h
      exact ⟨hl.1, fun e => Or.inr (hl.2 e)⟩
    | going st lx t =>
      rw [hr] at h hl
      have htu : t.unread = line :: unread := (unread_readLine hr).trans hu
      have htp : line.chars.length + line.isBroken.toNat + pendingIn unread ≤ t.pending := by
        simp only [pending, htu, pendingIn]
        omega
      simp only at h
      simp only [ShrinksOrStays] at hl
      cases hload : t.load line unread with
      | mk result u =>
        rw [hload] at h
        have hp := pending_load hload
        cases result with
        | error e =>
          obtain ⟨rfl, rfl⟩ := Prod.mk.injEq _ _ _ _ ▸ h
          have := pending_load_error hload
          exact ⟨by omega, fun _ => Or.inr (by omega)⟩
        | ok =>
          have ht := ih st lx hp.2 h
          have hle := ht.1
          refine ⟨by omega, ?_⟩
          rintro rfl
          rcases hl with hl | ⟨hl, rfl⟩
          · exact Or.inr (by omega)
          · rcases ht.2 rfl with ht' | ht'
            · exact Or.inl ht'
            · exact Or.inr (by omega)

/-- Every result but the end-of-file token leaves less to read. -/
theorem pending_next_lt {s s' : Scanner} {r : Except ScanError Token} (h : s.next = (r, s'))
    (hr : r ≠ .ok ⟨.endOfFile, ""⟩) : s'.pending < s.pending :=
  ((shrinks_readLines .start "" (s := { s with metNewline := false }) rfl h).2 rfl).resolve_left hr

private theorem pending_skipChars {s : Scanner} (skipped : Nat) {cs : List Char}
    (hs : s.rest = cs) :
    (s.skipChars skipped cs).2.2.pending ≤ s.pending ∧
      (s.skipChars skipped cs).2.2.unread = s.unread := by
  induction cs generalizing s skipped with
  | nil => exact ⟨Nat.le_refl _, rfl⟩
  | cons c rest ih =>
    have hp : (s.advance c rest).pending ≤ s.pending := by simp [pending, advance, hs]
    rw [skipChars]
    split
    · exact ⟨hp, rfl⟩
    · have h := ih (s := s.advance c rest) (skipped + 1) rfl
      exact ⟨Nat.le_trans h.1 hp, h.2⟩

private theorem pending_skipLines {s : Scanner} (skipped : Nat) {unread : Source}
    (hu : s.unread = unread) : (s.skipLines skipped unread).2.pending ≤ s.pending := by
  induction unread generalizing s skipped with
  | nil =>
    have h := pending_skipChars (s := s) skipped rfl
    rw [skipLines]
    split <;> simp_all
  | cons line unread ih =>
    have h := pending_skipChars (s := s) skipped rfl
    rw [skipLines]
    split
    · simp_all
    · rename_i n t hskip
      rw [hskip] at h
      simp only at h ⊢
      have htp : line.chars.length + line.isBroken.toNat + pendingIn unread ≤ t.pending := by
        simp only [pending, h.2, hu, pendingIn]
        omega
      cases hload : t.load line unread with
      | mk result u =>
        have hp := pending_load hload
        cases result with
        | error e => simp only; omega
        | ok =>
          have := ih (s := u) n hp.2
          simp only
          omega

/-- Recovery never adds to what is left to read. -/
theorem pending_skipLine_le (s : Scanner) : s.skipLine.2.pending ≤ s.pending :=
  pending_skipLines 0 rfl

end ServiceSyntax.Scanner
