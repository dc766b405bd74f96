import ServiceSyntax.Proofs.Scan.Course

/-!
# Scanning beneath other lines

A scanner that has other lines above it reads like one that has none of them: it gives the same
tokens and the same faults at the same columns, only the numbers of the lines are higher by the
number of the lines above (`next_below`, `skipLine_below`). Where the end of the file stands is
left open for a source that has no line of its own.
-/

namespace ServiceSyntax

/-- The context that many lines further down. -/
def Context.below (n : Nat) (ctx : Context) : Context :=
  { ctx with startLine := ctx.startLine + n, endLine := ctx.endLine + n }

def ScanError.below (n : Nat) (e : ScanError) : ScanError :=
  { e with context := e.context.below n }

namespace Scanner

open Scan

variable {n : Nat} {s s' : Scanner} {state : State} {lexeme : String} {c : Char}
  {rest : List Char} {marked marked' : Prop}

/-! ## Places -/

/-- The second scanner stands where the first one does, beneath `n` further lines. -/
structure Beneath (n : Nat) (s s' : Scanner) : Prop where
  source_eq : s'.source = s.source
  layout_eq : s'.layout = s.layout
  unread_eq : s'.unread = s.unread
  rest_eq : s'.rest = s.rest
  exists_above : ∃ above : List String,
    above.length = n ∧ s'.retained.toList = above ++ s.retained.toList
  retained_ne : s.rest ≠ [] → s.retained ≠ #[]
  column_eq : s.rest ≠ [] → s'.column = s.column
  /-- Without a line of its own the second scanner may stand in the last line above. -/
  line_eq : s.retained ≠ #[] ∨ s.unread ≠ [] → s'.line = s.line + n

/-- Both scanners have come across the same line breaks; `marked` says that they have begun the
same token. -/
structure Level (n : Nat) (marked : Prop) (s s' : Scanner) : Prop extends Beneath n s s' where
  metNewline_eq : s'.metNewline = s.metNewline
  tokenLine_eq : marked → s'.tokenLine = s.tokenLine + n
  tokenColumn_eq : marked → s'.tokenColumn = s.tokenColumn

namespace Beneath

theorem currentLine_eq (h : Beneath n s s') (hne : s.retained ≠ #[]) :
    s'.currentLine = s.currentLine := by
  obtain ⟨above, -, habove⟩ := h.exists_above
  have hlist : s.retained.toList ≠ [] := by simpa using hne
  have hback : s'.retained.back? = s.retained.back? := by
    rw [← Array.getLast?_toList, ← Array.getLast?_toList, habove, List.getLast?_append,
      List.getLast?_eq_some_getLast hlist, Option.some_or]
  rw [currentLine, currentLine, hback]

/-- The same fault is shown with the same line, which has a higher number. -/
theorem errorAt_eq (h : Beneath n s s') (hrest : s.rest ≠ []) (fault : Fault) :
    s'.errorAt fault = (s.errorAt fault).below n := by
  have hne := h.retained_ne hrest
  simp [errorAt, ScanError.below, Context.below, h.source_eq, h.line_eq (Or.inl hne),
    h.column_eq hrest, h.currentLine_eq hne]

/-- Marks do not count for the place. -/
theorem markToken (h : Beneath n s s') : Beneath n s.markToken s'.markToken :=
  ⟨h.source_eq, h.layout_eq, h.unread_eq, h.rest_eq, h.exists_above, h.retained_ne, h.column_eq,
    h.line_eq⟩

theorem note (h : Beneath n s s') (met met' : Bool) :
    Beneath n { s with metNewline := met } { s' with metNewline := met' } :=
  ⟨h.source_eq, h.layout_eq, h.unread_eq, h.rest_eq, h.exists_above, h.retained_ne, h.column_eq,
    h.line_eq⟩

theorem advance (h : Beneath n s s') (hrest : s.rest = c :: rest) :
    Beneath n (s.advance c rest) (s'.advance c rest) := by
  have hne : s.rest ≠ [] := by simp [hrest]
  have hretained := h.retained_ne hne
  have hline := h.line_eq (Or.inl hretained)
  refine ⟨h.source_eq, h.layout_eq, h.unread_eq, rfl, h.exists_above, fun _ => hretained, ?_, ?_⟩
  · intro _
    simp only [Scanner.advance, h.column_eq hne]
  · intro _
    simp only [Scanner.advance, hline]
    split <;> omega

/-- Both scanners take up the same line. -/
theorem load {line : SourceLine} {unread : Source} (h : Beneath n s s')
    (hunread : s.unread = line :: unread) :
    Beneath n (s.load line unread).2 (s'.load line unread).2 := by
  have hline := h.line_eq (Or.inr (by simp [hunread]))
  obtain ⟨above, hlength, habove⟩ := h.exists_above
  have habove' : (s'.retained.push (String.ofList line.chars)).toList
      = above ++ (s.retained.push (String.ofList line.chars)).toList := by
    rw [Array.toList_push, Array.toList_push, habove, List.append_assoc]
  have hne : s.retained.push (String.ofList line.chars) ≠ #[] := Array.push_ne_empty
  cases line <;>
    exact ⟨h.source_eq, h.layout_eq, rfl, rfl, ⟨above, hlength, habove'⟩, fun _ => hne,
      fun _ => rfl, fun _ => hline⟩

end Beneath

namespace Level

theorem mono (h : Level n marked s s') (hmarked : marked' → marked) : Level n marked' s s' :=
  ⟨h.toBeneath, h.metNewline_eq, h.tokenLine_eq ∘ hmarked, h.tokenColumn_eq ∘ hmarked⟩

/-- The place of a token is the same, but for its line. -/
theorem markToken (h : Level n marked s s') (hne : s.retained ≠ #[]) :
    Level n True s.markToken s'.markToken where
  toBeneath := h.toBeneath.markToken
  metNewline_eq := h.metNewline_eq
  tokenLine_eq _ := h.line_eq (Or.inl hne)
  tokenColumn_eq _ := by
    simp only [Scanner.markToken, h.rest_eq, h.currentLine_eq hne]
    split
    · rfl
    · rename_i hrest
      exact h.column_eq (by simpa using hrest)

theorem advance (h : Level n marked s s') (hrest : s.rest = c :: rest) :
    Level n marked (s.advance c rest) (s'.advance c rest) :=
  ⟨h.toBeneath.advance hrest, h.metNewline_eq, h.tokenLine_eq, h.tokenColumn_eq⟩

theorem note (h : Level n marked s s') (met : Bool) :
    Level n marked { s with metNewline := met } { s' with metNewline := met } :=
  ⟨h.toBeneath.note met met, rfl, h.tokenLine_eq, h.tokenColumn_eq⟩

theorem noted (h : Level n marked s s') (state : State) (c : Char) :
    Level n marked (s.noted state c) (s'.noted state c) := by
  unfold Scanner.noted
  rw [h.metNewline_eq]
  exact h.note _

theorem taken (h : Level n marked s s') {chars : List Char} {unread : Source}
    (hunread : s.unread = .sound chars :: unread) :
    Level n marked (s.taken chars unread) (s'.taken chars unread) :=
  ⟨h.toBeneath.load hunread, h.metNewline_eq, h.tokenLine_eq, h.tokenColumn_eq⟩

/-- Both scanners mark the place, or neither does. -/
theorem opened (h : Level n (state ≠ .start) s s') (hne : s.retained ≠ #[]) (c : Char) :
    Level n (state ≠ .start ∨ isSeparator c = false)
      (if state = .start ∧ !isSeparator c then s.markToken else s)
      (if state = .start ∧ !isSeparator c then s'.markToken else s') := by
  split
  · exact (h.markToken hne).mono fun _ => trivial
  · exact h.mono (by grind)

theorem looked (h : Level n (state ≠ .start) s s') (hne : s.retained ≠ #[])
    (hrest : s.rest = c :: rest) (look : Step) :
    Level n (state ≠ .start ∨ isSeparator c = false) (s.looked state c rest look)
      (s'.looked state c rest look) := by
  have hopened := h.opened hne c
  have hrest' : (if state = .start ∧ !isSeparator c then s.markToken else s).rest = c :: rest := by
    split <;> exact hrest
  unfold Scanner.looked
  cases look.consume with
  | true => exact (hopened.advance hrest').noted state c
  | false => exact hopened.noted state c

end Level

theorem retained_looked (s : Scanner) (state : State) (c : Char) (rest : List Char) (look : Step) :
    (s.looked state c rest look).retained = s.retained := by
  have hopened : (if state = .start ∧ !isSeparator c then s.markToken else s).retained
      = s.retained := by
    split <;> rfl
  unfold looked
  cases look.consume <;> exact hopened

/-! ## One character -/

/-- What the next character leads to: both scans are over with the same result, or both go on in the
same state. -/
inductive Below (n : Nat) : Progress → Progress → Prop
  | token {t t' : Scanner} {token : Token} : Level n True t t' →
      Below n (.done (.ok token) t) (.done (.ok token) t')
  | failed {t t' : Scanner} {e : ScanError} : Beneath n t t' →
      Below n (.done (.error e) t) (.done (.error (e.below n)) t')
  | going {t t' : Scanner} {state : State} {lexeme : String} :
      Level n (state ≠ .start) t t' → Below n (.going state lexeme t) (.going state lexeme t')

private theorem onward_below {look : Step} (hstep : step state (some c) lexeme = .ok look)
    (h : Level n (state ≠ .start ∨ isSeparator c = false) s s') (hne : s.retained ≠ #[]) :
    Below n (s.onward state lexeme look) (s'.onward state lexeme look) := by
  have hmarked := marked_of_step hstep
  unfold onward
  cases hemit : look.emit with
  | some token => exact .token (h.mono fun _ => hmarked (by simp [hemit]))
  | none =>
    by_cases hnext : look.next = .start
    · simp only [hnext, if_true, h.layout_eq, h.metNewline_eq]
      split
      · exact .token (h.markToken hne)
      · exact .going (h.mono (absurd rfl))
    · simp only [hnext, if_false]
      exact .going (h.mono fun _ => hmarked (Or.inr hnext))

/-- Both scanners look at the same character. -/
theorem readChar_below (h : Level n (state ≠ .start) s s') (hrest : s.rest = c :: rest)
    (lexeme : String) :
    Below n (s.readChar state lexeme c rest) (s'.readChar state lexeme c rest) := by
  have hne := h.retained_ne (by simp [hrest])
  by_cases hfeed : s.layout ∧ state.settled (some c) = .start ∧ c = '\n'
  · -- a line feed between tokens is a token
    rw [readChar, readChar, if_pos hfeed, if_pos (h.layout_eq ▸ hfeed)]
    exact .token (((h.note true).markToken hne).advance hrest)
  · rw [readChar, readChar, if_neg hfeed, if_neg (h.layout_eq ▸ hfeed)]
    have hsettled : Level n (state.settled (some c) ≠ .start) s s' :=
      h.mono (by unfold State.settled; grind)
    generalize state.settled (some c) = state' at hsettled
    cases hstep : step state' (some c) lexeme with
    | error e =>
      have hopened := hsettled.opened hne c
      have hrest' : (if state' = .start ∧ !isSeparator c then s.markToken else s).rest ≠ [] := by
        split <;> simp [Scanner.markToken, hrest]
      simp only [lookAt, hstep, hopened.errorAt_eq hrest']
      exact .failed hopened.toBeneath
    | ok look =>
      rw [lookAt_eq_onward hstep, lookAt_eq_onward hstep]
      refine onward_below hstep (hsettled.looked hne hrest look) ?_
      rwa [retained_looked]

/-! ## Whole scans -/

/-- How two scans end: with the same token, whose place is the same but for its line, or with the
same error. -/
inductive Lowered (n : Nat) : Except ScanError Token × Scanner → Except ScanError Token × Scanner →
    Prop
  | token {t t' : Scanner} {token : Token} :
      Level n (token.kind ≠ .endOfFile ∨ t.retained ≠ #[]) t t' →
      Lowered n (.ok token, t) (.ok token, t')
  | failed {t t' : Scanner} {e : ScanError} : Beneath n t t' →
      Lowered n (.error e, t) (.error (e.below n), t')

/-- At the end of the source only the end of the file has no line of its own. -/
private theorem Level.finish (h : Level n (state ≠ .start) s s') {token : Token}
    (hend : token.kind ≠ .endOfFile → state.settled none ≠ .start) :
    Level n (token.kind ≠ .endOfFile ∨ s.retained ≠ #[])
      (if state.settled none = .start then s.markToken else s)
      (if state.settled none = .start then s'.markToken else s') := by
  by_cases hset : state.settled none = .start
  · rw [if_pos hset, if_pos hset]
    by_cases hne : s.retained = #[]
    · -- the end of the file, and there is no line that it could be placed in
      refine ⟨h.toBeneath.markToken, h.metNewline_eq, fun hor => ?_, fun hor => ?_⟩ <;>
        exact absurd (hor.resolve_right (absurd hne)) fun hkind => hend hkind hset
    · exact (h.markToken hne).mono fun _ => trivial
  · rw [if_neg hset, if_neg hset]
    refine h.mono fun _ => ?_
    rintro rfl
    exact hset rfl

theorem resume_below (h : Level n (state ≠ .start) s s') (lexeme : String) :
    Lowered n (s.resume state lexeme) (s'.resume state lexeme) := by
  induction s using resume_induction generalizing s' state lexeme with
  | character s c rest hrest ih =>
    rw [resume_of_rest hrest, resume_of_rest (h.rest_eq.trans hrest)]
    have hbelow := readChar_below h hrest lexeme
    cases hread : s.readChar state lexeme c rest with
    | done result t =>
      rw [hread] at hbelow
      generalize s'.readChar state lexeme c rest = progress' at hbelow
      cases hbelow with
      | token hlevel => exact .token (hlevel.mono fun _ => trivial)
      | failed hbeneath => exact .failed hbeneath
    | going state' lexeme' t =>
      rw [hread] at hbelow
      obtain ⟨ht, hu⟩ := rest_unread_readChar hread
      generalize s'.readChar state lexeme c rest = progress' at hbelow
      cases hbelow with
      | going hlevel => exact ih t ht hu hlevel lexeme'
  | line s line unread hrest hunread ih =>
    -- both take up the line, and a broken one is over with the same fault
    have hrest' := h.rest_eq.trans hrest
    have hunread' := h.unread_eq.trans hunread
    cases line with
    | sound chars =>
      rw [resume_sound hrest hunread, resume_sound hrest' hunread']
      exact ih _ rfl (h.taken hunread) lexeme
    | broken valid byte others =>
      have hload := h.toBeneath.load hunread
      rw [resume_broken hrest hunread rfl, resume_broken hrest' hunread' rfl]
      have herror := hload.errorAt_eq (List.cons_ne_nil _ _)
        (.invalidByte byte (Text.Utf8.byteCount valid))
      exact herror ▸ .failed hload
  | ended s hrest hunread =>
    obtain ⟨token, -, hend, hfinish⟩ := exists_finish state lexeme
    rw [resume_over hrest hunread, hfinish,
      resume_over (h.rest_eq.trans hrest) (h.unread_eq.trans hunread), hfinish]
    refine .token ?_
    have hlevel := h.finish (mt hend.2)
    have hsame : (if state.settled none = .start then s.markToken else s).retained
        = s.retained := by
      split <;> rfl
    rwa [hsame]

/-- The next token or error is the same, further down. -/
theorem next_below (h : Beneath n s s') : Lowered n s.next s'.next := by
  rw [next_eq_resume, next_eq_resume]
  exact resume_below ⟨h.note false false, rfl, absurd rfl, absurd rfl⟩ ""

/-! ## Recovery -/

private theorem skipChars_below (h : Beneath n s s') (skipped : Nat) (hrest : s.rest = rest) :
    ∃ m met t t', s.skipChars skipped rest = (m, met, t) ∧
      s'.skipChars skipped rest = (m, met, t') ∧ Beneath n t t' ∧ t.unread = s.unread := by
  induction rest generalizing s s' skipped with
  | nil => exact ⟨_, _, _, _, rfl, rfl, h, rfl⟩
  | cons c rest ih =>
    have hadvance := h.advance hrest
    rw [skipChars, skipChars]
    by_cases hc : c = '\n'
    · rw [if_pos hc, if_pos hc]
      exact ⟨_, _, _, _, rfl, rfl, hadvance, rfl⟩
    · rw [if_neg hc, if_neg hc]
      exact ih hadvance (skipped + 1) rfl

private theorem skipLines_below (h : Beneath n s s') (skipped : Nat) {unread : Source}
    (hunread : s.unread = unread) :
    (s'.skipLines skipped unread).1 = (s.skipLines skipped unread).1.mapError (ScanError.below n) ∧
      Beneath n (s.skipLines skipped unread).2 (s'.skipLines skipped unread).2 := by
  induction unread generalizing s s' skipped with
  | nil =>
    obtain ⟨m, met, t, t', heq, heq', hbeneath, -⟩ := skipChars_below h skipped rfl
    rw [skipLines, skipLines, h.rest_eq, heq, heq']
    cases met <;> exact ⟨rfl, hbeneath⟩
  | cons line unread ih =>
    obtain ⟨m, met, t, t', heq, heq', hbeneath, hsame⟩ := skipChars_below h skipped rfl
    rw [skipLines, skipLines, h.rest_eq, heq, heq']
    cases met with
    | true => exact ⟨rfl, hbeneath⟩
    | false =>
      have hload := hbeneath.load (hsame.trans hunread)
      cases line with
      | sound chars => exact ih hload m rfl
      | broken valid byte others =>
        have herror := hload.errorAt_eq (List.cons_ne_nil _ _)
          (.invalidByte byte (Text.Utf8.byteCount valid))
        exact ⟨congrArg Except.error herror, hload⟩

/-- Dropping the rest of the line drops the same characters. -/
theorem skipLine_below (h : Beneath n s s') :
    s'.skipLine.1 = s.skipLine.1.mapError (ScanError.below n) ∧
      Beneath n s.skipLine.2 s'.skipLine.2 := by
  unfold skipLine
  rw [h.unread_eq]
  exact skipLines_below h 0 rfl

end Scanner

end ServiceSyntax
