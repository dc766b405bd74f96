import ServiceSyntax.Proofs.Scan.Course

/-!
# Scanning with and without layout

Two scanners at the same place, one in layout mode, read the same characters in the same states.
Where the one in layout mode stops at a line break the other one reads on from there, with the line
break noted; everywhere else they stop at the same place with the same result (`resume_matched`).
-/

namespace ServiceSyntax.Scanner

open Scan

variable {s s' : Scanner} {state : State} {lexeme : String} {c : Char} {rest : List Char}
  {met marked : Bool}

/-! ## Places -/

/-- Two scanners at the same place of the same source, the second one in layout mode. -/
structure Twin (s s' : Scanner) : Prop where
  layout_eq : s.layout = false
  layout_eq' : s'.layout = true
  source_eq : s'.source = s.source
  unread_eq : s'.unread = s.unread
  retained_eq : s'.retained = s.retained
  rest_eq : s'.rest = s.rest
  column_eq : s'.column = s.column
  line_eq : s'.line = s.line

/-- The marks of the two scanners: `met` tells whether the first one has come across a line break
at which the second one has stopped, and `marked` whether they have begun the same token. -/
structure Abreast (met marked : Bool) (s s' : Scanner) : Prop extends Twin s s' where
  metNewline_eq : s.metNewline = (met || s'.metNewline)
  tokenLine_eq : marked = true → s'.tokenLine = s.tokenLine
  tokenColumn_eq : marked = true → s'.tokenColumn = s.tokenColumn

namespace Twin

theorem currentLine_eq (h : Twin s s') : s'.currentLine = s.currentLine := by
  rw [currentLine, currentLine, h.retained_eq]

theorem errorAt_eq (h : Twin s s') (fault : Fault) : s'.errorAt fault = s.errorAt fault := by
  simp only [errorAt, h.source_eq, h.line_eq, h.column_eq, h.currentLine_eq]

theorem markToken (h : Twin s s') : Twin s.markToken s'.markToken :=
  ⟨h.layout_eq, h.layout_eq', h.source_eq, h.unread_eq, h.retained_eq, h.rest_eq, h.column_eq,
    h.line_eq⟩

/-- Marks do not count for the place. -/
theorem markRight (h : Twin s s') : Twin s s'.markToken :=
  ⟨h.layout_eq, h.layout_eq', h.source_eq, h.unread_eq, h.retained_eq, h.rest_eq, h.column_eq,
    h.line_eq⟩

theorem advance (h : Twin s s') (c : Char) (rest : List Char) :
    Twin (s.advance c rest) (s'.advance c rest) :=
  ⟨h.layout_eq, h.layout_eq', h.source_eq, h.unread_eq, h.retained_eq, rfl,
    by simp [Scanner.advance, h.column_eq], by simp [Scanner.advance, h.line_eq]⟩

theorem note (h : Twin s s') (met met' : Bool) :
    Twin { s with metNewline := met } { s' with metNewline := met' } :=
  ⟨h.layout_eq, h.layout_eq', h.source_eq, h.unread_eq, h.retained_eq, h.rest_eq, h.column_eq,
    h.line_eq⟩

theorem taken (h : Twin s s') (chars : List Char) (unread : Source) :
    Twin (s.taken chars unread) (s'.taken chars unread) :=
  ⟨h.layout_eq, h.layout_eq', h.source_eq, rfl, by simp [Scanner.taken, h.retained_eq], rfl, rfl,
    h.line_eq⟩

/-- A broken line stops both scanners with the same error. -/
theorem load_broken (h : Twin s s') (valid others : List Char) (byte : UInt8) (unread : Source) :
    ∃ e t t', s.load (.broken valid byte others) unread = (.error e, t) ∧
      s'.load (.broken valid byte others) unread = (.error e, t') ∧ Twin t t' := by
  have htwin : Twin (s.load (.broken valid byte others) unread).2
      (s'.load (.broken valid byte others) unread).2 :=
    ⟨h.layout_eq, h.layout_eq', h.source_eq, rfl, by simp [load, h.retained_eq], rfl, rfl,
      h.line_eq⟩
  refine ⟨_, _, _, rfl, Prod.ext ?_ rfl, htwin⟩
  exact congrArg Except.error (htwin.errorAt_eq _)

end Twin

namespace Abreast

theorem markToken (h : Abreast met marked s s') : Abreast met true s.markToken s'.markToken where
  toTwin := h.toTwin.markToken
  metNewline_eq := h.metNewline_eq
  tokenLine_eq _ := h.line_eq
  tokenColumn_eq _ := by
    simp only [Scanner.markToken, h.rest_eq, h.column_eq, h.currentLine_eq]

theorem advance (h : Abreast met marked s s') (c : Char) (rest : List Char) :
    Abreast met marked (s.advance c rest) (s'.advance c rest) :=
  ⟨h.toTwin.advance c rest, h.metNewline_eq, h.tokenLine_eq, h.tokenColumn_eq⟩

theorem taken (h : Abreast met marked s s') (chars : List Char) (unread : Source) :
    Abreast met marked (s.taken chars unread) (s'.taken chars unread) :=
  ⟨h.toTwin.taken chars unread, h.metNewline_eq, h.tokenLine_eq, h.tokenColumn_eq⟩

theorem noted (h : Abreast met marked s s') (state : State) (c : Char) :
    Abreast met marked (s.noted state c) (s'.noted state c) where
  toTwin := h.toTwin.note _ _
  metNewline_eq := by simp only [Scanner.noted, h.metNewline_eq, Bool.or_assoc]
  tokenLine_eq := h.tokenLine_eq
  tokenColumn_eq := h.tokenColumn_eq

theorem mono {marked' : Bool} (h : Abreast met marked s s')
    (hmarked : marked' = true → marked = true) : Abreast met marked' s s' :=
  ⟨h.toTwin, h.metNewline_eq, h.tokenLine_eq ∘ hmarked, h.tokenColumn_eq ∘ hmarked⟩

end Abreast

/-- In front of a token the second scanner forgets the line breaks behind it. -/
theorem Twin.abreast (h : Twin s s') :
    Abreast s.metNewline false s { s' with metNewline := false } where
  toTwin := ⟨h.layout_eq, h.layout_eq', h.source_eq, h.unread_eq, h.retained_eq, h.rest_eq,
    h.column_eq, h.line_eq⟩
  metNewline_eq := (Bool.or_false _).symm
  tokenLine_eq := nofun
  tokenColumn_eq := nofun

/-- Two scanners of the same source stand at the same place. -/
theorem twin_fresh (source : String) (unread : Source) :
    Twin { source, unread } { source, unread, layout := true } :=
  ⟨rfl, rfl, rfl, rfl, rfl, rfl, rfl, rfl⟩

/-! ## One character -/

/-- What the next character leads to: the second scanner stops at a line break and the first one
goes on behind it, or both are over with the same result, or both go on in the same state. -/
inductive Paired (met : Bool) : Progress → Progress → Prop
  | lineBreak {t t' : Scanner} : Twin t t' → t.metNewline = true →
      Paired met (.going .start "" t) (.done (.ok ⟨.newline, ""⟩) t')
  | token {t t' : Scanner} {token : Token} : token.kind ≠ .newline → Abreast met true t t' →
      Paired met (.done (.ok token) t) (.done (.ok token) t')
  | failed {t t' : Scanner} {e : ScanError} : Twin t t' →
      Paired met (.done (.error e) t) (.done (.error e) t')
  | going {t t' : Scanner} {state : State} {lexeme : String} :
      Abreast met (state ≠ .start) t t' →
      Paired met (.going state lexeme t) (.going state lexeme t')

/-- A line feed between tokens stops the second scanner. -/
private theorem readChar_lineFeed (h : Twin s s') (hset : state.settled (some '\n') = .start) :
    Paired met (s.readChar state lexeme '\n' rest) (s'.readChar state lexeme '\n' rest) := by
  have hplain : s.readChar state lexeme '\n' rest
      = .going .start "" { s.advance '\n' rest with metNewline := true } := by
    rw [readChar, hset, if_neg (by simp [h.layout_eq]), lookAt]
    simp [step, fromStart, isSeparator, State.inBlockComment]
  have hlayout : s'.readChar state lexeme '\n' rest
      = .done (.ok ⟨.newline, ""⟩)
        (({ s' with metNewline := true } : Scanner).markToken.advance '\n' rest) := by
    rw [readChar, hset, if_pos ⟨h.layout_eq', rfl, rfl⟩]
  rw [hplain, hlayout]
  exact .lineBreak (((h.note false true).markRight.advance '\n' rest).note true true) rfl

/-- Both scanners mark the place, or neither does. -/
private theorem Abreast.opened (h : Abreast met (state ≠ .start) s s') (c : Char) :
    Abreast met (state ≠ .start ∨ isSeparator c = false)
      (if state = .start ∧ !isSeparator c then s.markToken else s)
      (if state = .start ∧ !isSeparator c then s'.markToken else s') := by
  split
  · exact h.markToken.mono (by simp)
  · exact h.mono (by grind)

private theorem Abreast.looked (h : Abreast met (state ≠ .start) s s') (c : Char)
    (rest : List Char) (look : Step) :
    Abreast met (state ≠ .start ∨ isSeparator c = false) (s.looked state c rest look)
      (s'.looked state c rest look) := by
  unfold Scanner.looked
  cases look.consume with
  | true => exact ((h.opened c).advance c rest).noted state c
  | false => exact (h.opened c).noted state c

private theorem onward_paired {look : Step} (hstep : step state (some c) lexeme = .ok look)
    (h : Abreast met (state ≠ .start ∨ isSeparator c = false) s s') :
    Paired met (s.onward state lexeme look) (s'.onward state lexeme look) := by
  have hmarked := marked_of_step hstep
  unfold onward
  cases hemit : look.emit with
  | some token =>
    exact .token (kind_of_emit hstep hemit).1
      (h.mono fun _ => by simpa using hmarked (by simp [hemit]))
  | none =>
    by_cases hnext : look.next = .start
    · simp only [hnext, if_true, h.layout_eq, h.layout_eq', Bool.false_and, Bool.true_and,
        Bool.false_eq_true, if_false]
      split
      · rename_i hbreak
        have hmet := (Bool.and_eq_true_iff.1 hbreak).1
        exact .lineBreak h.toTwin.markRight (by rw [h.metNewline_eq, hmet, Bool.or_true])
      · exact .going (h.mono (by simp))
    · simp only [hnext, if_false]
      exact .going (h.mono fun _ => by simpa using hmarked (Or.inr hnext))

private theorem lookAt_paired (h : Abreast met (state ≠ .start) s s') :
    Paired met (s.lookAt state lexeme c rest) (s'.lookAt state lexeme c rest) := by
  cases hstep : step state (some c) lexeme with
  | error e =>
    have hopened := h.opened c
    simp only [lookAt, hstep, hopened.errorAt_eq]
    exact .failed hopened.toTwin
  | ok look =>
    rw [lookAt_eq_onward hstep, lookAt_eq_onward hstep]
    exact onward_paired hstep (h.looked c rest look)

/-- Both scanners look at the same character. -/
theorem readChar_paired (h : Abreast met (state ≠ .start) s s') (lexeme : String) (c : Char)
    (rest : List Char) :
    Paired met (s.readChar state lexeme c rest) (s'.readChar state lexeme c rest) := by
  by_cases hfeed : state.settled (some c) = .start ∧ c = '\n'
  · obtain ⟨hset, rfl⟩ := hfeed
    exact readChar_lineFeed h.toTwin hset
  · rw [readChar, readChar, if_neg fun hc => hfeed hc.2, if_neg fun hc => hfeed hc.2]
    refine lookAt_paired (h.mono ?_)
    unfold State.settled
    grind

/-! ## Whole scans -/

/-- How two scans side by side end: the one in layout mode stops at a line break, from where the
other one reads on, or both stop with the same result. -/
inductive Matched (met : Bool) : Except ScanError Token × Scanner →
    Except ScanError Token × Scanner → Prop
  | lineBreak {t t' : Scanner} : Twin t t' → t.metNewline = true →
      Matched met (t.resume .start "") (.ok ⟨.newline, ""⟩, t')
  | token {t t' : Scanner} {token : Token} : token.kind ≠ .newline → Abreast met true t t' →
      Matched met (.ok token, t) (.ok token, t')
  | failed {t t' : Scanner} {e : ScanError} : Twin t t' → Matched met (.error e, t) (.error e, t')

private theorem Abreast.finish (h : Abreast met (state ≠ .start) s s') :
    Abreast met true (if state.settled none = .start then s.markToken else s)
      (if state.settled none = .start then s'.markToken else s') := by
  by_cases hset : state.settled none = .start
  · rw [if_pos hset, if_pos hset]
    exact h.markToken
  · rw [if_neg hset, if_neg hset]
    refine h.mono fun _ => decide_eq_true ?_
    rintro rfl
    exact hset rfl

theorem resume_matched (h : Abreast met (state ≠ .start) s s') (lexeme : String) :
    Matched met (s.resume state lexeme) (s'.resume state lexeme) := by
  induction s using resume_induction generalizing s' state lexeme with
  | character s c rest hrest ih =>
    rw [resume_of_rest hrest, resume_of_rest (h.rest_eq.trans hrest)]
    have hpaired := readChar_paired h lexeme c rest
    cases hread : s.readChar state lexeme c rest with
    | done result t =>
      rw [hread] at hpaired
      generalize s'.readChar state lexeme c rest = progress' at hpaired
      cases hpaired with
      | token hkind habreast => exact .token hkind habreast
      | failed htwin => exact .failed htwin
    | going state' lexeme' t =>
      rw [hread] at hpaired
      obtain ⟨ht, hu⟩ := rest_unread_readChar hread
      generalize s'.readChar state lexeme c rest = progress' at hpaired
      cases hpaired with
      | lineBreak htwin hmet => exact .lineBreak htwin hmet
      | going habreast => exact ih t ht hu habreast lexeme'
  | line s line unread hrest hunread ih =>
    have hrest' := h.rest_eq.trans hrest
    have hunread' := h.unread_eq.trans hunread
    cases line with
    | sound chars =>
      rw [resume_sound hrest hunread, resume_sound hrest' hunread']
      exact ih _ rfl (h.taken chars unread) lexeme
    | broken valid byte others =>
      obtain ⟨e, t, t', hload, hload', htwin⟩ := h.load_broken valid others byte unread
      rw [resume_broken hrest hunread hload, resume_broken hrest' hunread' hload']
      exact .failed htwin
  | ended s hrest hunread =>
    obtain ⟨token, hkind, -, hfinish⟩ := exists_finish state lexeme
    rw [resume_over hrest hunread, hfinish,
      resume_over (h.rest_eq.trans hrest) (h.unread_eq.trans hunread), hfinish]
    exact .token hkind h.finish

/-! ## Recovery -/

private theorem skipChars_twin (h : Twin s s') (skipped : Nat) (cs : List Char) :
    ∃ n met t t', s.skipChars skipped cs = (n, met, t) ∧ s'.skipChars skipped cs = (n, met, t') ∧
      Twin t t' := by
  induction cs generalizing s s' skipped with
  | nil => exact ⟨_, _, _, _, rfl, rfl, h⟩
  | cons c rest ih =>
    rw [skipChars, skipChars]
    by_cases hc : c = '\n'
    · rw [if_pos hc, if_pos hc]
      exact ⟨_, _, _, _, rfl, rfl, h.advance c rest⟩
    · rw [if_neg hc, if_neg hc]
      exact ih (h.advance c rest) (skipped + 1)

private theorem skipLines_twin (h : Twin s s') (skipped : Nat) (unread : Source) :
    ∃ result t t', s.skipLines skipped unread = (result, t) ∧
      s'.skipLines skipped unread = (result, t') ∧ Twin t t' := by
  induction unread generalizing s s' skipped with
  | nil =>
    obtain ⟨n, met, t, t', heq, heq', htwin⟩ := skipChars_twin h skipped s.rest
    rw [skipLines, skipLines, h.rest_eq, heq, heq']
    cases met <;> exact ⟨_, _, _, rfl, rfl, htwin⟩
  | cons line unread ih =>
    obtain ⟨n, met, t, t', heq, heq', htwin⟩ := skipChars_twin h skipped s.rest
    rw [skipLines, skipLines, h.rest_eq, heq, heq']
    cases met with
    | true => exact ⟨_, _, _, rfl, rfl, htwin⟩
    | false =>
      cases line with
      | sound chars => exact ih (htwin.taken chars unread) n
      | broken valid byte others =>
        obtain ⟨e, u, u', hload, hload', hloaded⟩ := htwin.load_broken valid others byte unread
        simp only [hload, hload']
        exact ⟨_, _, _, rfl, rfl, hloaded⟩

/-- Dropping the rest of the line drops the same characters. -/
theorem skipLine_twin (h : Twin s s') :
    ∃ result t t', s.skipLine = (result, t) ∧ s'.skipLine = (result, t') ∧ Twin t t' := by
  unfold skipLine
  rw [h.unread_eq]
  exact skipLines_twin h 0 s.unread

end ServiceSyntax.Scanner
