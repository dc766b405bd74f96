import ServiceSyntax.Proofs.Scan.Look

/-!
# The course of a scan

A scan looks at the characters of its line one after the other, takes up the next line behind the
last of them, and is over at the end of the source (`resume_of_rest`, `resume_sound`,
`resume_broken`, `resume_over`). So whatever these steps keep holds behind every scan
(`resume_spec`), for any source and in layout mode as well as outside it. All that a character can
lead to is said once (`readChar_spec`).
-/

namespace ServiceSyntax.Scanner

open Scan

variable {s t : Scanner} {state : State} {lexeme : String} {c : Char} {rest : List Char}
  {unread : Source}

/-! ## Steps -/

/-- The scanner in front of a line that it has taken up. -/
def taken (s : Scanner) (chars : List Char) (unread : Source) : Scanner :=
  { s with unread, retained := s.retained.push (String.ofList chars), rest := chars, column := 0 }

theorem next_eq_resume (s : Scanner) :
    s.next = { s with metNewline := false }.resume .start "" := rfl

/-- Behind its line the scan goes on in the next one. -/
theorem resume_sound {chars : List Char} (hrest : s.rest = [])
    (hunread : s.unread = .sound chars :: unread) (state : State) (lexeme : String) :
    s.resume state lexeme = (s.taken chars unread).resume state lexeme := by
  rw [resume, readLines.eq_def, hrest, hunread]
  rfl

/-- A line that cannot be taken up stops the scan. -/
theorem resume_broken {line : SourceLine} {e : ScanError} (hrest : s.rest = [])
    (hunread : s.unread = line :: unread) (hload : s.load line unread = (.error e, t))
    (state : State) (lexeme : String) : s.resume state lexeme = (.error e, t) := by
  rw [resume, readLines.eq_def, hrest, hunread]
  simp only [readLine, hload]

/-- At the end of the source the scan is over. -/
theorem resume_over (hrest : s.rest = []) (hunread : s.unread = []) (state : State)
    (lexeme : String) : s.resume state lexeme = s.finish state lexeme := by
  rw [resume, hunread, readLines, hrest]
  rfl

/-! ## Induction -/

/-- Every scan comes to its end: a character leaves less of the line, and a line less of the
source. -/
theorem resume_induction {motive : Scanner → Prop}
    (character : ∀ s c rest, s.rest = c :: rest →
      (∀ t, t.rest = rest → t.unread = s.unread → motive t) → motive s)
    (line : ∀ s line unread, s.rest = [] → s.unread = line :: unread →
      (∀ t, t.unread = unread → motive t) → motive s)
    (ended : ∀ s, s.rest = [] → s.unread = [] → motive s) (s : Scanner) : motive s := by
  induction hunread : s.unread generalizing s with
  | nil =>
    induction hrest : s.rest generalizing s with
    | nil => exact ended s hrest hunread
    | cons c rest ih => exact character s c rest hrest fun t ht hu => ih t (hu.trans hunread) ht
  | cons first unread ihLine =>
    induction hrest : s.rest generalizing s with
    | nil => exact line s first unread hrest hunread ihLine
    | cons c rest ih => exact character s c rest hrest fun t ht hu => ih t (hu.trans hunread) ht

/-- What holds of a scanner that goes on, or of the result and the scanner that a scan ends with. -/
def Progress.Leads (kept : State → String → Scanner → Prop)
    (post : Except ScanError Token → Scanner → Prop) : Progress → Prop
  | .done result t => post result t
  | .going state lexeme t => kept state lexeme t

theorem Progress.Leads.and {progress : Progress} {kept kept' : State → String → Scanner → Prop}
    {post post' : Except ScanError Token → Scanner → Prop} (h : progress.Leads kept post)
    (h' : progress.Leads kept' post') :
    progress.Leads (fun state lexeme t => kept state lexeme t ∧ kept' state lexeme t)
      (fun result t => post result t ∧ post' result t) := by
  cases progress with
  | done result t => exact ⟨h, h'⟩
  | going state lexeme t => exact ⟨h, h'⟩

/-- What every step of a scan keeps holds behind it. -/
theorem resume_spec (inv : State → String → Scanner → Prop)
    (post : Except ScanError Token → Scanner → Prop)
    (character : ∀ s state lexeme c rest, s.rest = c :: rest → inv state lexeme s →
      (s.readChar state lexeme c rest).Leads inv post)
    (sound : ∀ s state lexeme chars unread, s.rest = [] → s.unread = .sound chars :: unread →
      inv state lexeme s → inv state lexeme (s.taken chars unread))
    (broken : ∀ s state lexeme valid byte others unread e t, s.rest = [] →
      s.unread = .broken valid byte others :: unread → inv state lexeme s →
      s.load (.broken valid byte others) unread = (.error e, t) → post (.error e) t)
    (ended : ∀ s state lexeme, s.rest = [] → s.unread = [] → inv state lexeme s →
      post (s.finish state lexeme).1 (s.finish state lexeme).2)
    (h : inv state lexeme s) :
    post (s.resume state lexeme).1 (s.resume state lexeme).2 := by
  induction s using resume_induction generalizing state lexeme with
  | character s c rest hrest ih =>
    have hstep := character s state lexeme c rest hrest h
    rw [resume_of_rest hrest]
    cases hread : s.readChar state lexeme c rest with
    | done result t =>
      rw [hread] at hstep
      exact hstep
    | going state' lexeme' t =>
      rw [hread] at hstep
      obtain ⟨ht, hu⟩ := rest_unread_readChar hread
      exact ih t ht hu hstep
  | line s line unread hrest hunread ih =>
    cases line with
    | sound chars =>
      rw [resume_sound hrest hunread]
      exact ih _ rfl (sound s state lexeme chars unread hrest hunread h)
    | broken valid byte others =>
      rw [resume_broken hrest hunread rfl]
      exact broken s state lexeme valid byte others unread _ _ hrest hunread h rfl
  | ended s hrest hunread =>
    rw [resume_over hrest hunread]
    exact ended s state lexeme hrest hunread h

/-! ## One look -/

/-- A separator leads from a gap to the same gap. -/
theorem step_separator {look : Step} (hsep : isSeparator c = true)
    (hstep : step .start (some c) lexeme = .ok look) : look = { next := .start } := by
  simpa [step, fromStart, hsep, eq_comm] using hstep

/-- The automaton fails behind a backslash only. -/
theorem unescape?_of_step {e : MalformedEscape}
    (h : step state (some c) lexeme = .error e) : state = .stringEscape ∧ unescape? c = none := by
  cases state <;> simp only [step, reduceCtorEq] at h
  cases hmeant : unescape? c with
  | none => exact ⟨rfl, rfl⟩
  | some meant => simp [hmeant] at h

/-- An escape begins with a backslash. -/
theorem backslash_of_step {look : Step}
    (h : step state (some c) lexeme = .ok look) (hemit : look.emit = none)
    (hnext : look.next = .stringEscape) : c = '\\' ∧ look.consume = true := by
  have hopener : opener? c ≠ some .stringEscape := by
    unfold opener?
    split <;> decide
  cases state <;> simp only [step, fromStart, fromOperator, Except.ok.injEq] at h <;>
    grind [Scan.before, Scan.after]

/-- The scanner that has looked at a character. -/
def looked (s : Scanner) (state : State) (c : Char) (rest : List Char) (look : Step) :
    Scanner :=
  let m := if state = .start ∧ !isSeparator c then s.markToken else s
  (if look.consume then m.advance c rest else m).noted state c

/-- A look that uses its character up leaves the scanner behind it. -/
theorem looked_of_consume {look : Step} (h : look.consume = true) (s : Scanner) (state : State)
    (c : Char) (rest : List Char) :
    (s.looked state c rest look).rest = rest ∧ (s.looked state c rest look).unread = s.unread ∧
      (s.looked state c rest look).retained = s.retained ∧
      (s.looked state c rest look).column = s.column + 1 := by
  simp only [looked, if_pos h]
  split <;> exact ⟨rfl, rfl, rfl, rfl⟩

/-- How the scan goes on behind a look. -/
def onward (t : Scanner) (state : State) (lexeme : String) (look : Step) : Progress :=
  match look.emit with
  | some token => .done (.ok token) t
  | none =>
    if look.next = .start then
      if t.layout && t.metNewline && state.inBlockComment then
        .done (.ok ⟨.newline, ""⟩) t.markToken
      else .going .start "" t
    else .going look.next ((look.append.map lexeme.push).getD lexeme) t

theorem lookAt_eq_onward {look : Step} (hstep : step state (some c) lexeme = .ok look)
    (s : Scanner) :
    s.lookAt state lexeme c rest = (s.looked state c rest look).onward state lexeme look :=
  lookAt_of_step hstep s

/-- The lexeme with which a scan goes on behind a look; in a gap there is none. -/
def gained (lexeme : String) (look : Step) : String :=
  if look.next = .start then "" else (look.append.map lexeme.push).getD lexeme

/-- All that a character can lead to. -/
theorem readChar_spec {kept : State → String → Scanner → Prop}
    {post : Except ScanError Token → Scanner → Prop}
    (newline : s.layout = true → c = '\n' → post (.ok ⟨.newline, ""⟩)
      (({ s with metNewline := true } : Scanner).markToken.advance c rest))
    (failed : ∀ e, step (state.settled (some c)) (some c) lexeme = .error e →
      post (.error (s.errorAt .malformedEscape)) s)
    (emitted : ∀ look token, step (state.settled (some c)) (some c) lexeme = .ok look →
      look.emit = some token → post (.ok token) (s.looked (state.settled (some c)) c rest look))
    (comment : ∀ look, step (state.settled (some c)) (some c) lexeme = .ok look →
      look.next = .start → (state.settled (some c)).inBlockComment = true →
      (s.looked (state.settled (some c)) c rest look).layout = true →
      post (.ok ⟨.newline, ""⟩) (s.looked (state.settled (some c)) c rest look).markToken)
    (onward : ∀ look, step (state.settled (some c)) (some c) lexeme = .ok look →
      look.emit = none →
      kept look.next (gained lexeme look) (s.looked (state.settled (some c)) c rest look)) :
    (s.readChar state lexeme c rest).Leads kept post := by
  rw [readChar]
  by_cases hbreak : s.layout ∧ state.settled (some c) = .start ∧ c = '\n'
  · rw [if_pos hbreak]
    exact newline hbreak.1 hbreak.2.2
  rw [if_neg hbreak]
  generalize state.settled (some c) = settled at *
  cases hstep : step settled (some c) lexeme with
  | error e =>
    -- a string has begun, so nothing is marked
    have hstart : ¬(settled = .start ∧ !isSeparator c) := by
      intro hopens
      rw [(unescape?_of_step hstep).1] at hopens
      cases hopens.1
    simp only [lookAt, hstep, if_neg hstart]
    exact failed e hstep
  | ok look =>
    rw [lookAt_eq_onward hstep, Scanner.onward]
    cases hemit : look.emit with
    | some token => exact emitted look token hstep hemit
    | none =>
      have hkept := onward look hstep hemit
      have hcomment := comment look hstep
      rw [gained] at hkept
      generalize s.looked settled c rest look = t at hkept hcomment
      by_cases hnext : look.next = .start
      · simp only [hnext, if_true] at hkept ⊢
        by_cases hspans : (t.layout && t.metNewline && settled.inBlockComment) = true
        · rw [if_pos hspans]
          simp only [Bool.and_eq_true] at hspans
          exact hcomment hnext hspans.2 hspans.1.1
        · rw [if_neg hspans]
          exact hkept
      · simp only [hnext, if_false] at hkept ⊢
        exact hkept

/-- Whatever comes of a look but another gap has its place marked. -/
theorem marked_of_step {look : Step} (hstep : step state (some c) lexeme = .ok look)
    (hlook : look.emit ≠ none ∨ look.next ≠ .start) : state ≠ .start ∨ isSeparator c = false := by
  by_cases hsep : isSeparator c = true
  · refine Or.inl fun hstart => ?_
    subst hstart
    simp [step_separator hsep hstep] at hlook
  · exact Or.inr (Bool.eq_false_iff.2 hsep)

/-! ## Kinds -/

theorem ofWord_kind (word : String) :
    (Token.ofWord word).kind ≠ .newline ∧ (Token.ofWord word).kind ≠ .endOfFile := by
  unfold Token.ofWord
  split <;> simp

/-- The automaton completes no line break, and an end of the file at the end of the input only. -/
theorem kind_of_emit {look : Option Char} {seen : Step} {token : Token}
    (hstep : step state look lexeme = .ok seen) (hemit : seen.emit = some token) :
    token.kind ≠ .newline ∧ (look ≠ none → token.kind ≠ .endOfFile) := by
  have hword := ofWord_kind lexeme
  cases state <;> cases look <;>
    simp only [step, fromStart, fromOperator, unclosedString, unclosedComment, Except.ok.injEq]
      at hstep <;>
    grind [Scan.before, Scan.after]

/-- A token that stands for the end of the file has no content. -/
theorem endOfFile_of_emit {look : Option Char} {seen : Step} {token : Token}
    (hstep : step state look lexeme = .ok seen) (hemit : seen.emit = some token)
    (hfile : token.kind = .endOfFile) : token = ⟨.endOfFile, ""⟩ := by
  have hword := (ofWord_kind lexeme).2
  cases state <;> cases look <;>
    simp only [step, fromStart, fromOperator, unclosedString, unclosedComment, Except.ok.injEq]
      at hstep <;>
    grind [Scan.before, Scan.after]

/-- Whatever has begun is completed at the end of the source, and not by the end of the file. -/
theorem exists_emit_of_step (h : state.settled none ≠ .start) (lexeme : String) :
    ∃ look token, step (state.settled none) none lexeme = .ok look ∧ look.emit = some token ∧
      token.kind ≠ .endOfFile := by
  have hword := (ofWord_kind lexeme).2
  cases state with
  | start => exact absurd rfl h
  | lineComment => exact absurd rfl h
  | identifier => exact ⟨_, _, rfl, rfl, hword⟩
  | _ => exact ⟨_, _, rfl, rfl, by simp⟩

/-- The end of the source completes the token that has been begun, or else it is one itself. -/
theorem exists_finish (state : State) (lexeme : String) :
    ∃ token : Token, token.kind ≠ .newline ∧
      (token.kind = .endOfFile ↔ state.settled none = .start) ∧
      ∀ s : Scanner, s.finish state lexeme
        = (.ok token, if state.settled none = .start then s.markToken else s) := by
  by_cases hset : state.settled none = .start
  · refine ⟨⟨.endOfFile, ""⟩, by simp, by simp [hset], fun s => ?_⟩
    simp [finish, hset, step, fromStart, before]
  · obtain ⟨⟨next, emit, consume, append⟩, token, hstep, hemit, hkind⟩ :=
      exists_emit_of_step hset lexeme
    obtain rfl : emit = some token := hemit
    refine ⟨token, (kind_of_emit hstep rfl).1, ?_, fun s => by simp [finish, hstep]⟩
    exact ⟨fun hfile => absurd hfile hkind, fun hstart => absurd hstart hset⟩

theorem endOfFile_of_finish {token : Token} (h : (s.finish state lexeme).1 = .ok token)
    (hfile : token.kind = .endOfFile) : token = ⟨.endOfFile, ""⟩ := by
  rw [finish] at h
  split at h
  · rename_i hstep
    obtain rfl := Except.ok.inj h
    exact endOfFile_of_emit hstep rfl hfile
  · exact (Except.ok.inj h).symm

end ServiceSyntax.Scanner
