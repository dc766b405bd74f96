import ServiceSyntax.Scan.Pending
import ServiceSyntax.Proofs.Scan.Place

/-!
# One look at a text

What the scanner does with the next character of a text, or at its end, wherever the line stops
that it has read so far. Each lemma takes the step of the automaton and gives the place, the marks
and the state in which the scan goes on or the token with which it is over.
-/

namespace ServiceSyntax.Scanner

open Scan Text

variable {s s' s'' : Scanner} {before after rest : List Char} {c : Char} {state : State}
  {lexeme : String} {met met' : Bool}

/-- Reads on from the present place. -/
def resume (s : Scanner) (state : State) (lexeme : String) : Except ScanError Token × Scanner :=
  s.readLines state lexeme s.unread

/-- Reading leads from one scanner to another of the same source; `met` tells whether it comes
across a line break that is noted. -/
structure Onward (s s' : Scanner) (met : Bool) : Prop where
  source_eq : s'.source = s.source
  layout_eq : s'.layout = s.layout
  metNewline_eq : s'.metNewline = (s.metNewline || met)

/-- Reading on inside a token, whose position has been noted. -/
structure Inside (s s' : Scanner) (met : Bool) : Prop extends Onward s s' met where
  tokenLine_eq : s'.tokenLine = s.tokenLine
  tokenColumn_eq : s'.tokenColumn = s.tokenColumn

/-- The position of the token is the place behind `before`. -/
def Marked (s : Scanner) (before : List Char) : Prop :=
  s.tokenLine = lineAfter before ∧ s.tokenColumn = columnAfter before

theorem Onward.trans (h : Onward s s' met) (h' : Onward s' s'' met') :
    Onward s s'' (met || met') where
  source_eq := h'.source_eq.trans h.source_eq
  layout_eq := h'.layout_eq.trans h.layout_eq
  metNewline_eq := by rw [h'.metNewline_eq, h.metNewline_eq, Bool.or_assoc]

theorem Inside.refl (s : Scanner) : Inside s s false := ⟨⟨rfl, rfl, by simp⟩, rfl, rfl⟩

theorem Inside.trans (h : Inside s s' met) (h' : Inside s' s'' met') :
    Inside s s'' (met || met') where
  toOnward := h.toOnward.trans h'.toOnward
  tokenLine_eq := h'.tokenLine_eq.trans h.tokenLine_eq
  tokenColumn_eq := h'.tokenColumn_eq.trans h.tokenColumn_eq

theorem Inside.marked (h : Inside s s' met) {place : List Char} (hm : s.Marked place) :
    s'.Marked place := ⟨h.tokenLine_eq.trans hm.1, h.tokenColumn_eq.trans hm.2⟩

/-! ## The next character -/

theorem resume_of_rest (hs : s.rest = c :: rest) (state : State) (lexeme : String) :
    s.resume state lexeme = match s.readChar state lexeme c rest with
      | .done result s' => (result, s')
      | .going state' lexeme' s' => s'.resume state' lexeme' := by
  cases hread : s.readChar state lexeme c rest with
  | done result s' =>
    have hline : s.readLine state lexeme s.rest = .done result s' := by rw [hs, readLine, hread]
    unfold resume
    cases s.unread <;> rw [readLines, hline]
  | going state' lexeme' s' =>
    have hline : s.readLine state lexeme s.rest = s'.readLine state' lexeme' rest := by
      rw [hs, readLine, hread]
    obtain ⟨hrest, hunread⟩ := rest_unread_readChar hread
    simp only [resume, hunread]
    cases s.unread <;> rw [readLines, readLines, hline, hrest]

/-- The next character is looked at in its line, which is taken up if it has to be. -/
theorem resume_cons (h : Stands s before (c :: after)) :
    ∃ t rest, t.rest = c :: rest ∧ Stands t before (c :: after) ∧ Inside s t false ∧
      ∀ state lexeme, s.resume state lexeme = match t.readChar state lexeme c rest with
        | .done result s' => (result, s')
        | .going state' lexeme' s' => s'.resume state' lexeme' := by
  have hafter := h.after_eq
  cases hrest : s.rest with
  | cons d rest =>
    rw [hrest, List.cons_append] at hafter
    obtain rfl := (List.cons.inj hafter).1
    exact ⟨s, rest, hrest, h, .refl s, resume_of_rest hrest⟩
  | nil =>
    cases hunread : s.unread with
    | nil =>
      rw [hrest, hunread] at hafter
      cases hafter
    | cons line unread =>
      obtain ⟨chars, rfl, hne, ht⟩ := h.load hrest hunread
      obtain ⟨d, rest, rfl⟩ := List.exists_cons_of_ne_nil hne
      have hdc := ht.after_eq
      obtain rfl := (List.cons.inj hdc).1
      refine ⟨_, rest, rfl, ht, ⟨⟨rfl, rfl, by simp⟩, rfl, rfl⟩, fun state lexeme => ?_⟩
      rw [← resume_of_rest rfl, resume, readLines.eq_def, hrest, hunread]
      rfl

/-- At the end of the text the scan is over. -/
theorem resume_nil (h : Stands s before []) (state : State) (lexeme : String) :
    s.resume state lexeme = s.finish state lexeme := by
  obtain ⟨hrest, hunread⟩ := h.unread_eq_nil
  rw [resume, hunread, readLines, hrest]
  rfl

/-! ## The next step -/

/-- Line feeds are noted between tokens and in block comments. -/
def isNoted (state : State) (c : Char) : Bool :=
  '\n' == c && (state = .start || state.inBlockComment)

theorem isNoted_eq_false (h : state ≠ .start ∧ state.inBlockComment = false) (c : Char) :
    isNoted state c = false := by
  simp [isNoted, h.1, h.2]

def noted (s : Scanner) (state : State) (c : Char) : Scanner :=
  { s with metNewline := s.metNewline || isNoted state c }

private theorem note_eq_noted (s : Scanner) (state : State) (c : Char) :
    (if c = '\n' ∧ (state = .start ∨ state.inBlockComment) then { s with metNewline := true }
      else s)
      = s.noted state c := by
  have hiff : (c = '\n' ∧ (state = .start ∨ state.inBlockComment)) ↔ isNoted state c = true := by
    rw [isNoted, Bool.and_eq_true, beq_iff_eq, Bool.or_eq_true, decide_eq_true_iff, eq_comm]
  split
  · rename_i h
    simp [noted, hiff.1 h]
  · rename_i h
    simp [noted, Bool.eq_false_iff.2 fun hn => h (hiff.2 hn)]

private theorem Inside.noted (h : Inside s s' false) (state : State) (c : Char) :
    Inside s (s'.noted state c) (isNoted state c) :=
  ⟨⟨h.source_eq, h.layout_eq, by simp [Scanner.noted, h.metNewline_eq]⟩, h.tokenLine_eq,
    h.tokenColumn_eq⟩

private theorem Inside.advance (h : Inside s s' false) (c : Char) (rest : List Char) :
    Inside s (s'.advance c rest) false :=
  ⟨⟨h.source_eq, h.layout_eq, h.metNewline_eq⟩, h.tokenLine_eq, h.tokenColumn_eq⟩

/-- What a look at a character leads to where the automaton has a step. -/
theorem lookAt_of_step {look : Step} (hstep : step state (some c) lexeme = .ok look)
    (s : Scanner) :
    s.lookAt state lexeme c rest =
      let m := if state = .start ∧ !isSeparator c then s.markToken else s
      let t := (if look.consume then m.advance c rest else m).noted state c
      match look.emit with
      | some token => .done (.ok token) t
      | none =>
        if look.next = .start then
          if t.layout && t.metNewline && state.inBlockComment then
            .done (.ok ⟨.newline, ""⟩) t.markToken
          else .going .start "" t
        else .going look.next ((look.append.map lexeme.push).getD lexeme) t := by
  cases hemit : look.emit <;> simp only [lookAt, hstep, note_eq_noted, hemit]

private theorem readChar_inside (hset : state.settled (some c) = state) (hstart : state ≠ .start)
    {look : Step} (hstep : step state (some c) lexeme = .ok look) (s : Scanner) :
    s.readChar state lexeme c rest =
      let t := (if look.consume then s.advance c rest else s).noted state c
      match look.emit with
      | some token => .done (.ok token) t
      | none =>
        if look.next = .start then
          if t.layout && t.metNewline && state.inBlockComment then
            .done (.ok ⟨.newline, ""⟩) t.markToken
          else .going .start "" t
        else .going look.next ((look.append.map lexeme.push).getD lexeme) t := by
  rw [readChar, hset, if_neg (by simp [hstart]), lookAt_of_step hstep, if_neg (by simp [hstart])]

private theorem readChar_start (hfeed : ¬(s.layout = true ∧ c = '\n')) {look : Step}
    (hstep : fromStart (some c) = look) :
    s.readChar .start lexeme c rest =
      let m := if isSeparator c then s else s.markToken
      let t := (if look.consume then m.advance c rest else m).noted .start c
      match look.emit with
      | some token => .done (.ok token) t
      | none =>
        if look.next = .start then .going .start "" t
        else .going look.next ((look.append.map lexeme.push).getD lexeme) t := by
  have hset : State.start.settled (some c) = .start := rfl
  have hstep : step .start (some c) lexeme = .ok look := congrArg Except.ok hstep
  rw [readChar, hset, if_neg fun h => hfeed ⟨h.1, h.2.2⟩, lookAt_of_step hstep]
  cases isSeparator c <;> simp [State.inBlockComment]

/-! ## Inside a token or a comment -/

/-- The step uses the character up and the scan goes on. -/
theorem resume_go (h : Stands s before (c :: after)) (hset : state.settled (some c) = state)
    (hstart : state ≠ .start) {next : State} {append : Option Char}
    (hstep : step state (some c) lexeme = .ok { next, append }) (hnext : next ≠ .start) :
    ∃ s', Stands s' (before ++ [c]) after ∧ Inside s s' (isNoted state c) ∧
      s.resume state lexeme = s'.resume next ((append.map lexeme.push).getD lexeme) := by
  obtain ⟨t, rest, hrest, ht, hin, heq⟩ := resume_cons h
  refine ⟨(t.advance c rest).noted state c, (ht.advance hrest).note _,
    (hin.advance c rest).noted state c, ?_⟩
  rw [heq, readChar_inside hset hstart hstep]
  simp only [hnext, if_false, if_true]

/-- The step completes a token with the character. -/
theorem resume_after (h : Stands s before (c :: after)) (hset : state.settled (some c) = state)
    (hstart : state ≠ .start) {next : State} {token : Token}
    (hstep : step state (some c) lexeme = .ok { next, emit := some token }) :
    ∃ s', Stands s' (before ++ [c]) after ∧ Inside s s' (isNoted state c) ∧
      s.resume state lexeme = (.ok token, s') := by
  obtain ⟨t, rest, hrest, ht, hin, heq⟩ := resume_cons h
  refine ⟨(t.advance c rest).noted state c, (ht.advance hrest).note _,
    (hin.advance c rest).noted state c, ?_⟩
  rw [heq, readChar_inside hset hstart hstep]
  rfl

/-- The step completes a token in front of the character. -/
theorem resume_before (h : Stands s before (c :: after)) (hset : state.settled (some c) = state)
    (hstart : state ≠ .start) {next : State} {token : Token}
    (hstep : step state (some c) lexeme = .ok { next, emit := some token, consume := false }) :
    ∃ s', Stands s' before (c :: after) ∧ Inside s s' (isNoted state c) ∧
      s.resume state lexeme = (.ok token, s') := by
  obtain ⟨t, rest, hrest, ht, hin, heq⟩ := resume_cons h
  refine ⟨t.noted state c, ht.note _, hin.noted state c, ?_⟩
  rw [heq, readChar_inside hset hstart hstep]
  rfl

/-- The automaton has no step. -/
theorem resume_fault (h : Stands s before (c :: after)) (hset : state.settled (some c) = state)
    (hstart : state ≠ .start) {e : MalformedEscape}
    (hstep : step state (some c) lexeme = .error e) :
    ∃ s', Stands s' before (c :: after) ∧ s'.rest ≠ [] ∧ Inside s s' false ∧
      s.resume state lexeme = (.error (s'.errorAt .malformedEscape), s') := by
  obtain ⟨t, rest, hrest, ht, hin, heq⟩ := resume_cons h
  refine ⟨t, ht, by simp [hrest], hin, ?_⟩
  rw [heq, readChar, hset, if_neg (by simp [hstart]), lookAt, hstep, if_neg (by simp [hstart])]

/-- The end of the text completes a token. -/
theorem resume_end (h : Stands s before []) (hset : state.settled none = state)
    (hstart : state ≠ .start) {look : Step} {token : Token} (hemit : look.emit = some token)
    (hstep : step state none lexeme = .ok look) : s.resume state lexeme = (.ok token, s) := by
  obtain ⟨next, emit, consume, append⟩ := look
  obtain rfl : emit = some token := hemit
  rw [resume_nil h, finish, hset, if_neg hstart, hstep]

/-- The `/` behind a `*` closes a comment. -/
private theorem resume_close_eq (h : Stands s before ('/' :: after)) (lexeme : String) :
    ∃ t, Stands t (before ++ ['/']) after ∧ Inside s t false ∧
      s.resume .blockCommentStar lexeme =
        if t.layout && t.metNewline then (.ok ⟨.newline, ""⟩, t.markToken)
        else t.resume .start "" := by
  obtain ⟨t, rest, hrest, ht, hin, heq⟩ := resume_cons h
  refine ⟨(t.advance '/' rest).noted .blockCommentStar '/', (ht.advance hrest).note _,
    (hin.advance '/' rest).noted .blockCommentStar '/', ?_⟩
  have hstep : step .blockCommentStar (some '/') lexeme = .ok { next := .start } := rfl
  rw [heq, readChar_inside rfl (by decide) hstep]
  simp only [if_true, State.inBlockComment, Bool.and_true]
  generalize (t.advance '/' rest).noted .blockCommentStar '/' = u
  cases u.layout && u.metNewline <;> rfl

/-- Behind a closed comment the scan goes on, unless in layout mode a line break has been noted. -/
theorem resume_close (h : Stands s before ('/' :: after))
    (hquiet : s.layout = true → s.metNewline = false) (lexeme : String) :
    ∃ s', Stands s' (before ++ ['/']) after ∧ Inside s s' false ∧
      s.resume .blockCommentStar lexeme = s'.resume .start "" := by
  obtain ⟨s', hs', hin, heq⟩ := resume_close_eq h lexeme
  refine ⟨s', hs', hin, ?_⟩
  rw [heq, if_neg]
  rw [hin.layout_eq, hin.metNewline_eq, Bool.or_false, Bool.and_eq_true]
  intro hnoted
  rw [hquiet hnoted.1] at hnoted
  exact Bool.false_ne_true hnoted.2

/-- In layout mode a comment over several lines is a line break. -/
theorem resume_closeBreak (h : Stands s before ('/' :: after)) (hlayout : s.layout = true)
    (hmet : s.metNewline = true) (lexeme : String) :
    ∃ s', Stands s' (before ++ ['/']) after ∧ Onward s s' false ∧
      s.resume .blockCommentStar lexeme = (.ok ⟨.newline, ""⟩, s') := by
  obtain ⟨t, ht, hin, heq⟩ := resume_close_eq h lexeme
  refine ⟨t.markToken, ht.markToken, ⟨hin.source_eq, hin.layout_eq, hin.metNewline_eq⟩, ?_⟩
  rw [heq, if_pos]
  rw [hin.layout_eq, hin.metNewline_eq, hlayout, hmet]
  rfl

/-! ## Between tokens -/

/-- A separator is skipped, unless it is a line feed in layout mode. -/
theorem resume_separator (h : Stands s before (c :: after))
    (hfeed : ¬(s.layout = true ∧ c = '\n')) (hsep : isSeparator c = true) :
    ∃ s', Stands s' (before ++ [c]) after ∧ Onward s s' ('\n' == c) ∧
      s.resume .start "" = s'.resume .start "" := by
  obtain ⟨t, rest, hrest, ht, hin, heq⟩ := resume_cons h
  have hmet := ((hin.advance c rest).noted .start c).toOnward
  rw [show isNoted .start c = ('\n' == c) by simp [isNoted]] at hmet
  refine ⟨(t.advance c rest).noted .start c, (ht.advance hrest).note _, hmet, ?_⟩
  have hstep : fromStart (some c) = { next := .start } := by simp [fromStart, hsep]
  rw [← hin.layout_eq] at hfeed
  rw [heq, readChar_start hfeed hstep, if_pos hsep]
  rfl

/-- In layout mode a line feed is a token. -/
theorem resume_lineFeed (h : Stands s before ('\n' :: after)) (hlayout : s.layout = true) :
    ∃ s', Stands s' (before ++ ['\n']) after ∧ Onward s s' true ∧
      s.resume .start "" = (.ok ⟨.newline, ""⟩, s') := by
  obtain ⟨t, rest, hrest, ht, hin, heq⟩ := resume_cons h
  refine ⟨({ t with metNewline := true } : Scanner).markToken.advance '\n' rest,
    (ht.note true).markToken.advance hrest, ⟨hin.source_eq, hin.layout_eq, ?_⟩, ?_⟩
  · exact (Bool.or_true _).symm
  · rw [heq, readChar, if_pos ⟨hin.layout_eq.trans hlayout, rfl, rfl⟩]

/-- Anything else begins a token or a comment, and the place before it is marked. -/
theorem resume_begin (h : Stands s before (c :: after)) (hsep : isSeparator c = false)
    {look : Step} (hstep : fromStart (some c) = look) (hconsume : look.consume = true)
    (hnext : look.emit = none → look.next ≠ .start) :
    ∃ s', Stands s' (before ++ [c]) after ∧ Onward s s' false ∧ s'.Marked before ∧
      s.resume .start "" = match look.emit with
        | some token => (.ok token, s')
        | none => s'.resume look.next ((look.append.map "".push).getD "") := by
  obtain ⟨t, rest, hrest, ht, hin, heq⟩ := resume_cons h
  have hne : c ≠ '\n' := by
    rintro rfl
    cases hsep
  refine ⟨(t.markToken.advance c rest).noted .start c, (ht.markToken.advance hrest).note _,
    ⟨hin.source_eq, hin.layout_eq, ?_⟩, ⟨ht.line_eq, ?_⟩, ?_⟩
  · simp [noted, isNoted, hne.symm, advance, markToken, hin.metNewline_eq]
  · have hcol := ht.column_eq (List.cons_ne_nil _ _)
    rw [hrest, if_neg (List.cons_ne_nil _ _)] at hcol
    simp [noted, advance, markToken, hrest, hcol]
  · rw [heq, readChar_start (fun h => hne h.2) hstep, if_neg (by simp [hsep])]
    cases hemit : look.emit with
    | some token => simp [hconsume]
    | none => simp [hconsume, hnext hemit]

/-- A line comment is over in front of its line feed and at the end of the text. -/
theorem resume_lineEnd (h : Stands s before after) (hafter : after = [] ∨ after.head? = some '\n')
    (lexeme : String) : s.resume .lineComment lexeme = s.resume .start "" := by
  cases after with
  | nil =>
    rw [resume_nil h, resume_nil h]
    rfl
  | cons c after =>
    obtain rfl : c = '\n' := by simpa using hafter
    obtain ⟨t, rest, -, -, -, heq⟩ := resume_cons h
    rw [heq, heq]
    rfl

end ServiceSyntax.Scanner
