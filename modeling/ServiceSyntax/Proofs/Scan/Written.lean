import ServiceSyntax.Proofs.Diagnostic.Excerpt
import ServiceSyntax.Proofs.Scan.Span

/-!
# Tokens in their lines

Inside a token the lexeme is what the characters behind the marked place have written so far
(`State.Writes`), as long as the scan stays in the line of that place. So a word, a number or a
literal that lies in one line is spelt there at its place (`Counted.written_of_next`), for any
source and in layout mode as well as outside it.
-/

namespace ServiceSyntax

open Scan Lexis

namespace Scan

variable {state : State} {lexeme : String} {c : Char} {look : Step}

/-- In these states a token has begun. -/
def State.inToken : State → Bool
  | start | blockComment | blockCommentStar | lineComment => false
  | _ => true

theorem State.ne_start_of_inToken (h : state.inToken = true) : state ≠ .start := by
  rintro rfl
  cases h

/-- What is written of a token so far. -/
def State.Writes (state : State) (lexeme : String) (written : List Char) : Prop :=
  match state with
  | string => ∃ body, written = '"' :: body ∧ Spells body lexeme.toList
  | stringEscape => ∃ body, written = '"' :: body ++ ['\\'] ∧ Spells body lexeme.toList
  | _ => written = lexeme.toList

/-- Outside a literal the lexeme gains the character that is written. -/
theorem writes_gained {next : State} (h : next ≠ .start ∧ next ≠ .string ∧ next ≠ .stringEscape)
    (lexeme : String) (c : Char) :
    next.Writes (Scanner.gained lexeme { next, append := some c }) (lexeme.toList ++ [c]) := by
  have hgained : Scanner.gained lexeme { next, append := some c } = lexeme.push c := if_neg h.1
  rw [hgained, ← String.toList_push]
  cases next <;> first | rfl | simp at h

theorem opener?_ne {next : State} (h : opener? c = some next) :
    next ≠ .start ∧ next ≠ .string ∧ next ≠ .stringEscape := by
  unfold opener? at h
  split at h <;> cases h <;> decide

/-- A token begins with a character that is no separator. -/
theorem writes_of_open (h : step .start (some c) "" = .ok look)
    (hnext : look.next.inToken = true) :
    isSeparator c = false ∧ look.next.Writes (Scanner.gained "" look) [c] := by
  obtain rfl := Except.ok.inj h
  have hgap (emit : Option Token) : ({ next := .start, emit } : Step).next.inToken ≠ true :=
    fun hin => State.ne_start_of_inToken hin rfl
  revert hnext
  simp only [fromStart]
  split
  · exact fun hnext => absurd hnext (hgap none)
  · rename_i hsep
    refine fun hnext => ⟨Bool.eq_false_iff.2 hsep, ?_⟩
    revert hnext
    split
    · exact fun _ => @writes_gained .identifier (by decide) "" c
    split
    · exact fun _ => @writes_gained .integer (by decide) "" c
    split
    · rename_i hquote
      exact fun _ => ⟨[], by rw [hquote], .nil⟩
    split
    · rename_i hopen
      exact fun _ => writes_gained (opener?_ne hopen) "" c
    · exact fun hnext => absurd hnext (hgap _)
    · exact fun hnext => absurd hnext (hgap _)

/-- Behind a character of its class a run goes on, with this character. -/
theorem of_filter {p : Char → Bool} {next : State} {stopped : Step}
    (h : (match (some c).filter p with
      | some c => { next, append := some c }
      | none => stopped) = look) (hemit : look.emit = none) (hstopped : stopped.emit ≠ none) :
    look = { next, append := some c } := by
  cases hc : p c with
  | true => simpa [Option.filter, hc, eq_comm] using h
  | false =>
    have hlook : stopped = look := by simpa [Option.filter, hc] using h
    exact absurd (hlook ▸ hemit) hstopped

/-- A token grows by one character, or it has not begun in this state. -/
theorem writes_of_step (h : step state (some c) lexeme = .ok look) (hemit : look.emit = none)
    (hstart : state ≠ .start) (hnext : look.next.inToken = true) :
    state.inToken = true ∧ ∀ written, state.Writes lexeme written →
      look.next.Writes (Scanner.gained lexeme look) (written ++ [c]) := by
  have hrun {next : State} (hlook : look = { next, append := some c })
      (hstate : next ≠ .start ∧ next ≠ .string ∧ next ≠ .stringEscape) (written : List Char)
      (hwritten : written = lexeme.toList) :
      look.next.Writes (Scanner.gained lexeme look) (written ++ [c]) := by
    rw [hlook, hwritten]
    exact writes_gained hstate lexeme c
  cases state with
  | start => exact absurd rfl hstart
  | identifier =>
    exact ⟨rfl, hrun (of_filter (Except.ok.inj h) hemit nofun) (by decide)⟩
  | integer =>
    exact ⟨rfl, hrun (of_filter (Except.ok.inj h) hemit nofun) (by decide)⟩
  | minus =>
    exact ⟨rfl, hrun (of_filter (Except.ok.inj h) hemit nofun) (by decide)⟩
  | string =>
    refine ⟨rfl, ?_⟩
    rintro written ⟨body, rfl, hspells⟩
    have hlook := Except.ok.inj h
    by_cases hquote : c = '"'
    · rw [if_pos hquote] at hlook
      rw [← hlook] at hemit
      cases hemit
    rw [if_neg hquote] at hlook
    by_cases hback : c = '\\'
    · rw [if_pos hback] at hlook
      rw [← hlook, hback]
      exact ⟨body, rfl, hspells⟩
    · rw [if_neg hback] at hlook
      rw [← hlook]
      refine ⟨body ++ [c], rfl, ?_⟩
      show Spells (body ++ [c]) (lexeme.push c).toList
      rw [String.toList_push]
      exact hspells.append (.plain hquote hback .nil)
  | stringEscape =>
    refine ⟨rfl, ?_⟩
    rintro written ⟨body, rfl, hspells⟩
    cases hmeant : unescape? c with
    | none =>
      simp only [step, hmeant] at h
      cases h
    | some meant =>
      simp only [step, hmeant] at h
      obtain rfl := Except.ok.inj h
      refine ⟨body ++ ['\\', c], by simp, ?_⟩
      show Spells (body ++ ['\\', c]) (lexeme.push meant).toList
      rw [String.toList_push]
      exact hspells.append (.escape (Scanner.unescape?_eq_lookup c ▸ hmeant) .nil)
  | _ =>
    -- an operator is complete behind its second character, and comments are no tokens
    simp only [step, fromOperator, Except.ok.injEq] at h
    grind [Scan.before, Scan.after, State.inToken]

/-- The kinds of tokens that have a content of their own. -/
def worded : List Kind := [.identifier, .integer, .string]

/-- A token with a content is complete in front of a character that does not belong to it, or with
its closing quote. -/
theorem speltBy_of_emit {look : Option Char} {seen : Step} {token : Token}
    (h : step state look lexeme = .ok seen) (hemit : seen.emit = some token)
    (hkind : token.kind ∈ worded) :
    state.inToken = true ∧ ∀ written, state.Writes lexeme written →
      token.SpeltBy (written ++ if seen.consume then look.toList else []) := by
  have hstates : (state = .identifier ∧ token = Token.ofWord lexeme ∧ seen.consume = false) ∨
      (state = .integer ∧ token = ⟨.integer, lexeme⟩ ∧ seen.consume = false) ∨
      (state = .string ∧ look = some '"' ∧ token = ⟨.string, lexeme⟩ ∧ seen.consume = true) := by
    simp only [worded, List.mem_cons, List.not_mem_nil, or_false] at hkind
    cases state <;> cases look <;>
      simp only [step, fromStart, fromOperator, unclosedString, unclosedComment, Except.ok.injEq]
        at h <;>
      grind [Scan.before, Scan.after]
  rcases hstates with ⟨rfl, rfl, hconsume⟩ | ⟨rfl, rfl, hconsume⟩ | ⟨rfl, rfl, rfl, hconsume⟩
  · refine ⟨rfl, ?_⟩
    rintro written rfl
    rw [hconsume, if_neg Bool.false_ne_true, List.append_nil]
    exact Token.speltBy_ofWord lexeme
  · refine ⟨rfl, ?_⟩
    rintro written rfl
    rw [hconsume, if_neg Bool.false_ne_true, List.append_nil]
    rfl
  · refine ⟨rfl, ?_⟩
    rintro written ⟨body, rfl, hspells⟩
    rw [hconsume]
    exact ⟨body, rfl, hspells⟩

end Scan

namespace Scanner

variable {s t : Scanner} {state : State} {lexeme : String} {c : Char} {rest : List Char}

/-- The characters from the marked place up to the scanner, if they stand in the present line. -/
def Behind (s : Scanner) (written : List Char) : Prop :=
  ∃ before, s.currentLine.toList = before ++ written ++ s.rest ∧ s.tokenColumn = before.length

/-- In a gap there is no lexeme, and in a token the lexeme is what has been written of it. -/
structure Writing (state : State) (lexeme : String) (s : Scanner) : Prop where
  lexeme_eq : state = .start → lexeme = ""
  tokenLine_le : state.inToken = true → s.tokenLine ≤ s.retained.size
  exists_written : state.inToken = true → s.tokenLine = s.retained.size →
    ∃ written, s.Behind written ∧ state.Writes lexeme written

theorem writing_of_not_inToken (h : state.inToken = false) (hlexeme : state = .start → lexeme = "")
    (s : Scanner) : Writing state lexeme s := by
  have hno : state.inToken ≠ true := by simp [h]
  exact ⟨hlexeme, fun heq => absurd heq hno, fun heq => absurd heq hno⟩

/-- A word, a number or a literal that ends in the line of its place is spelt there. -/
structure Spelt (token : Token) (s : Scanner) : Prop where
  tokenLine_le : s.tokenLine ≤ s.retained.size
  exists_written : s.tokenLine = s.retained.size →
    ∃ written, s.Behind written ∧ token.SpeltBy written

/-- A look inside a token leaves the mark alone. -/
theorem looked_inside (hstart : state ≠ .start) (s : Scanner) (c : Char) (rest : List Char)
    (look : Step) :
    (s.looked state c rest look).tokenLine = s.tokenLine ∧
      (s.looked state c rest look).tokenColumn = s.tokenColumn ∧
      (s.looked state c rest look).retained = s.retained ∧
      (s.looked state c rest look).rest = if look.consume then rest else s.rest := by
  simp only [looked, if_neg (not_and_of_not_left _ hstart)]
  split <;> exact ⟨rfl, rfl, rfl, rfl⟩

/-- A look at the first character of a token marks its place. -/
theorem looked_opened (hsep : isSeparator c = false) (hrest : s.rest = c :: rest) {look : Step}
    (hconsume : look.consume = true) : (s.looked .start c rest look).tokenLine = s.line ∧
      (s.looked .start c rest look).tokenColumn = s.column := by
  have hmark : s.markToken.tokenColumn = s.column := by
    simp [Scanner.markToken, hrest]
  simp only [looked, hsep, hconsume]
  exact ⟨rfl, hmark⟩

theorem Behind.looked {written : List Char} (h : s.Behind written) (hstart : state ≠ .start)
    (hrest : s.rest = c :: rest) (look : Step) :
    (s.looked state c rest look).Behind
      (written ++ if look.consume then (some c).toList else []) := by
  obtain ⟨before, hline, hcolumn⟩ := h
  obtain ⟨-, hcolumn', hretained, hrest'⟩ := looked_inside hstart s c rest look
  refine ⟨before, ?_, hcolumn'.trans hcolumn⟩
  rw [currentLine, hretained, hrest']
  refine hline.trans ?_
  split
  · simp [hrest]
  · simp

/-- Only a line comment settles, in front of its line feed or of the end, and then it is over. -/
theorem settled_eq_or (state : State) (look : Option Char) :
    state.settled look = state ∨
      state.settled look = .start ∧ state ≠ .start ∧ (look = none ∨ look = some '\n') := by
  unfold State.settled
  split
  · rename_i hover
    exact .inr ⟨rfl, by simp [hover.1], hover.2⟩
  · exact .inl rfl

theorem settled_of_ne {look : Option Char} (h : state.settled look ≠ .start) :
    state.settled look = state :=
  (settled_eq_or state look).resolve_right fun hover => h hover.1

/-- The first character of a token is the first one written of it. -/
theorem Counted.writing_opened (h : Counted s) (hrest : s.rest = c :: rest) {look : Step}
    (hstep : step .start (some c) "" = .ok look) (hconsume : look.consume = true)
    (hnext : look.next.inToken = true) :
    Writing look.next (gained "" look) (s.looked .start c rest look) := by
  have hne : s.rest ≠ [] := by simp [hrest]
  obtain ⟨hsep, hwrites⟩ := writes_of_open hstep hnext
  obtain ⟨consumed, hconsumed, hlength⟩ := h.exists_consumed hne
  obtain ⟨hrest', -, hretained, -⟩ := looked_of_consume hconsume s .start c rest
  obtain ⟨hline, hcolumn⟩ := looked_opened hsep hrest hconsume
  refine ⟨fun heq => if_pos heq, fun _ => ?_, fun _ _ => ⟨[c], ⟨consumed, ?_, ?_⟩, hwrites⟩⟩
  · rw [hline, hretained]
    exact Nat.le_of_eq (h.line_eq hne)
  · rw [currentLine, hretained, hrest', List.append_assoc, List.singleton_append, ← hrest]
    exact hconsumed
  · rw [hcolumn, hlength]

/-- One more character is written of a token. -/
theorem Writing.looked (h : Writing state lexeme s) (hrest : s.rest = c :: rest) {look : Step}
    (hstep : step state (some c) lexeme = .ok look) (hemit : look.emit = none)
    (hconsume : look.consume = true) (hstart : state ≠ .start)
    (hnext : look.next.inToken = true) :
    Writing look.next (gained lexeme look) (s.looked state c rest look) := by
  obtain ⟨hline, -, hretained, -⟩ := looked_inside hstart s c rest look
  obtain ⟨hin, hwrites⟩ := writes_of_step hstep hemit hstart hnext
  refine ⟨fun heq => if_pos heq, fun _ => ?_, fun _ hsame => ?_⟩
  · rw [hline, hretained]
    exact h.tokenLine_le hin
  · rw [hline, hretained] at hsame
    obtain ⟨written, hbehind, hwritten⟩ := h.exists_written hin hsame
    have hbehind' := hbehind.looked hstart hrest look
    rw [hconsume] at hbehind'
    exact ⟨written ++ [c], hbehind', hwrites written hwritten⟩

theorem Counted.writing_looked (h : Counted s) (hrest : s.rest = c :: rest)
    (hkept : Writing state lexeme s) {look : Step}
    (hstep : step (state.settled (some c)) (some c) lexeme = .ok look) (hemit : look.emit = none) :
    Writing look.next (gained lexeme look) (s.looked (state.settled (some c)) c rest look) := by
  have hconsume := step_consume (settled_settled state _) hstep hemit
  cases hnext : look.next.inToken with
  | false => exact writing_of_not_inToken hnext (fun heq => if_pos heq) _
  | true =>
    rcases settled_eq_or state (some c) with hsame | ⟨hsettled, -, hc⟩
    · rw [hsame] at hstep ⊢
      by_cases hstart : state = .start
      · obtain rfl := hkept.lexeme_eq hstart
        rw [hstart] at hstep ⊢
        exact h.writing_opened hrest hstep hconsume hnext
      · exact hkept.looked hrest hstep hemit hconsume hstart hnext
    · -- a line feed begins no token
      obtain rfl : c = '\n' := by simpa using hc
      rw [hsettled] at hstep
      cases (writes_of_open hstep hnext).1

/-- What completes a token does not move its place. -/
theorem Writing.spelt (h : Writing state lexeme s) {look : Option Char} {seen : Step}
    {token : Token} (hstep : step (state.settled look) look lexeme = .ok seen)
    (hemit : seen.emit = some token) (hkind : token.kind ∈ worded)
    (hline : t.tokenLine = s.tokenLine) (hretained : t.retained = s.retained)
    (hbehind : ∀ written, s.Behind written →
      t.Behind (written ++ if seen.consume then look.toList else [])) : Spelt token t := by
  obtain ⟨hin, hspelt⟩ := speltBy_of_emit hstep hemit hkind
  have hsettled := settled_of_ne (State.ne_start_of_inToken hin)
  rw [hsettled] at hin hspelt
  refine ⟨?_, fun hlast => ?_⟩
  · rw [hline, hretained]
    exact h.tokenLine_le hin
  · rw [hline, hretained] at hlast
    obtain ⟨written, hwritten, hwrites⟩ := h.exists_written hin hlast
    exact ⟨_, hbehind written hwritten, hspelt written hwrites⟩

theorem Counted.readChar_spelt (h : Counted s) (hrest : s.rest = c :: rest)
    (hkept : Writing state lexeme s) :
    (s.readChar state lexeme c rest).Leads Writing
      fun result u => ∀ token, result = .ok token → token.kind ∈ worded → Spelt token u := by
  refine readChar_spec ?newline (fun _ _ _ => nofun) ?emitted ?comment ?onward
  case newline =>
    intro _ _ token heq hkind
    obtain rfl := Except.ok.inj heq
    simp [worded] at hkind
  case emitted =>
    intro look token hstep hemit token' heq hkind
    obtain rfl := Except.ok.inj heq
    have hstart := State.ne_start_of_inToken (speltBy_of_emit hstep hemit hkind).1
    obtain ⟨hline, -, hretained, -⟩ := looked_inside hstart s c rest look
    exact hkept.spelt hstep hemit hkind hline hretained fun written hwritten =>
      hwritten.looked hstart hrest look
  case comment =>
    intro look _ _ _ _ token heq hkind
    obtain rfl := Except.ok.inj heq
    simp [worded] at hkind
  case onward =>
    intro look hstep hemit
    exact h.writing_looked hrest hkept hstep hemit

theorem Writing.finish_spelt (h : Writing state lexeme s) {token : Token}
    (hfinish : (s.finish state lexeme).1 = .ok token) (hkind : token.kind ∈ worded) :
    Spelt token (s.finish state lexeme).2 := by
  rw [finish] at hfinish ⊢
  split at hfinish
  · rename_i hstep
    obtain rfl := Except.ok.inj hfinish
    have hstart := State.ne_start_of_inToken (speltBy_of_emit hstep rfl hkind).1
    rw [if_neg hstart]
    refine h.spelt hstep rfl hkind rfl rfl fun written hwritten => ?_
    simpa using hwritten
  · obtain rfl := Except.ok.inj hfinish
    simp [worded] at hkind

/-- Behind a word, a number or a literal its characters stand in front of the scanner, if it lies in
one line. -/
theorem Counted.spelt_of_next (h : Counted s) {token : Token} (hnext : s.next = (.ok token, t))
    (hkind : token.kind ∈ worded) : Counted t ∧ Spelt token t := by
  obtain ⟨hover, hspelt⟩ : Over Counted s.next.1 s.next.2 ∧
      ∀ token, s.next.1 = .ok token → token.kind ∈ worded → Spelt token s.next.2 := by
    refine steady_counted.next_spec h Writing
      (fun result u => ∀ token, result = .ok token → token.kind ∈ worded → Spelt token u)
      ?start ?character ?sound ?broken ?ended
    case start => exact writing_of_not_inToken rfl (fun _ => rfl) _
    case character =>
      intro u state lexeme c rest hinv hrest hkept
      exact hinv.readChar_spelt hrest hkept
    case sound =>
      intro u state lexeme chars unread hinv hrest hunread hkept
      -- the place is in a line before the present one
      refine ⟨hkept.lexeme_eq, fun hin => ?_, fun hin hsame => ?_⟩
      · have hle := hkept.tokenLine_le hin
        show u.tokenLine ≤ (u.retained.push _).size
        rw [Array.size_push]
        omega
      · have hle := hkept.tokenLine_le hin
        have hsame : u.tokenLine = (u.retained.push _).size := hsame
        rw [Array.size_push] at hsame
        omega
    case broken =>
      intro u valid byte others unread e v _ _ _ _ token heq
      cases heq
    case ended =>
      intro u state lexeme _ _ _ hkept token hfinish hkind
      exact hkept.finish_spelt hfinish hkind
  rw [hnext] at hover hspelt
  exact ⟨hover.keeps, hspelt token rfl hkind⟩

/-- A word, a number or a literal that lies in one line is spelt in that line at its place. -/
theorem Counted.written_of_next (h : Counted s) {token : Token} (hnext : s.next = (.ok token, t))
    (hkind : token.kind ∈ worded) (hline : t.line = t.tokenLine) :
    ∃ before written after : String, t.codeLine? t.tokenLine = some (before ++ written ++ after) ∧
      t.tokenColumn = before.length ∧ token.SpeltBy written.toList := by
  obtain ⟨hcounted, hle, hexists⟩ := h.spelt_of_next hnext hkind
  have hpos := hcounted.line_pos
  have hsize : t.tokenLine = t.retained.size := by
    by_cases hrest : t.rest = []
    · rcases hcounted.line_eq_of_nil hrest with hover | ⟨-, hover⟩ <;> omega
    · have heq := hcounted.line_eq hrest
      omega
  obtain ⟨written, ⟨before, hcurrent, hcolumn⟩, hspelt⟩ := hexists hsize
  refine ⟨.ofList before, .ofList written, .ofList t.rest, ?_, ?_, ?_⟩
  · rw [hsize, codeLine?_size (by omega), ← String.ofList_append, ← String.ofList_append,
      ← hcurrent, String.ofList_toList]
  · rw [hcolumn, String.length_ofList]
  · rwa [String.toList_ofList]

end Scanner

end ServiceSyntax
