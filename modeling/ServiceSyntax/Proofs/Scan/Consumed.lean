import ServiceSyntax.Proofs.Scan.Order
import ServiceSyntax.Proofs.Scan.Place

/-!
# What has been consumed of a text

A scan leaves a line for the next one between tokens, in a string or in a block comment only
(`State.crosses`), so nothing is looked at behind a token that ends a line. Between two calls the
lines retained are thus the first ones of the text, and the last of them holds the last character
that has been consumed (`Consumed`, `consumed_lines`). Behind the end of the file nothing changes
(`next_over`).
-/

namespace ServiceSyntax

open Scan Text

namespace Scan

/-- The states in which a scan goes on behind the end of a line. -/
def State.crosses : State → Bool
  | start | string | blockComment => true
  | _ => false

variable {state : State} {lexeme : String} {c : Char} {look : Step}

/-- A line feed that completes no token leads into one of these states. -/
theorem crosses_of_step (h : step state (some '\n') lexeme = .ok look) (hemit : look.emit = none) :
    look.next.crosses = true := by
  have hseparator : isSeparator '\n' = true := rfl
  have hword : isWordChar '\n' = false := by decide +kernel
  have hdigit : Text.isDigit '\n' = false := by decide +kernel
  cases state <;> simp only [step, fromStart, fromOperator, Except.ok.injEq] at h <;>
    grind [Scan.before, Scan.after, State.crosses]

/-- In these states every character is used up. -/
theorem consume_of_crosses (h : step state (some c) lexeme = .ok look)
    (hcrosses : state.crosses = true) : look.consume = true := by
  cases state <;> simp only [State.crosses, Bool.false_eq_true] at hcrosses <;>
    simp only [step, fromStart, Except.ok.injEq] at h <;>
    grind [Scan.before, Scan.after]

end Scan

namespace Scanner

variable {s t u : Scanner} {state : State} {lexeme : String} {c : Char} {rest : List Char}

/-- A scan that does not go on in the next line has begun in the present one. -/
structure Begun (state : State) (s : Scanner) : Prop where
  column_pos : state.crosses = false → 0 < s.column
  unread_eq : state.crosses = false → s.rest = [] → s.unread = []

theorem begun_of_crosses (h : state.crosses = true) (s : Scanner) : Begun state s := by
  have hno : state.crosses ≠ false := by simp [h]
  exact ⟨fun heq => absurd heq hno, fun heq => absurd heq hno⟩

/-- Behind a character the scan has begun in its line, or it goes on in the next one. -/
theorem Counted.begun_looked (h : Counted s) (hrest : s.rest = c :: rest) {look : Step}
    (hstep : step state (some c) lexeme = .ok look) (hemit : look.emit = none)
    (hconsume : look.consume = true) : Begun look.next (s.looked state c rest look) := by
  obtain ⟨hu, hunread, -, hcolumn⟩ := looked_of_consume hconsume s state c rest
  refine ⟨fun _ => by omega, fun hcrosses hnil => ?_⟩
  rw [hu] at hnil
  rw [hunread]
  apply h.unread_eq_of_advance (hnil ▸ hrest)
  rintro rfl
  rw [crosses_of_step hstep hemit] at hcrosses
  cases hcrosses

/-- A look that leaves its character unused stands behind another one of the same token. -/
theorem Begun.column_pos_looked (h : Begun state s) {look : Step}
    (hstep : step state (some c) lexeme = .ok look) (rest : List Char) :
    0 < (s.looked state c rest look).column := by
  by_cases hconsume : look.consume = true
  · rw [(looked_of_consume hconsume s state c rest).2.2.2]
    exact Nat.succ_pos s.column
  · have hcrosses : state.crosses = false := by
      rw [Bool.eq_false_iff]
      exact fun hcrosses => hconsume (consume_of_crosses hstep hcrosses)
    have hsame : (s.looked state c rest look).column = s.column := by
      simp only [looked, if_neg hconsume]
      split <;> rfl
    exact hsame ▸ h.column_pos hcrosses

theorem Begun.settled (h : Begun state s) (look : Option Char) : Begun (state.settled look) s := by
  unfold State.settled
  split
  · exact begun_of_crosses rfl s
  · exact h

theorem Counted.readChar_begun (h : Counted s) (hrest : s.rest = c :: rest)
    (hkept : Begun state s) :
    (s.readChar state lexeme c rest).Leads (fun state _ => Begun state)
      fun _ u => u.rest ≠ [] → 0 < u.column := by
  have hsettled := hkept.settled (some c)
  refine readChar_spec ?newline ?failed ?emitted ?comment ?onward
  case newline => exact fun _ _ _ => Nat.succ_pos s.column
  case failed =>
    intro e hstep _
    apply hsettled.column_pos
    rw [(unescape?_of_step hstep).1]
    rfl
  case emitted => exact fun _ _ hstep _ _ => hsettled.column_pos_looked hstep rest
  case comment => exact fun _ hstep _ _ _ _ => hsettled.column_pos_looked hstep rest
  case onward =>
    intro look hstep hemit
    exact h.begun_looked hrest hstep hemit (step_consume (settled_settled state _) hstep hemit)

/-! ## Texts -/

/-- The scanner stands somewhere in the text. -/
structure Within (text : String) (s : Scanner) : Prop extends Counted s where
  exists_stands : ∃ before after, text.toList = before ++ after ∧ Stands s before after

theorem within_ofText (text name : String) (layout : Bool) :
    Within text (ofText text name layout) :=
  ⟨counted_ofText text name layout, [], text.toList, rfl, stands_ofText text name layout⟩

theorem steady_within (text : String) : Steady (Within text) where
  markToken s h := by
    obtain ⟨before, after, htext, hstands⟩ := h.exists_stands
    exact ⟨h.toCounted.markToken, before, after, htext, hstands.markToken⟩
  note s met h := by
    obtain ⟨before, after, htext, hstands⟩ := h.exists_stands
    exact ⟨h.toCounted.note met, before, after, htext, hstands.note met⟩
  advance s c rest hrest h := by
    obtain ⟨before, after, htext, hstands⟩ := h.exists_stands
    have hafter := hstands.after_eq
    rw [hrest, List.cons_append] at hafter
    subst hafter
    refine ⟨h.toCounted.advance hrest, before ++ [c], _, ?_, hstands.advance hrest⟩
    rw [htext, List.append_assoc]
    rfl
  load s line unread hrest hunread h := by
    obtain ⟨before, after, htext, hstands⟩ := h.exists_stands
    obtain ⟨chars, rfl, -, hloaded⟩ := hstands.load hrest hunread
    exact ⟨h.toCounted.load hrest hunread, before, after, htext, hloaded⟩

/-- No line of a text is broken. -/
theorem Within.sound {text : String} (h : Within text s) :
    ∀ line ∈ s.unread, ∃ chars, line = .sound chars := by
  obtain ⟨before, after, -, hstands⟩ := h.exists_stands
  exact hstands.sound

/-- Something of the present line has been consumed, as it is between two calls. -/
structure Entered (text : String) (s : Scanner) : Prop extends Within text s where
  column_pos : s.rest ≠ [] → 0 < s.column

theorem Entered.next {text : String} (h : Entered text s) : Entered text s.next.2 := by
  obtain ⟨hover, hcolumn⟩ : Over (Within text) s.next.1 s.next.2 ∧
      (s.next.2.rest ≠ [] → 0 < s.next.2.column) := by
    refine (steady_within text).next_spec h.toWithin (fun state _ => Begun state)
      (fun _ u => u.rest ≠ [] → 0 < u.column) ?start ?character ?sound ?broken ?ended
    case start => exact begun_of_crosses rfl _
    case character =>
      intro t state lexeme c rest hinv hrest hkept
      exact hinv.readChar_begun hrest hkept
    case sound =>
      intro t state lexeme chars unread hinv hrest hunread hkept
      -- a line is taken up in a state that goes on in it
      apply begun_of_crosses
      rw [← Bool.not_eq_false]
      intro hcrosses
      rw [hkept.unread_eq hcrosses hrest] at hunread
      cases hunread
    case broken =>
      intro t valid byte others unread e u hinv _ hunread _
      obtain ⟨chars, hchars⟩ := hinv.sound _ (hunread ▸ List.mem_cons_self)
      cases hchars
    case ended =>
      intro t state lexeme _ hrest _ _ hne
      obtain ⟨token, -, -, hfinish⟩ := exists_finish state lexeme
      have hsame : (t.finish state lexeme).2.rest = t.rest := by
        rw [hfinish]
        split <;> rfl
      exact absurd (hsame.trans hrest) hne
  exact ⟨hover.keeps, hcolumn⟩

/-- At the end of the source there is nothing to be dropped. -/
theorem skipLine_over (hrest : s.rest = []) (hunread : s.unread = []) :
    s.skipLine = (.ok 0, s) := by
  rw [skipLine, hunread, skipLines, hrest]
  rfl

/-- Where nothing is left of a line the next one is dropped. -/
theorem skipLine_sound {chars : List Char} {unread : Source} (hrest : s.rest = [])
    (hunread : s.unread = .sound chars :: unread) :
    s.skipLine = (s.taken chars unread).skipLine := by
  rw [skipLine, hunread, skipLines, hrest]
  rfl

theorem Counted.rest_skipLine (h : Counted s) (hrest : s.rest ≠ []) : s.skipLine.2.rest = [] := by
  obtain ⟨skipped, t, hskip, -, hnil, -⟩ := h.skipLine_of_rest hrest
  rw [hskip]
  exact hnil

/-- Where a line has been dropped the scanner stands behind its end. -/
theorem Within.rest_skipLine {text : String} (h : Within text s) : s.skipLine.2.rest = [] := by
  by_cases hrest : s.rest = []
  · cases hunread : s.unread with
    | nil => rw [skipLine_over hrest hunread, hrest]
    | cons line unread =>
      obtain ⟨before, after, -, hstands⟩ := h.exists_stands
      obtain ⟨chars, rfl, hchars, -⟩ := hstands.load hrest hunread
      rw [skipLine_sound hrest hunread]
      exact (h.toCounted.load hrest hunread).rest_skipLine hchars
  · exact h.toCounted.rest_skipLine hrest

/-- This holds behind every call, whatever came of the ones before. -/
theorem Entered.reaches {text : String} (h : Entered text s) (hreach : s.Reaches t) :
    Entered text t := by
  induction hreach with
  | refl => exact h
  | next _ ih => exact ih.next
  | skipLine _ ih =>
    exact ⟨((steady_within text).skipLine ih.toWithin).1,
      fun hne => absurd ih.toWithin.rest_skipLine hne⟩

/-! ## Lines -/

/-- The number of characters in the first lines of a text. -/
def lengthThrough (text : String) (n : Nat) : Nat :=
  ((sourceLines text.toList).take n).flatten.length

theorem lengthThrough_succ {text : String} {n : Nat} {line : List Char}
    (h : (sourceLines text.toList)[n]? = some line) :
    lengthThrough text (n + 1) = lengthThrough text n + line.length := by
  rw [lengthThrough, lengthThrough, List.take_add_one, h, List.flatten_append, List.length_append]
  simp

/-- The scanner has consumed that many characters of the text. Its lines are the first ones of the
text, and no other one has been read; the last of them holds the last character consumed. -/
structure Consumed (text : String) (n : Nat) (s : Scanner) : Prop where
  le : n ≤ text.length
  left_eq : s.rest ++ (s.unread.map SourceLine.chars).flatten = text.toList.drop n
  line_eq : s.line = 1 + (text.toList.take n).count '\n'
  retained_eq : s.retained.toList.map String.toList
    = (sourceLines text.toList).take s.retained.size
  unread_eq : s.unread = ((sourceLines text.toList).drop s.retained.size).map .sound
  through_lt : s.retained ≠ #[] → lengthThrough text (s.retained.size - 1) < n
  le_through : n ≤ lengthThrough text s.retained.size

/-- What is retained has been consumed but for the rest of the present line. -/
theorem Stands.flatten_retained {before after : List Char} (h : Stands s before after) :
    (s.retained.toList.map String.toList).flatten = before ++ s.rest := by
  have hflatten := congrArg List.flatten h.lines_eq
  rw [flatten_lines, List.flatten_append, h.after_eq, ← List.append_assoc] at hflatten
  exact (List.append_cancel_right hflatten).symm

/-- Something of the last line retained has been consumed: the line is not empty, so it has been
consumed if nothing is left of it. -/
theorem Entered.rest_lt {text : String} (h : Entered text s) (hne : s.retained ≠ #[]) :
    s.rest.length < s.currentLine.toList.length := by
  by_cases hrest : s.rest = []
  · obtain ⟨before, after, -, hstands⟩ := h.exists_stands
    have hline := ne_nil_of_mem_lines (List.mem_of_getElem? (hstands.getElem?_currentLine hne))
    rw [hrest]
    exact List.length_pos_iff.2 hline
  · obtain ⟨consumed, hconsumed, hlength⟩ := h.exists_consumed hrest
    have hcolumn := h.column_pos hrest
    rw [hconsumed, List.length_append]
    omega

theorem Entered.consumed {text : String} (h : Entered text s) : ∃ n, Consumed text n s := by
  obtain ⟨before, after, htext, hstands⟩ := h.exists_stands
  have hlines := hstands.lines_eq
  rw [← htext] at hlines
  have hsize : (s.retained.toList.map String.toList).length = s.retained.size := by simp
  have hretained : (sourceLines text.toList).take s.retained.size
      = s.retained.toList.map String.toList := by
    rw [hlines, ← hsize, List.take_left]
  have hthrough : lengthThrough text s.retained.size = before.length + s.rest.length := by
    rw [lengthThrough, hretained, hstands.flatten_retained, List.length_append]
  refine ⟨before.length, ?_, ?_, ?_, hretained.symm, ?_, ?_, ?_⟩
  · rw [← String.length_toList, htext, List.length_append]
    omega
  · rw [← hstands.after_eq, htext, List.drop_left]
  · rw [htext, List.take_left]
    exact hstands.line_eq
  · -- no line that is left is broken
    have hunread : ∀ line ∈ s.unread, (SourceLine.sound ∘ SourceLine.chars) line = line := by
      intro line hline
      obtain ⟨chars, rfl⟩ := hstands.sound line hline
      rfl
    rw [hlines, ← hsize, List.drop_left, List.map_map, List.map_congr_left hunread, List.map_id']
  · intro hne
    have hcurrent := hstands.getElem?_currentLine hne
    rw [← htext] at hcurrent
    have hlast := lengthThrough_succ hcurrent
    rw [Nat.sub_add_cancel (Array.size_pos_iff.2 hne), hthrough] at hlast
    have hlt := h.rest_lt hne
    omega
  · omega

/-- At the end of the source all of the text has been consumed. -/
theorem Consumed.eq_length {text : String} {n : Nat} (h : Consumed text n s) (hrest : s.rest = [])
    (hunread : s.unread = []) : n = text.length := by
  have hleft := h.left_eq
  rw [hrest, hunread, eq_comm] at hleft
  have hle := List.drop_eq_nil_iff.1 hleft
  rw [String.length_toList] at hle
  exact Nat.le_antisymm h.le hle

/-- Where no line is left all lines of the text are retained. -/
theorem Consumed.join_retained {text : String} {n : Nat} (h : Consumed text n s)
    (hunread : s.unread = []) : String.join s.retained.toList = text := by
  have hover := h.unread_eq
  rw [hunread, eq_comm, List.map_eq_nil_iff, List.drop_eq_nil_iff] at hover
  rw [← String.toList_inj, String.toList_join, List.flatMap_def, h.retained_eq,
    List.take_of_length_le hover, flatten_lines]

/-! ## The end of the file -/

/-- The end of the file is marked where the scanner stands. -/
theorem markToken_of_endOfFile {token : Token} (hnext : s.next = (.ok token, t))
    (hfile : token.kind = .endOfFile) : t.markToken = t := by
  have hmarked : ∀ token, s.next.1 = .ok token → token.kind = .endOfFile →
      s.next.2.markToken = s.next.2 := by
    rw [next_eq_resume]
    refine resume_spec (fun _ _ _ => True)
      (fun result u => ∀ token, result = .ok token → token.kind = .endOfFile → u.markToken = u)
      ?character ?sound ?broken ?ended trivial
    case character =>
      intro s state lexeme c rest _ _
      -- no character completes the end of the file
      refine readChar_spec ?newline (fun _ _ _ => nofun) ?emitted ?comment fun _ _ _ => trivial
      case newline =>
        intro _ _ token heq hkind
        cases heq
        cases hkind
      case emitted =>
        intro look token hstep hemit token' heq hkind
        cases heq
        exact absurd hkind ((kind_of_emit hstep hemit).2 (by simp))
      case comment =>
        intro look _ _ _ _ token heq hkind
        cases heq
        cases hkind
    case sound => exact fun _ _ _ _ _ _ _ _ => trivial
    case broken =>
      intro s state lexeme valid byte others unread e t _ _ _ _ token heq
      cases heq
    case ended =>
      intro s state lexeme _ _ _ token heq hkind
      obtain ⟨token', -, hend, hfinish⟩ := exists_finish state lexeme
      rw [hfinish] at heq ⊢
      cases heq
      rw [if_pos (hend.1 hkind)]
      rfl
  rw [hnext] at hmarked
  exact hmarked token rfl hfile

/-- At the end of the file it is met again, at the same place. -/
theorem next_over (hrest : s.rest = []) (hunread : s.unread = []) (hmarked : s.markToken = s)
    (met : Bool) : ({ s with metNewline := met } : Scanner).next
      = (.ok ⟨.endOfFile, ""⟩, { s with metNewline := false }) := by
  have hfinish := @resume_over { s with metNewline := false } hrest hunread .start ""
  rw [next_eq_resume]
  exact hfinish.trans (congrArg (fun s : Scanner =>
    ((.ok ⟨.endOfFile, ""⟩, { s with metNewline := false }) : Except ScanError Token × Scanner))
    hmarked)

/-- There nothing changes any more but the note of a line break. -/
theorem Reaches.eq_of_over (h : s.Reaches t) (hrest : s.rest = []) (hunread : s.unread = [])
    (hmarked : s.markToken = s) : ∃ met, t = { s with metNewline := met } := by
  induction h with
  | refl => exact ⟨s.metNewline, rfl⟩
  | next _ ih =>
    obtain ⟨met, rfl⟩ := ih
    exact ⟨false, congrArg Prod.snd (next_over hrest hunread hmarked met)⟩
  | skipLine _ ih =>
    obtain ⟨met, rfl⟩ := ih
    exact ⟨met, congrArg Prod.snd (@skipLine_over { s with metNewline := met } hrest hunread)⟩

/-! ## Calls -/

theorem Counted.retained_ne (h : Counted s) (hrest : s.rest ≠ []) : s.retained ≠ #[] := by
  have hline := h.line_eq hrest
  have hpos := h.line_pos
  rw [← Array.size_pos_iff]
  omega

theorem Grown.retained_ne (h : Grown s t) (hs : s.retained ≠ #[]) : t.retained ≠ #[] := by
  have hle := h.size_le
  rw [← Array.size_pos_iff] at hs ⊢
  omega

/-- A token has been read from a line. -/
theorem Over.retained_ne {token : Token} (h : Over Counted (.ok token) t)
    (hkind : token.kind ≠ .endOfFile) : t.retained ≠ #[] := by
  by_cases hbreak : token.kind = .newline
  · obtain ⟨u, c, rest, hu, hrest, hbegan⟩ := h.broke token rfl hbreak
    have hne := hu.retained_ne (by simp [hrest])
    rcases hbegan with hbegan | ⟨-, hbegan⟩
    · exact hbegan.toGrown.retained_ne hne
    · exact hbegan.toGrown.retained_ne hne
  · obtain ⟨u, hu, hbegan, hend⟩ := h.began token rfl hbreak
    exact hbegan.toGrown.retained_ne (hu.retained_ne fun hnil => hkind (hend hnil).2)

/-- Whatever has been asked of the scanner of a text, its lines are the first ones of the text, and
the last of them holds the last character that it has consumed. At the end of the file they are all
lines of the text, and from there on nothing changes. -/
theorem consumed_lines (text name : String) (layout : Bool)
    (hreach : (ofText text name layout).Reaches s) :
    (∃ n, Consumed text n s) ∧
      ∀ token t, s.next = (.ok token, t) →
        (token.kind ≠ .endOfFile → t.retained ≠ #[] ∧ ∃ n, Consumed text n t) ∧
        (token.kind = .endOfFile → Consumed text text.length t ∧
          String.join t.retained.toList = text ∧
          ∀ u, t.Reaches u → (∃ met, u = { t with metNewline := met }) ∧
            u.next = (.ok ⟨.endOfFile, ""⟩, { t with metNewline := false })) := by
  have hstart : Entered text (ofText text name layout) :=
    ⟨within_ofText text name layout, absurd rfl⟩
  have hentered := hstart.reaches hreach
  refine ⟨hentered.consumed, fun token t hnext => ?_⟩
  have hafter := hentered.next
  have hover := steady_counted.next hentered.toCounted
  rw [hnext] at hafter hover
  refine ⟨fun hkind => ⟨hover.retained_ne hkind, hafter.consumed⟩, fun hkind => ?_⟩
  obtain ⟨-, hrest, hunread⟩ := hover.ended token rfl hkind
  have hmarked := markToken_of_endOfFile hnext hkind
  obtain ⟨n, hn⟩ := hafter.consumed
  refine ⟨hn.eq_length hrest hunread ▸ hn, hn.join_retained hunread, fun u hu => ?_⟩
  obtain ⟨met, rfl⟩ := hu.eq_of_over hrest hunread hmarked
  exact ⟨⟨met, rfl⟩, next_over hrest hunread hmarked met⟩

/-- Behind a string with a bad escape the second line is read for its word only. -/
theorem consumed_lines_behind_error :
    let text := "\"\\q\"\nb\nc"
    let s := (ofText text "text" true).next.2.skipLine.2
    (ofText text "text" true).Reaches s ∧ (∃ n, Consumed text n s) ∧
      s.next = (.ok ⟨.identifier, "b"⟩, s.next.2) ∧ s.next.2.retained = #["\"\\q\"\n", "b\n"] ∧
      ∃ n, Consumed text n s.next.2 := by
  intro text s
  have hreach : (ofText text "text" true).Reaches s := .skipLine (.next .refl)
  have hnext : s.next = (.ok ⟨.identifier, "b"⟩, s.next.2) := by decide +kernel
  have hretained : s.next.2.retained = #["\"\\q\"\n", "b\n"] := by decide +kernel
  obtain ⟨hconsumed, hafter⟩ := consumed_lines text "text" true hreach
  obtain ⟨-, hword⟩ := (hafter _ _ hnext).1 (by decide)
  exact ⟨hreach, hconsumed, hnext, hretained, hword⟩

end Scanner

end ServiceSyntax
