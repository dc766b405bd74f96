import ServiceSyntax.Proofs.Diagnostic.Caret
import ServiceSyntax.Proofs.Diagnostic.Excerpt
import ServiceSyntax.Proofs.Scan.Order
import ServiceSyntax.Proofs.Text.Encoding

/-!
# Where a scan stops

A scan stops in front of a character. It is the one behind a backslash that has no escape meaning,
or what is shown for the first bytes of a line that strict decoding rejects (`Offence`).
-/

namespace ServiceSyntax

open Scan Text

namespace Scan

/-! ## Broken lines -/

/-- A line is broken where decoding its bytes fails first. -/
theorem exists_rejected_of_broken {bytes : List UInt8} {valid : List Char} {byte : UInt8}
    {others : List Char} (h : SourceLine.ofPieces (Utf8.pieces bytes) = .broken valid byte others) :
    ∃ behind, bytes = Utf8.encode valid ++ byte :: behind ∧
      ∀ c, ¬ String.utf8EncodeChar c <+: byte :: behind := by
  cases hsplit : Utf8.splitValid (Utf8.pieces bytes) with
  | mk valid' found =>
    rw [SourceLine.ofPieces, hsplit] at h
    cases found with
    | nil => cases h
    | cons piece found =>
      cases piece with
      | char c => cases h
      | invalid first =>
        obtain ⟨rfl, rfl, -⟩ := SourceLine.broken.inj h
        exact Utf8.exists_rejected hsplit

/-- What is said to be wrong in front of a character of a line of the input: the characters of the
line before it, and the character. A byte is given by its two hexadecimal digits and by the number
of bytes before it. -/
inductive Offence (input : Input) (number : Nat) : String → List Char → Char → Prop
  | malformedEscape (before : List Char) (c : Char) : c ∉ ['\\', 'n', 't', '"'] →
      Offence input number "malformed string: bad \\ usage" (before ++ ['\\']) c
  | invalidByte (bytes : List UInt8) (valid : List Char) (byte : UInt8) (behind : List UInt8) :
      input = .bytes bytes →
      (lines (· == 10) bytes)[number - 1]? = some (Utf8.encode valid ++ byte :: behind) →
      (∀ c, ¬ String.utf8EncodeChar c <+: byte :: behind) →
      Offence input number
        ("invalid UTF-8 byte 0x"
          ++ String.ofList [(byte.toNat / 16).digitChar, (byte.toNat % 16).digitChar]
          ++ " at byte offset " ++ toString (Utf8.encode valid).length)
        valid '\uFFFD'

theorem hexDigit_eq_digitChar : ∀ n < 16, hexDigit n = Nat.digitChar n := by
  decide

/-- A byte has two hexadecimal digits. -/
theorem hexDigits_two (byte : UInt8) :
    hexDigits 2 byte.toNat = [(byte.toNat / 16).digitChar, (byte.toNat % 16).digitChar] := by
  have hbyte := byte.toNat_lt
  have hhigh : byte.toNat / 16 % 16 = byte.toNat / 16 := by omega
  show [hexDigit (byte.toNat / 16 % 16), hexDigit (byte.toNat % 16)] = _
  rw [hhigh, hexDigit_eq_digitChar _ (by omega), hexDigit_eq_digitChar _ (by omega)]

theorem description_invalidByte (byte : UInt8) (offset : Nat) :
    (Fault.invalidByte byte offset).description
      = "invalid UTF-8 byte 0x"
        ++ String.ofList [(byte.toNat / 16).digitChar, (byte.toNat % 16).digitChar]
        ++ " at byte offset " ++ toString offset := by
  rw [← hexDigits_two]
  rfl

/-- Only lines of bytes are broken. -/
theorem offence_of_broken {input : Input} {n : Nat} {valid : List Char} {byte : UInt8}
    {others : List Char} (h : input.source[n]? = some (.broken valid byte others)) :
    Offence input (n + 1) (Fault.invalidByte byte (Utf8.byteCount valid)).description valid
      Utf8.replacement := by
  cases input with
  | text text =>
    have hmem := List.mem_of_getElem? h
    obtain ⟨chars, -, hchars⟩ := List.mem_map.1 hmem
    cases hchars
  | bytes bytes =>
    have hline : ((lines (· == 10) bytes).map fun line =>
        SourceLine.ofPieces (Utf8.pieces line))[n]? = some (.broken valid byte others) := h
    rw [List.getElem?_map, Option.map_eq_some_iff] at hline
    obtain ⟨raw, hraw, hbroken⟩ := hline
    obtain ⟨behind, rfl, hnone⟩ := exists_rejected_of_broken hbroken
    rw [description_invalidByte, ← Utf8.length_encode]
    exact .invalidByte bytes valid byte behind rfl hraw hnone

theorem not_mem_of_unescape? {c : Char} (h : unescape? c = none) : c ∉ ['\\', 'n', 't', '"'] := by
  intro hmem
  simp only [List.mem_cons, List.not_mem_nil, or_false] at hmem
  rcases hmem with rfl | rfl | rfl | rfl <;> cases h

end Scan

namespace Scanner

variable {s t u : Scanner} {state : State} {lexeme : String} {c : Char} {rest : List Char}
  {input : Input} {name : String} {layout : Bool}

/-! ## Scans -/

/-- An escape has begun at the end of what has been consumed of the line. -/
structure Escaping (state : State) (s : Scanner) : Prop where
  unread_eq : state = .stringEscape → s.rest = [] → s.unread = []
  exists_before : state = .stringEscape →
    ∃ before, s.currentLine.toList = before ++ '\\' :: s.rest ∧ before.length + 1 = s.column

/-- The scanner stands in front of a character that is at fault. -/
def Stops (input : Input) (e : ScanError) (s : Scanner) : Prop :=
  ∃ fault before c after, e = s.errorAt fault ∧ s.rest = c :: after ∧
    s.currentLine.toList = before ++ c :: after ∧ s.column = before.length ∧
    Offence input s.line fault.description before c

theorem escaping_of_ne (h : state ≠ .stringEscape) (s : Scanner) : Escaping state s :=
  ⟨fun heq => absurd heq h, fun heq => absurd heq h⟩

theorem Escaping.settled (h : Escaping state s) (look : Option Char) :
    Escaping (state.settled look) s := by
  unfold State.settled
  split
  · exact escaping_of_ne (by decide) s
  · exact h

/-- A character leads into an escape if it is a backslash. -/
theorem Counted.escaping_looked (h : Counted s) (hrest : s.rest = c :: rest) {look : Step}
    (hstep : step state (some c) lexeme = .ok look) (hemit : look.emit = none) :
    Escaping look.next (s.looked state c rest look) := by
  by_cases hnext : look.next = .stringEscape
  · obtain ⟨rfl, hconsume⟩ := backslash_of_step hstep hemit hnext
    obtain ⟨hu, hunread, hretained, hcolumn⟩ := looked_of_consume hconsume s state '\\' rest
    obtain ⟨before, hline, hlength⟩ := h.exists_consumed (by simp [hrest])
    refine ⟨fun _ hnil => ?_, fun _ => ⟨before, ?_, by omega⟩⟩
    · rw [hunread]
      rw [hu] at hnil
      exact h.unread_eq_of_advance (hnil ▸ hrest) (by decide)
    · rw [currentLine, hretained, hu, ← hrest]
      exact hline
  · exact escaping_of_ne hnext _

/-- Where the automaton fails the scanner stops behind the backslash. -/
theorem stops_of_step {e : MalformedEscape} (hrest : s.rest = c :: rest) (hkept : Escaping state s)
    (hstep : step state (some c) lexeme = .error e) :
    Stops input (s.errorAt .malformedEscape) s := by
  obtain ⟨hstate, hmeant⟩ := unescape?_of_step hstep
  obtain ⟨before, hline, hlength⟩ := hkept.exists_before hstate
  refine ⟨.malformedEscape, before ++ ['\\'], c, rest, rfl, hrest, ?_, ?_, ?_⟩
  · rw [hline, hrest, List.append_assoc]
    rfl
  · rw [List.length_append, ← hlength]
    rfl
  · exact .malformedEscape before c (not_mem_of_unescape? hmeant)

theorem Counted.readChar_stops (h : Counted s) (hrest : s.rest = c :: rest)
    (hkept : Escaping state s) :
    (s.readChar state lexeme c rest).Leads (fun state _ => Escaping state)
      fun result u => ∀ e, result = .error e → Stops input e u := by
  refine readChar_spec (fun _ _ => nofun) ?failed (fun _ _ _ _ => nofun)
    (fun _ _ _ _ _ => nofun) ?onward
  case failed =>
    intro e hstep e' heq
    rw [← Except.error.inj heq]
    exact stops_of_step hrest (hkept.settled _) hstep
  case onward =>
    intro look hstep hemit
    exact h.escaping_looked hrest hstep hemit

/-- A broken line stops the scanner at its first defect. -/
theorem stops_of_load {valid : List Char} {byte : UInt8} {others : List Char} {unread : Source}
    {e : ScanError} (h : Counted s) (hgrown : Grown (input.scanner name layout) s)
    (hrest : s.rest = []) (hunread : s.unread = .broken valid byte others :: unread)
    (hload : s.load (.broken valid byte others) unread = (.error e, u)) : Stops input e u := by
  have hsource : s.unread = input.source.drop s.retained.size := by
    rw [Input.scanner_eq] at hgrown
    exact hgrown.unread_eq rfl
  have hline : s.line = s.retained.size + 1 := by
    refine (h.line_eq_of_nil hrest).resolve_right fun hover => ?_
    rw [hunread] at hover
    cases hover.1
  have hbroken : input.source[s.retained.size]? = some (.broken valid byte others) := by
    rw [← List.head?_drop, ← hsource, hunread]
    rfl
  have hoffence := offence_of_broken hbroken
  rw [← hline] at hoffence
  obtain ⟨hfault, hu⟩ := Prod.mk.inj hload
  subst hu
  refine ⟨_, valid, Utf8.replacement, others, (Except.error.inj hfault).symm, rfl, ?_, rfl,
    hoffence⟩
  simp [currentLine, SourceLine.chars]

/-- An error of a scan stops it in front of the character at fault. -/
theorem next_stops (h : Counted s) (hgrown : Grown (input.scanner name layout) s) {e : ScanError}
    (hnext : s.next = (.error e, t)) :
    Counted t ∧ Grown (input.scanner name layout) t ∧ Stops input e t := by
  have hsteady := steady_counted.and (steady_grown (input.scanner name layout))
  obtain ⟨hover, hstops⟩ : Over _ s.next.1 s.next.2 ∧
      ∀ e, s.next.1 = .error e → Stops input e s.next.2 := by
    refine hsteady.next_spec ⟨h, hgrown⟩ (fun state _ => Escaping state)
      (fun result u => ∀ e, result = .error e → Stops input e u)
      ?start ?character ?sound ?broken ?ended
    case start => exact escaping_of_ne (by decide) _
    case character =>
      intro u state lexeme c rest hinv hrest hkept
      exact hinv.1.readChar_stops hrest hkept
    case sound =>
      intro u state lexeme chars unread hinv hrest hunread hkept
      -- behind a backslash that ends its line the source is over
      apply escaping_of_ne
      intro hstate
      rw [hkept.unread_eq hstate hrest] at hunread
      cases hunread
    case broken =>
      intro u valid byte others unread e v hinv hrest hunread hload e' heq
      rw [← Except.error.inj heq]
      exact stops_of_load hinv.1 hinv.2 hrest hunread hload
    case ended =>
      intro u state lexeme hinv hrest hunread hkept e heq
      obtain ⟨token, -, -, hfinish⟩ := exists_finish state lexeme
      rw [hfinish] at heq
      cases heq
  rw [hnext] at hover hstops
  exact ⟨hover.keeps.1, hover.keeps.2, hstops e rfl⟩

/-! ## Messages -/

/-- Whatever has been asked of a scanner before, an error has one line of code, the one retained
under its number, and its column is that of the character at fault. Its message says what is wrong
there, and the caret stands below that character of the numbered line, or behind the line where the
character is its line feed. -/
theorem error_points_at_offence (input : Input) (name : String) (layout : Bool) {e : ScanError}
    (hreach : (input.scanner name layout).Reaches s) (hnext : s.next = (.error e, t)) :
    ∃ (n : Nat) (line description : String) (before : List Char) (c : Char) (after : List Char),
      e.message = ⟨⟨name, n, n, before.length, [line]⟩, description, none⟩ ∧
      t.line = n ∧ t.codeLine? n = some line ∧
      line.toList = before ++ c :: after ∧ Offence input n description before c ∧
      ∃ (shown : String) (width : Nat),
        shown = withoutLineEnd (toString n ++ ":" ++ line) ∧
        e.message.render = "\n".intercalate
          [name ++ ":" ++ toString n ++ ": error: " ++ description, shown, spaces width ++ "^"] ∧
        if c = '\n' then shown.length = width else shown.toList[width]? = some c := by
  have hsteady := (steady_counted.and (steady_grown (input.scanner name layout))).and
    (steady_mode name layout)
  have heq := input.scanner_eq name layout
  have hinv := hsteady.reaches ⟨⟨input.counted name layout, .refl _⟩, heq ▸ ⟨rfl, rfl⟩⟩ hreach
  have hsource : t.source = name := (hsteady.next_error hinv hnext).1.2.1
  obtain ⟨hcounted, hgrown, fault, before, c, after, rfl, hrest, hline, hcolumn, hoffence⟩ :=
    next_stops hinv.1.1 hinv.1.2 hnext
  have hne : t.rest ≠ [] := by simp [hrest]
  have hmessage : (t.errorAt fault).message
      = ⟨⟨name, t.line, t.line, before.length, [t.currentLine]⟩, fault.description, none⟩ := by
    rw [← hcounted.code_errorAt hne fault, ← hsource, ← hcolumn]
    rfl
  have hshown := hcounted.codeLine?_line hne
  refine ⟨t.line, t.currentLine, fault.description, before, c, after, hmessage, rfl, hshown, hline,
    hoffence, _, (toString t.line ++ ":").length + before.length, rfl, ?_, ?_⟩
  · rw [hmessage]
    exact Message.render_line name t.line before.length t.currentLine fault.description
  · have hisLine := hgrown.isLine_of_codeLine? (input.counted name layout) (by rw [heq]) hshown
    rw [hline] at hisLine
    have hend : (toString t.line ++ ":").toList.getLast? ≠ some '\n' := by simp
    have hcaret := caret_below hend hisLine
    rwa [← hline, String.ofList_toList] at hcaret

/-- A string that begins in the first line is broken off in the second one, behind a character of
two bytes. -/
theorem error_points_at_offence_inside_string :
    let input : Input := .bytes [0x22, 0x61, 0x0A, 0xC3, 0xA9, 0xFF]
    let s := input.scanner "bytes" false
    let e : ScanError := ⟨.invalidByte 0xFF 2, ⟨"bytes", 2, 2, 1, ["é\uFFFD"]⟩⟩
    s.next = (.error e, s.next.2) ∧ s.next.2.codeLine? 2 = some "é\uFFFD" ∧
      Offence input 2 "invalid UTF-8 byte 0xff at byte offset 2" ['é'] '\uFFFD' ∧
      e.message.render
        = "bytes:2: error: invalid UTF-8 byte 0xff at byte offset 2\n2:é\uFFFD\n   ^" := by
  intro input s e
  have hscanner : s
      = { source := "bytes", unread := [.sound ['"', 'a', '\n'], .broken ['é'] 0xFF []] } := by
    decide +kernel
  have hnext : s.next = (.error e, s.next.2) := by
    rw [hscanner]
    rfl
  obtain ⟨n, line, description, before, c, after, hmessage, -, hcode, hline, hoffence, -⟩ :=
    error_points_at_offence input "bytes" false .refl hnext
  obtain ⟨hcontext, rfl, -⟩ := Message.mk.inj hmessage
  obtain ⟨-, hstart, -, hcolumn, hlines⟩ := Context.mk.inj hcontext
  obtain rfl : n = 2 := (Int.ofNat.inj hstart).symm
  obtain rfl : line = "é\uFFFD" := (List.singleton_inj.1 hlines).symm
  have hlength : before.length = 1 := (Int.ofNat.inj hcolumn).symm
  obtain ⟨rfl, hrest⟩ : before = ['é'] ∧ '\uFFFD' :: [] = c :: after := by
    have hsplit : ['é'] ++ ['\uFFFD'] = before ++ c :: after := hline
    obtain ⟨hbefore, hafter⟩ := List.append_inj hsplit hlength.symm
    exact ⟨hbefore.symm, hafter⟩
  obtain ⟨rfl, -⟩ := List.cons.inj hrest
  exact ⟨hnext, hcode, hoffence, by decide +kernel⟩

end Scanner

end ServiceSyntax
