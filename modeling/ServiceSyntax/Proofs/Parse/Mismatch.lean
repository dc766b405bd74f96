import ServiceSyntax.Proofs.Diagnostic.Correction
import ServiceSyntax.Proofs.Parse.Run
import ServiceSyntax.Proofs.Scan.Resync
import ServiceSyntax.Proofs.Scan.Written

/-!
# Corrections of the current token

A token that the scanner has read stands in its line at its place (`Scanner.Gave.written`). Where it
does not fit but is close to what would, help puts the first such term in at this place, over as
many characters as the token has content. Words and numbers are written as their content, so they
are replaced as a whole; a literal is written with quotes and escapes, and the end of it is left
behind the proposal (`mismatch_replaces`).
-/

namespace ServiceSyntax

open Scan

/-! ## Tokens that have been read -/

/-- The scanner has read the entry: at some time it gave the token at this place, and it has only
gone on since. Right behind the token it was `behind`. -/
structure Scanner.Gave (s : Scanner) (entry : Entry) (behind : Scanner) : Prop where
  exists_next : ∃ (input : Input) (name : String) (layout : Bool) (ahead : Scanner),
    (input.scanner name layout).Reaches ahead ∧ ahead.next = (.ok entry.token, behind)
  line_eq : entry.line = behind.tokenLine
  column_eq : entry.column = behind.tokenColumn
  reaches : behind.Reaches s

namespace Scanner

variable {s t behind : Scanner} {entry : Entry}

/-- A word, a number or a literal that was read in one line is spelt there at its place. -/
theorem Gave.written (h : s.Gave entry behind) (hkind : entry.token.kind ∈ worded)
    (hline : behind.line = behind.tokenLine) :
    ∃ before written after : String, s.codeLine? entry.line = some (before ++ written ++ after) ∧
      entry.column = before.length ∧ entry.token.SpeltBy written.toList := by
  obtain ⟨input, name, layout, ahead, hreach, hnext⟩ := h.exists_next
  have hcounted := steady_counted.reaches (input.counted name layout) hreach
  have hgrown := (steady_grown behind).reaches (.refl behind) h.reaches
  obtain ⟨before, written, after, hcode, hcolumn, hspelt⟩ :=
    hcounted.written_of_next hnext hkind hline
  refine ⟨before, written, after, ?_, ?_, hspelt⟩
  · rw [h.line_eq]
    exact hgrown.codeLine?_eq hcode
  · rw [h.column_eq, hcolumn]

/-- What the scanner comes to it has read. -/
theorem gave_of_scans (h : Cursor.Scans s (.ok entry) t) {input : Input} {name : String}
    {layout : Bool} (hreach : (input.scanner name layout).Reaches s) : t.Gave entry t := by
  generalize hresult : (.ok entry : Except ScanError Entry) = result at h
  induction h with
  | failed => cases hresult
  | @token s t token hnext _ =>
    obtain rfl := Except.ok.inj hresult
    exact ⟨⟨input, name, layout, s, hreach, hnext⟩, rfl, rfl, .refl⟩
  | @lineBreak s t _ _ _ hnext _ _ ih =>
    have ht := hreach.next
    rw [hnext] at ht
    exact ih ht hresult

end Scanner

namespace Cursor

variable {c c' : Cursor} {entry : Entry}

/-- An entry that becomes current was queued, or the scanner has just read it. -/
theorem gave_of_advance (hadvance : c.advance = (.ok entry, c')) {input : Input} {name : String}
    {layout : Bool} (hreach : (input.scanner name layout).Reaches c.scanner) :
    c'.current = some entry ∧ (entry ∈ c.queue ∨ c'.scanner.Gave entry c'.scanner) := by
  obtain ⟨result, t, queue', met, hfetches, hmoved⟩ := exists_fetch c.scanner c.queue
  have hmoved := hmoved c rfl rfl
  rw [hadvance] at hmoved
  obtain ⟨hresult, hcursor⟩ := Prod.mk.inj hmoved
  rw [← hresult] at hfetches hcursor
  rw [hcursor]
  refine ⟨rfl, ?_⟩
  obtain ⟨-, hscans | ⟨queued, hmem, heq, -⟩⟩ := hfetches.scans_or_mem
  · exact Or.inr (Scanner.gave_of_scans hscans hreach)
  · obtain rfl := Except.ok.inj heq
    exact Or.inl hmem

end Cursor

/-! ## Spans and contents -/

theorem Token.length_of_speltBy {t : Token} {written : List Char} (h : t.SpeltBy written)
    (hkind : t.kind ∈ worded) :
    (t.kind ≠ .string → written.length = t.content.length) ∧
      (t.kind = .string → t.content.length + 2 ≤ written.length) := by
  obtain ⟨kind, content⟩ := t
  have hplain (hwritten : written = content.toList) : written.length = content.length := by
    rw [hwritten, String.length_toList]
  simp only [worded, List.mem_cons, List.not_mem_nil, or_false] at hkind
  rcases hkind with rfl | rfl | rfl
  · exact ⟨fun _ => hplain h, fun heq => by cases heq⟩
  · exact ⟨fun _ => hplain h, fun heq => by cases heq⟩
  · refine ⟨absurd rfl, fun _ => ?_⟩
    obtain ⟨body, rfl, hspells⟩ := h
    have hle := hspells.length_le
    rw [String.length_toList] at hle
    rw [List.length_append, List.length_cons, List.length_singleton]
    exact Nat.succ_le_succ (Nat.succ_le_succ hle)

/-- The characters of a span as far as the content is long, and what is left of it. -/
theorem Token.exists_leftover {t : Token} {written : String} (h : t.SpeltBy written.toList)
    (hkind : t.kind ∈ worded) :
    ∃ replaced leftover : String, written = replaced ++ leftover ∧
      replaced.length = t.content.length ∧ (t.kind ≠ .string → leftover = "") ∧
      (t.kind = .string → 2 ≤ leftover.length) := by
  obtain ⟨hwhole, hquoted⟩ := length_of_speltBy h hkind
  rw [String.length_toList] at hwhole hquoted
  have hle : t.content.length ≤ written.length := by
    by_cases hstring : t.kind = .string
    · have hquoted := hquoted hstring
      omega
    · exact Nat.le_of_eq (hwhole hstring).symm
  obtain ⟨replaced, leftover, rfl, hreplaced⟩ := Text.exists_split hle
  rw [String.length_append] at hwhole hquoted
  refine ⟨replaced, leftover, rfl, hreplaced, fun hstring => ?_, fun hstring => ?_⟩
  · have hnone : leftover.length = 0 := by
      have hwhole := hwhole hstring
      omega
    exact String.length_eq_zero_iff.1 hnone
  · have hquoted := hquoted hstring
    omega

namespace Parse

variable {α : Type} {p : Parser} {entry : Entry} {behind : Scanner} {word : String}
  {expected : List String}

open Suggestion

/-- With nothing queued the parser reads on in the source. What it comes to is current then, and the
scanner has read it. -/
theorem gave_of_nextToken {input : Input} {name : String} {layout : Bool} {t : Scanner}
    {token : Token} (hqueue : p.cursor.queue = [])
    (hreach : (input.scanner name layout).Reaches p.scanner)
    (hnext : p.cursor.scanner.next = (.ok token, t)) (hkind : token.kind ≠ .newline) :
    nextToken.runOn p = (.ok token, arrived p t token) ∧
      (arrived p t token).cursor.current = some (Cursor.scanned t token) ∧
      (arrived p t token).scanner.Gave (Cursor.scanned t token) (arrived p t token).scanner := by
  have hadvance := Cursor.advance_of_token hqueue hnext hkind
  obtain ⟨hcurrent, hread⟩ := Cursor.gave_of_advance hadvance hreach
  rw [hqueue] at hread
  exact ⟨runOn_nextToken_of_token hqueue hnext hkind, hcurrent,
    hread.resolve_left List.not_mem_nil⟩

/-- The context of a token in a line that has been read is this line. -/
theorem context_of_current {line : String} (hcurrent : p.cursor.current = some entry)
    (hkind : entry.token.kind ≠ .endOfFile) (hcode : p.scanner.codeLine? entry.line = some line) :
    p.context = ⟨p.sourceName, entry.line, entry.line, entry.column, [line]⟩ := by
  have htoken : p.token?.any Token.isEndOfFile = false := by
    rw [Parser.token?, hcurrent]
    simpa [Token.isEndOfFile] using hkind
  have hposition : p.position = (entry.line, entry.column) := by
    rw [Parser.position, hcurrent]
  rw [Parser.context, htoken, hposition, if_neg Bool.false_ne_true, hcode]
  rfl

/-- A token with a content is described by it, and help is about its context. -/
theorem help_unexpected (message : String) (expected : List String)
    (hcurrent : p.cursor.current = some entry) (hcontent : entry.token.content ≠ "") :
    ∃ description, (p.unexpected message expected).help = (Message.withHelp p.context description
      (help p.context entry.token.content expected)).help := by
  have hdescribed : p.content = entry.token.content := by
    rw [Parser.content, Parser.token?, hcurrent]
    rfl
  have hne : entry.token.content.isEmpty = false := by
    simpa [String.isEmpty_iff] using hcontent
  unfold Parser.unexpected
  rw [hdescribed, hne, if_neg Bool.false_ne_true]
  exact ⟨_, rfl⟩

/-- The message for a token that was read in one line shows this line with the first proposal in the
place of the token, as far as the content of the token is long. That is all of a word or a number;
of a literal the closing quote and one more character are left at least. -/
theorem mismatch_replaces (message : String) (hcurrent : p.cursor.current = some entry)
    (hgave : p.scanner.Gave entry behind) (hline : behind.line = behind.tokenLine)
    (hkind : entry.token.kind ∈ worded) (hcontent : entry.token.content ≠ "")
    (hword : word ∈ expected) (hclose : editDistance entry.token.content word ≤ 2) :
    ∃ (proposal : String) (others : List String) (before replaced leftover after : String),
      (mismatch message expected : Parse α).runOn p
        = (.error (.mismatch (p.unexpected message expected)), p.closeUnguarded) ∧
      similar entry.token.content expected = proposal :: others ∧
      p.scanner.codeLine? entry.line = some (before ++ (replaced ++ leftover) ++ after) ∧
      entry.column = before.length ∧ entry.token.SpeltBy (replaced ++ leftover).toList ∧
      replaced.length = entry.token.content.length ∧
      (entry.token.kind ≠ .string → leftover = "") ∧
      (entry.token.kind = .string → 2 ≤ leftover.length) ∧
      (p.unexpected message expected).help = some (similarHeading (proposal :: others)
        ++ corrected (toString entry.line ++ ":" ++ before) proposal (leftover ++ after)) := by
  obtain ⟨before, written, after, hcode, hcolumn, hspelt⟩ := hgave.written hkind hline
  obtain ⟨replaced, leftover, rfl, hreplaced, hwhole, hquoted⟩ := Token.exists_leftover hspelt hkind
  obtain ⟨proposal, others, hsimilar⟩ := exists_similar hword hclose
  obtain ⟨description, hhelp⟩ := help_unexpected message expected hcurrent hcontent
  refine ⟨proposal, others, before, replaced, leftover, after, rfl, hsimilar, hcode, hcolumn,
    hspelt, hreplaced, hwhole, hquoted, ?_⟩
  have hfile : entry.token.kind ≠ .endOfFile := by
    intro heq
    simp [heq, worded] at hkind
  have hctx := context_of_current hcurrent hfile hcode
  have hline : before ++ (replaced ++ leftover) ++ after
      = before ++ replaced ++ (leftover ++ after) := by
    simp only [String.append_assoc]
  rw [hline] at hctx
  rw [hhelp, help_of_span (congrArg Context.code hctx)
    ((congrArg Context.column hctx).trans hcolumn) hreplaced hcontent hsimilar, help_withHelp,
    Context.label_zero, hctx]

/-- A misspelt word behind two spaces. -/
theorem mismatch_replaces_word :
    let scanner := (Input.text "  locaton: 1").scanner "svc.ol" false
    let p := arrived (.ofScanner scanner {}) scanner.next.2 ⟨.identifier, "locaton"⟩
    let entry : Entry := ⟨⟨.identifier, "locaton"⟩, 1, 2, false⟩
    let expected := ["interfaces", "location"]
    nextToken.runOn (.ofScanner scanner {}) = (.ok entry.token, p) ∧
      p.cursor.current = some entry ∧ p.scanner.Gave entry p.scanner ∧
      p.scanner.line = p.scanner.tokenLine ∧ entry.token.kind ∈ worded ∧
      entry.token.content ≠ "" ∧ "location" ∈ expected ∧
      editDistance entry.token.content "location" ≤ 2 ∧
      ∃ message : Message,
        (mismatch "expected location" expected : Parse Token).runOn p
          = (.error (.mismatch message), p.closeUnguarded) ∧
        message.help = some
          ("Your term is similar to what would be valid input: location. Perhaps you meant:\n"
            ++ "1:  location: 1\n" ++ "    ^") := by
  intro scanner p entry expected
  have hnext : scanner.next = (.ok entry.token, scanner.next.2) := Prod.ext rfl rfl
  have hentry : Cursor.scanned scanner.next.2 entry.token = entry := rfl
  obtain ⟨hrun, hcurrent, hgave⟩ :=
    @gave_of_nextToken (.ofScanner scanner {}) (.text "  locaton: 1") "svc.ol" false _ _ rfl .refl
      hnext (by decide)
  rw [hentry] at hcurrent hgave
  have hline : p.scanner.line = p.scanner.tokenLine := rfl
  have hmem : "location" ∈ expected := by decide
  have hclose : editDistance entry.token.content "location" ≤ 2 := by decide +kernel
  refine ⟨hrun, hcurrent, hgave, hline, by decide, by decide, hmem, hclose,
    p.unexpected "expected location" expected, ?_⟩
  obtain ⟨proposal, others, before, replaced, leftover, after, hmismatch, hproposal, hcode, hbefore,
    -, hreplaced, hwhole, -, hhelp⟩ := mismatch_replaces (α := Token) "expected location" hcurrent
      hgave hline (by decide) (by decide) hmem hclose
  have hsimilar : similar entry.token.content expected = ["location"] := by decide +kernel
  obtain ⟨rfl, rfl⟩ := List.cons.inj (hsimilar.symm.trans hproposal)
  -- a word is replaced as a whole, and its column and length divide the line in one way
  obtain rfl := hwhole (by decide)
  have hread : p.scanner.codeLine? entry.line = some ("  " ++ ("locaton" ++ "") ++ ": 1") := rfl
  obtain ⟨rfl, -, rfl⟩ := Text.span_inj (Option.some.inj (hread.symm.trans hcode))
    (Int.ofNat.inj hbefore) (by rw [String.append_empty, String.append_empty, hreplaced])
  refine ⟨hmismatch, hhelp.trans ?_⟩
  decide +kernel

/-- Of a misspelt literal the opening quote and all but the last character of its content are
replaced. -/
theorem mismatch_replaces_quote :
    let scanner := (Input.text "\"locaton\"").scanner "svc.ol" false
    let p := arrived (.ofScanner scanner {}) scanner.next.2 ⟨.string, "locaton"⟩
    let entry : Entry := ⟨⟨.string, "locaton"⟩, 1, 0, false⟩
    nextToken.runOn (.ofScanner scanner {}) = (.ok entry.token, p) ∧
      p.cursor.current = some entry ∧ p.scanner.Gave entry p.scanner ∧
      p.scanner.line = p.scanner.tokenLine ∧
      similar entry.token.content ["location"] = ["location"] ∧
      p.scanner.codeLine? entry.line = some ("" ++ "\"locaton\"" ++ "") ∧
      (p.unexpected "expected location" ["location"]).help = some (similarHeading ["location"]
        ++ "1:locationn\"\n" ++ "  ^") ∧
      (p.unexpected "expected location" ["location"]).help ≠ some (similarHeading ["location"]
        ++ corrected "1:" "location" "") := by
  intro scanner p entry
  have hhelp : (p.unexpected "expected location" ["location"]).help
      = some (similarHeading ["location"] ++ "1:locationn\"\n" ++ "  ^") := by
    decide +kernel
  have hnext : scanner.next = (.ok entry.token, scanner.next.2) := Prod.ext rfl rfl
  have hentry : Cursor.scanned scanner.next.2 entry.token = entry := rfl
  obtain ⟨hrun, hcurrent, hgave⟩ :=
    @gave_of_nextToken (.ofScanner scanner {}) (.text "\"locaton\"") "svc.ol" false _ _ rfl .refl
      hnext (by decide)
  rw [hentry] at hcurrent hgave
  refine ⟨hrun, hcurrent, hgave, rfl, by decide +kernel, by decide +kernel, hhelp, ?_⟩
  rw [hhelp]
  decide +kernel

end Parse

end ServiceSyntax
