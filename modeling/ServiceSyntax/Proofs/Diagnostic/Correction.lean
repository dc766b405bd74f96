import Mathlib.Data.List.DropRight
import ServiceSyntax.Diagnostic.Suggestion
import ServiceSyntax.Proofs.Diagnostic.Caret

/-!
# Corrections

Where a term is close to one that is expected, help shows the line with the first such term put in.
The label in front of the line moves the place of the term to the right, and the text to be replaced
is found by the length of the term (`substitute_label`, `substitute_span`). So the correction keeps
all else in the line, and the caret stands below it (`help_of_similar`). With all lines of a
construct shown the correction is in the last one (`helpInScope_shows_lines`).
-/

namespace ServiceSyntax

namespace Text

/-- A text without line feeds is left as it is, and of a line only the line feed is taken away. -/
theorem withoutLineEnd_of_not_mem {text lineEnd : String} (htext : '\n' ∉ text.toList)
    (hend : lineEnd = "" ∨ lineEnd = "\n") : withoutLineEnd (text ++ lineEnd) = text := by
  have hkept : text.toList.rdropWhile (· == '\n') = text.toList := by
    refine List.rdropWhile_eq_self_iff.2 fun hne hlast => htext ?_
    rw [← beq_iff_eq.1 hlast]
    exact List.getLast_mem hne
  rw [withoutLineEnd, dropTrailing_eq_rdropWhile, String.toList_append]
  rcases hend with rfl | rfl
  · rw [String.toList_empty, List.append_nil, hkept, String.ofList_toList]
  · rw [show ("\n" : String).toList = ['\n'] from rfl, List.rdropWhile_concat_pos _ _ _ rfl, hkept,
      String.ofList_toList]

theorem exists_split {text : String} {n : Nat} (h : n ≤ text.length) :
    ∃ front back : String, text = front ++ back ∧ front.length = n := by
  refine ⟨.ofList (text.toList.take n), .ofList (text.toList.drop n), ?_, ?_⟩
  · rw [← String.ofList_append, List.take_append_drop, String.ofList_toList]
  · rw [String.length_ofList, List.length_take, String.length_toList]
    omega

/-- A place in a text divides it. -/
theorem exists_span {text : String} {column size : Nat} (h : column + size ≤ text.length) :
    ∃ before old after : String, text = before ++ old ++ after ∧ before.length = column ∧
      old.length = size := by
  obtain ⟨before, back, rfl, hbefore⟩ := @exists_split text column (by omega)
  rw [String.length_append] at h
  obtain ⟨old, after, rfl, hold⟩ := @exists_split back size (by omega)
  exact ⟨before, old, after, String.append_assoc.symm, hbefore, hold⟩

theorem split_inj {front back front' back' : String} (h : front ++ back = front' ++ back')
    (hfront : front.length = front'.length) : front = front' ∧ back = back' := by
  have hchars : front.toList ++ back.toList = front'.toList ++ back'.toList := by
    rw [← String.toList_append, ← String.toList_append, h]
  have hlength : front.toList.length = front'.toList.length := by
    rw [String.length_toList, String.length_toList, hfront]
  exact (List.append_inj hchars hlength).imp String.toList_inj.1 String.toList_inj.1

/-- It divides it in one way. -/
theorem span_inj {before old after before' old' after' : String}
    (h : before ++ old ++ after = before' ++ old' ++ after')
    (hbefore : before.length = before'.length) (hold : old.length = old'.length) :
    before = before' ∧ old = old' ∧ after = after' := by
  rw [String.append_assoc, String.append_assoc] at h
  obtain ⟨hfront, hback⟩ := split_inj h hbefore
  exact ⟨hfront, split_inj hback hold⟩

end Text

namespace Context

variable {ctx : Context}

theorem label_eq (ctx : Context) (index : Nat) :
    ctx.label index = toString (ctx.startLine + index) ++ ":" := rfl

theorem label_zero (ctx : Context) : ctx.label 0 = toString ctx.startLine ++ ":" := by
  rw [label, lineNumber, Int.add_zero]

/-- A line number is written with digits and a sign. -/
theorem newline_not_mem_label (n : Int) : '\n' ∉ (toString n ++ ":").toList := by
  have hdigits (m : Nat) : '\n' ∉ m.repr.toList := by
    intro hmem
    rw [Nat.repr, String.toList_ofList] at hmem
    have hdigit := Nat.isDigit_of_mem_toDigits (by decide) (by decide) hmem
    cases hdigit
  have hnumber : '\n' ∉ (toString n).toList := by
    cases n with
    | ofNat m => exact hdigits m
    | negSucc m =>
      show '\n' ∉ ("-" ++ (m + 1).repr).toList
      rw [String.toList_append, List.mem_append]
      exact fun hmem => hmem.elim (by decide) (hdigits (m + 1))
  rw [String.toList_append, List.mem_append]
  exact fun hmem => hmem.elim hnumber (by decide)

end Context

namespace Suggestion

open Text

variable {ctx : Context} {line term word proposal : String} {expected others : List String}
  {column : Int}

/-! ## Substitution -/

/-- A label in front of a line moves the place of a substitution to the right. -/
theorem substitute_label (label line proposal : String) (size : Nat) (h : 0 ≤ column) :
    substitute (label ++ line) (column + label.length) size proposal
      = label ++ substitute line column size proposal := by
  have hbehind : column + label.length + size = column + size + label.length := by omega
  unfold substitute
  rw [hbehind, String.toList_append, ← String.length_toList, takeTo_append h,
    dropFrom_append (by omega), String.ofList_append, String.ofList_toList, String.append_assoc,
    String.append_assoc, String.append_assoc]

/-- What stands behind `before` is replaced, and all else is kept. -/
theorem substitute_span (before old after proposal : String) :
    substitute (before ++ old ++ after) before.length old.length proposal
      = before ++ proposal ++ after := by
  have hbehind : ((before.length : Int) + old.length) = ((before ++ old).toList.length : Nat) := by
    rw [String.length_toList, String.length_append]
    omega
  have htake : takeTo before.length (before ++ old ++ after).toList = before.toList := by
    rw [String.toList_append, String.toList_append, List.append_assoc, ← String.length_toList]
    exact takeTo_length _ _
  have hdrop : dropFrom (before.length + old.length) (before ++ old ++ after).toList
      = after.toList := by
    rw [hbehind, String.length_toList, ← String.length_toList, @String.toList_append _ after]
    exact dropFrom_length _ _
  rw [substitute, htake, hdrop, String.ofList_toList, String.ofList_toList]

/-! ## Help -/

/-- A line with a proposal put in behind `before`, and the caret below its first character. -/
def corrected (before proposal after : String) : String :=
  closed (before ++ proposal ++ after) ++ caretAt before.length

/-- A term that is close to an expected one has a first proposal. -/
theorem exists_similar (hword : word ∈ expected) (hclose : editDistance term word ≤ 2) :
    ∃ proposal others, similar term expected = proposal :: others := by
  have hmem : word ∈ similar term expected := by
    refine List.mem_filter.2 ⟨hword, decide_eq_true ?_⟩
    show (editDistance term word : Int) ≤ 2
    omega
  exact List.exists_cons_of_ne_nil (List.ne_nil_of_mem hmem)

theorem similar_eq_filter (term : String) (expected : List String) :
    similar term expected = expected.filter fun word => editDistance term word ≤ 2 := by
  refine List.filter_congr fun word _ => decide_eq_decide.2 ?_
  show (editDistance term word : Int) ≤ 2 ↔ _
  omega

theorem heading_eq (proposals : List String) :
    "\n" ++ similarHeading proposals = "\nYour term is similar to what would be valid input: "
      ++ ", ".intercalate proposals ++ ". Perhaps you meant:\n" := by
  have hopening : "\n" ++ "Your term is similar to what would be valid input: "
      = "\nYour term is similar to what would be valid input: " := by simp
  have hassoc (a b c d : String) : a ++ (b ++ c ++ d) = a ++ b ++ c ++ d := by
    simp only [String.append_assoc]
  -- a rewrite with `hopening` would unfold the literals to compare them
  exact (hassoc "\n" _ _ _).trans
    (congrArg (· ++ ", ".intercalate proposals ++ ". Perhaps you meant:\n") hopening)

theorem similarHeading_ne (proposals : List String) : similarHeading proposals ≠ "" := by
  intro hempty
  have hparts : "Your term is similar to what would be valid input: " ++ enumeration proposals
      ++ ". Perhaps you meant:\n" = "" := hempty
  rw [String.append_eq_empty_iff] at hparts
  exact absurd hparts.2 (by simp)

/-- Help with a proposal is never dropped. -/
theorem help_withHelp (description : String) (proposals : List String) (text : String) :
    (Message.withHelp ctx description (some (similarHeading proposals ++ text))).help
      = some (similarHeading proposals ++ text) := by
  have hne : (similarHeading proposals ++ text).isEmpty = false := by
    rw [Bool.eq_false_iff, Ne, String.isEmpty_iff, String.append_eq_empty_iff]
    exact fun hempty => similarHeading_ne proposals hempty.1
  simp [Message.withHelp, hne]

/-- Where the term is close to an expected one the first line of the context is corrected. -/
theorem help_of_similar {lines : List String} (hcode : ctx.code = line :: lines) (hterm : term ≠ "")
    (hsimilar : similar term expected = proposal :: others) (hcolumn : 0 ≤ ctx.column) :
    help ctx term expected = some (similarHeading (proposal :: others)
      ++ (closed (ctx.label 0 ++ substitute line ctx.column term.length proposal)
        ++ caretAt (ctx.column + ctx.labelWidth 0))) := by
  have hexpected : expected.isEmpty = false := by
    cases expected with
    | nil => cases hsimilar
    | cons first rest => rfl
  have hterm : term.isEmpty = false := by simpa [String.isEmpty_iff] using hterm
  have hnumbered : ctx.numberedCode
      = (ctx.label 0 ++ line) :: lines.mapIdx fun i line => ctx.label (i + 1 : Nat) ++ line := by
    rw [Context.numberedCode, hcode, List.mapIdx_cons]
    rfl
  rw [help, hexpected, hterm, hsimilar, hnumbered]
  simp only [Bool.false_eq_true, if_false]
  rw [Context.labelWidth, substitute_label _ _ _ _ hcolumn, String.append_assoc]

/-- What stands in the first line of the context behind `before` is replaced, as much of it as the
term is long. -/
theorem help_of_span {lines : List String} {before old after : String}
    (hcode : ctx.code = (before ++ old ++ after) :: lines) (hcolumn : ctx.column = before.length)
    (hsize : old.length = term.length) (hterm : term ≠ "")
    (hsimilar : similar term expected = proposal :: others) :
    help ctx term expected = some (similarHeading (proposal :: others)
      ++ corrected (ctx.label 0 ++ before) proposal after) := by
  have hplace : ctx.column + ctx.labelWidth 0 = ((ctx.label 0 ++ before).length : Nat) := by
    rw [Context.labelWidth, String.length_append]
    omega
  have hline : ctx.label 0 ++ (before ++ proposal ++ after)
      = ctx.label 0 ++ before ++ proposal ++ after := by
    simp only [String.append_assoc]
  rw [help_of_similar hcode hterm hsimilar (by omega), hplace, ← hsize, hcolumn, substitute_span,
    hline, corrected]

/-! ## Help inside constructs -/

/-- Each line is shown behind its number, and the last one is corrected. -/
theorem getElem?_correctedLines (ctx : Context) (position : Int) (size : Nat) (proposal : String)
    (i : Nat) :
    (correctedLines ctx position size proposal)[i]? = ctx.code[i]?.map fun line =>
      if ctx.startLine + i = ctx.endLine
      then substitute (ctx.label i ++ line) position size proposal
      else ctx.label i ++ line := by
  rw [correctedLines, List.getElem?_mapIdx, Context.numberedCode, List.getElem?_mapIdx,
    Option.map_map]
  rfl

theorem length_correctedLines (ctx : Context) (position : Int) (size : Nat) (proposal : String) :
    (correctedLines ctx position size proposal).length = ctx.code.length := by
  rw [correctedLines, List.length_mapIdx, Context.numberedCode, List.length_mapIdx]

/-- No line but the last one is changed. -/
theorem getElem?_correctedLines_of_lt (position : Int) (size : Nat) (proposal : String)
    (hend : ctx.endLine = ctx.startLine + ctx.code.length - 1) {i : Nat}
    (hi : i + 1 < ctx.code.length) (hline : ctx.code[i]? = some line) :
    (correctedLines ctx position size proposal)[i]? = some (ctx.label i ++ line) := by
  rw [getElem?_correctedLines, hline, Option.map_some, if_neg (by omega)]

theorem getLast?_correctedLines (position : Int) (size : Nat) (proposal : String)
    (hend : ctx.endLine = ctx.startLine + ctx.code.length - 1)
    (hlast : ctx.code.getLast? = some line) :
    (correctedLines ctx position size proposal).getLast?
      = some (substitute (toString ctx.endLine ++ ":" ++ line) position size proposal) := by
  have hpos : 0 < ctx.code.length := by
    rw [List.length_pos_iff]
    rintro hnil
    rw [hnil] at hlast
    cases hlast
  have hnumber : ctx.startLine + (ctx.code.length - 1 : Nat) = ctx.endLine := by omega
  rw [List.getLast?_eq_getElem?] at hlast ⊢
  rw [length_correctedLines, getElem?_correctedLines, hlast, Option.map_some, if_pos hnumber,
    Context.label_eq, hnumber]

theorem helpInScope_of_similar (hcode : ctx.code ≠ []) (hterm : term ≠ "")
    (hsimilar : similar term expected = proposal :: others) :
    helpInScope ctx term expected = "\n" ++ similarHeading (proposal :: others)
      ++ String.join ((correctedLines ctx (ctx.column + ctx.labelWidth ctx.lastIndex) term.length
          proposal).map closed)
      ++ caretAt (ctx.column + ctx.labelWidth ctx.lastIndex) := by
  have hterm : term.isEmpty = false := by simpa [String.isEmpty_iff] using hterm
  have hcode : ctx.hasCode = true := by simpa [Context.hasCode] using hcode
  rw [helpInScope, hterm, hsimilar]
  simp only [Bool.false_eq_true, if_false, hcode, if_true]

theorem isLine_closed (h : IsLine (· == '\n') line.toList) :
    IsLine (· == '\n') (closed line).toList ∧ (closed line).toList.getLast? = some '\n' := by
  unfold closed
  split
  · rename_i hlast
    exact ⟨h, hlast⟩
  · rename_i hlast
    rw [String.toList_append]
    refine ⟨h.concat fun x hx => ?_, List.getLast?_concat⟩
    rw [beq_eq_false_iff_ne]
    rintro rfl
    exact hlast hx

/-- Lines that are closed and joined together are the lines of what they make. -/
theorem lines_join_closed {shown : List String}
    (h : ∀ line ∈ shown, IsLine (· == '\n') line.toList) :
    lines (· == '\n') (String.join (shown.map closed)).toList
      = shown.map fun line => (closed line).toList := by
  have hflatten : (String.join (shown.map closed)).toList
      = (shown.map fun line => (closed line).toList).flatten := by
    rw [String.toList_join, List.flatMap_def, List.map_map]
    rfl
  rw [hflatten]
  refine lines_flatten (fun chars hchars => ?_) (closed_of_forall fun chars hchars => ?_)
  · obtain ⟨line, hline, rfl⟩ := List.mem_map.1 hchars
    obtain ⟨hisLine, hlast⟩ := isLine_closed (h line hline)
    refine ⟨fun hnil => ?_, hisLine⟩
    rw [hnil] at hlast
    cases hlast
  · obtain ⟨line, hline, rfl⟩ := List.mem_map.1 hchars
    exact ⟨'\n', (isLine_closed (h line hline)).2, rfl⟩

/-- A number and a colon in front of a line make a line. -/
theorem isLine_label (n : Int) (h : IsLine (· == '\n') line.toList) :
    IsLine (· == '\n') (toString n ++ ":" ++ line).toList := by
  rw [String.toList_append]
  refine h.append fun c hc => beq_eq_false_iff_ne.2 ?_
  rintro rfl
  exact Context.newline_not_mem_label n hc

/-- A line stays a line where a part of it is replaced, as no line feed stands in front of that
part. -/
theorem isLine_replaced {before old after : String}
    (h : IsLine (· == '\n') (before ++ old ++ after).toList) (hold : old ≠ "")
    (hproposal : '\n' ∉ proposal.toList) :
    IsLine (· == '\n') (before ++ proposal ++ after).toList := by
  rw [String.append_assoc, String.toList_append, String.toList_append] at h
  rw [String.append_assoc, String.toList_append, String.toList_append]
  obtain ⟨c, cs, hcs⟩ :=
    List.exists_cons_of_ne_nil fun hnil => hold (String.toList_eq_nil_iff.1 hnil)
  have hafter : IsLine (· == '\n') after.toList :=
    h.suffix ((List.suffix_append _ _).trans (List.suffix_append _ _))
  rw [hcs, List.cons_append] at h
  refine IsLine.append h.eq_false_of_mem (IsLine.append (fun x hx => ?_) hafter)
  rw [beq_eq_false_iff_ne]
  rintro rfl
  exact hproposal hx

/-- With the term at its place in the last line, that line is shown with the proposal put in. -/
theorem getLast?_correctedLines_span {before old after : String}
    (hend : ctx.endLine = ctx.startLine + ctx.code.length - 1)
    (hlast : ctx.code.getLast? = some (before ++ old ++ after)) :
    (correctedLines ctx (toString ctx.endLine ++ ":" ++ before).length old.length proposal).getLast?
      = some (toString ctx.endLine ++ ":" ++ before ++ proposal ++ after) := by
  have hline : toString ctx.endLine ++ ":" ++ (before ++ old ++ after)
      = toString ctx.endLine ++ ":" ++ before ++ old ++ after := by
    simp only [String.append_assoc]
  rw [getLast?_correctedLines _ _ _ hend hlast, hline, substitute_span]

/-- The lines of a construct are shown as lines, unless a line feed is put in. -/
theorem isLine_correctedLines {before old after : String} (position : Int) (size : Nat)
    (hlines : ∀ line ∈ ctx.code, IsLine (· == '\n') line.toList)
    (hend : ctx.endLine = ctx.startLine + ctx.code.length - 1)
    (hlast : ctx.code.getLast? = some (before ++ old ++ after)) (hold : old ≠ "")
    (hshown : (correctedLines ctx position size proposal).getLast?
      = some (toString ctx.endLine ++ ":" ++ before ++ proposal ++ after))
    (hproposal : '\n' ∉ proposal.toList) :
    ∀ line ∈ correctedLines ctx position size proposal, IsLine (· == '\n') line.toList := by
  intro line hline
  obtain ⟨i, hi⟩ := List.mem_iff_getElem?.1 hline
  have hlt : i < ctx.code.length := by
    rw [← length_correctedLines ctx position size proposal]
    exact (List.getElem?_eq_some_iff.1 hi).1
  by_cases hinner : i + 1 < ctx.code.length
  · have hcode := List.getElem?_eq_getElem hlt
    rw [getElem?_correctedLines_of_lt position size proposal hend hinner hcode] at hi
    obtain rfl := Option.some.inj hi
    exact isLine_label _ (hlines _ (List.getElem_mem hlt))
  · obtain rfl : i = ctx.code.length - 1 := by omega
    rw [List.getLast?_eq_getElem?, length_correctedLines, hi] at hshown
    obtain rfl := Option.some.inj hshown
    have hreplaced := isLine_replaced (hlines _ (List.mem_of_getLast? hlast)) hold hproposal
    have hline : toString ctx.endLine ++ ":" ++ before ++ proposal ++ after
        = toString ctx.endLine ++ ":" ++ (before ++ proposal ++ after) := by
      simp only [String.append_assoc]
    rw [hline]
    exact isLine_label _ hreplaced

/-- Help inside a construct shows its heading, then each line behind its number, and then the caret.
All lines but the last one are unchanged. In the last one the place that the term takes up holds the
first proposal, which is the first of the expected terms within two edits of the term; all else is
kept, and the caret stands below the first character put in. Unless a line feed is put in, these are
as many lines as the construct has. -/
theorem helpInScope_shows_lines {last : String} (hlast : ctx.code.getLast? = some last)
    (hlines : ∀ line ∈ ctx.code, IsLine (· == '\n') line.toList)
    (hend : ctx.endLine = ctx.startLine + ctx.code.length - 1) (hterm : term ≠ "")
    (hcolumn : 0 ≤ ctx.column) (hfits : ctx.column + term.length ≤ last.length)
    (hword : word ∈ expected) (hclose : editDistance term word ≤ 2) :
    ∃ (proposal : String) (others shown : List String) (before old after : String),
      expected.filter (fun word => editDistance term word ≤ 2) = proposal :: others ∧
      last = before ++ old ++ after ∧ (before.length : Int) = ctx.column ∧
      old.length = term.length ∧
      helpInScope ctx term expected
        = "\nYour term is similar to what would be valid input: "
          ++ ", ".intercalate (proposal :: others) ++ ". Perhaps you meant:\n"
          ++ String.join (shown.map closed)
          ++ (spaces (toString ctx.endLine ++ ":" ++ before).length ++ "^") ∧
      shown.length = ctx.code.length ∧
      (∀ (i : Nat) line, i + 1 < ctx.code.length → ctx.code[i]? = some line →
        shown[i]? = some (toString (ctx.startLine + i) ++ ":" ++ line)) ∧
      shown.getLast? = some (toString ctx.endLine ++ ":" ++ before ++ proposal ++ after) ∧
      ('\n' ∉ proposal.toList → lines (· == '\n') (String.join (shown.map closed)).toList
        = shown.map fun line => (closed line).toList) := by
  obtain ⟨proposal, others, hsimilar⟩ := exists_similar hword hclose
  obtain ⟨column, hcolumn'⟩ := Int.eq_ofNat_of_zero_le hcolumn
  obtain ⟨before, old, after, rfl, hbefore, hold⟩ :=
    @exists_span last column term.length (by omega)
  have hne : old ≠ "" := by
    rintro rfl
    exact hterm (String.length_eq_zero_iff.1 hold.symm)
  have hcode : ctx.code ≠ [] := by
    intro hnil
    rw [hnil] at hlast
    cases hlast
  have hlabel : ctx.label ctx.lastIndex = toString ctx.endLine ++ ":" := by
    rw [Context.label, Context.lineNumber, Context.lastIndex, hend, Int.add_sub_assoc]
  have hplace : ctx.column + ctx.labelWidth ctx.lastIndex
      = ((toString ctx.endLine ++ ":" ++ before).length : Nat) := by
    rw [Context.labelWidth, hlabel, @String.length_append _ before]
    omega
  have hhelp := helpInScope_of_similar hcode hterm hsimilar
  rw [hplace, ← hold, heading_eq] at hhelp
  have hchanged := @getLast?_correctedLines_span ctx proposal before old after hend hlast
  exact ⟨proposal, others, _, before, old, after, (similar_eq_filter ..).symm.trans hsimilar, rfl,
    by omega, hold, hhelp, length_correctedLines ..,
    fun i line => getElem?_correctedLines_of_lt _ _ _ hend, hchanged,
    fun hproposal => lines_join_closed (isLine_correctedLines _ _ hlines hend hlast hne hchanged
      hproposal)⟩

/-- The line numbers have one digit and two digits. -/
theorem helpInScope_shows_lines_nine_ten :
    let ctx : Context := ⟨"ports.ol", 9, 10, 4, ["inputPort P \x7b\n", "    protcol: sodep\n"]⟩
    let expected := ["location", "protocol"]
    ctx.code.getLast? = some "    protcol: sodep\n" ∧
      (∀ line ∈ ctx.code, IsLine (· == '\n') line.toList) ∧
      ctx.endLine = ctx.startLine + ctx.code.length - 1 ∧ "protcol" ≠ "" ∧ 0 ≤ ctx.column ∧
      ctx.column + ("protcol" : String).length ≤ ("    protcol: sodep\n" : String).length ∧
      "protocol" ∈ expected ∧ editDistance "protcol" "protocol" ≤ 2 ∧
      helpInScope ctx "protcol" expected
        = "\nYour term is similar to what would be valid input: protocol. Perhaps you meant:\n"
          ++ "9:inputPort P \x7b\n" ++ "10:    protocol: sodep\n" ++ "       ^" := by
  intro ctx expected
  have hlast : ctx.code.getLast? = some "    protcol: sodep\n" := rfl
  have hlines : ∀ line ∈ ctx.code, IsLine (· == '\n') line.toList := by
    simp [ctx, IsLine]
  have hfits : ctx.column + ("protcol" : String).length
      ≤ ("    protcol: sodep\n" : String).length := by decide +kernel
  have hword : "protocol" ∈ expected := by decide
  have hclose : editDistance "protcol" "protocol" ≤ 2 := by decide +kernel
  refine ⟨hlast, hlines, rfl, by decide, by decide, hfits, hword, hclose, ?_⟩
  obtain ⟨proposal, others, shown, before, old, after, hproposal, hsplit, hbefore, hold, hhelp,
    hlength, hinner, hshown, -⟩ :=
    helpInScope_shows_lines hlast hlines rfl (by decide) (by decide) hfits hword hclose
  have hfiltered : expected.filter (fun word => editDistance "protcol" word ≤ 2)
      = ["protocol"] := by
    decide +kernel
  obtain ⟨rfl, rfl⟩ := List.cons.inj (hfiltered.symm.trans hproposal)
  -- the place of the term divides the line in one way, so all that is shown is known
  obtain ⟨rfl, rfl, rfl⟩ := @span_inj "    " "protcol" ": sodep\n" before old after hsplit
    (Int.ofNat.inj hbefore).symm hold.symm
  have hfirst := hinner 0 _ (by decide) rfl
  obtain ⟨first, second, rfl⟩ := List.length_eq_two.1 hlength
  obtain rfl := Option.some.inj hfirst
  obtain rfl := Option.some.inj hshown
  rw [hhelp]
  decide +kernel

end Suggestion

end ServiceSyntax
