import Mathlib.Data.List.Infix
import ServiceSyntax.Diagnostic.Scope
import ServiceSyntax.Proofs.Diagnostic.Correction

/-!
# Corrections inside constructs

Which line of a construct is corrected, and at which column. In an import statement it is the first
one, at a column that counts the width of the line number and not the spaces between the words, so
the two agree where the number has one digit (`diagnose_import`). In an execution block it is the
first one as well, whichever line the offending token is on (`diagnose_execution`).
-/

namespace ServiceSyntax

namespace Text

theorem fields_eq_splitOn {α : Type} [BEq α] (separator : α) (items : List α) :
    fields separator items = items.splitOn separator := by
  induction items with
  | nil => rfl
  | cons x items ih =>
    obtain ⟨first, others, hsplit⟩ :=
      List.exists_cons_of_ne_nil (List.splitOn_ne_nil separator items)
    rw [fields, List.splitOn_cons_eq_if_modifyHead, ih, hsplit]
    rfl

/-- Words with single separators between them are the fields of what they make. -/
theorem fields_intercalate {separator : Char} {words : List String} (hne : words ≠ [])
    (hwords : ∀ word ∈ words, separator ∉ word.toList) :
    (fields separator ((String.singleton separator).intercalate words).toList).map String.ofList
      = words := by
  have hparts : ∀ part ∈ words.map String.toList, separator ∉ part := by
    intro part hpart
    obtain ⟨word, hword, rfl⟩ := List.mem_map.1 hpart
    exact hwords word hword
  rw [fields_eq_splitOn, String.toList_intercalate, String.toList_singleton,
    List.splitOn_intercalate separator hparts (by simpa using hne), List.map_map]
  simp [Function.comp_def]

theorem mem_intercalate {separator : String} {words : List String} {c : Char}
    (h : c ∈ (separator.intercalate words).toList) :
    c ∈ separator.toList ∨ ∃ word ∈ words, c ∈ word.toList := by
  induction words with
  | nil => simp at h
  | cons word words ih =>
    rcases eq_or_ne words [] with rfl | hne
    · rw [String.intercalate_singleton] at h
      exact .inr ⟨word, List.mem_cons_self, h⟩
    · rw [String.intercalate_cons_of_ne_nil hne, String.toList_append, String.toList_append,
        List.mem_append, List.mem_append] at h
      rcases h with (h | h) | h
      · exact .inr ⟨word, List.mem_cons_self, h⟩
      · exact .inl h
      · exact (ih h).imp_right fun ⟨word, hword, h⟩ => ⟨word, List.mem_cons_of_mem _ hword, h⟩

/-- What words make begins with the first of them. -/
theorem exists_intercalate_cons (separator word : String) (words : List String) :
    ∃ after, separator.intercalate (word :: words) = word ++ after := by
  cases words with
  | nil => exact ⟨"", by rw [String.intercalate_singleton, String.append_empty]⟩
  | cons next words => exact ⟨separator ++ separator.intercalate (next :: words), by
      rw [String.intercalate_cons_cons, String.append_assoc]⟩

end Text

namespace ScopeFailure

open Suggestion

variable {f : ScopeFailure} {first word : String} {others : List String}

/-- The context of a construct has all the lines that were read. -/
theorem spanning_of_lines (hlines : f.lines = first :: others) (column : Option Int) :
    f.spanning f.lines column = ⟨f.context.source, f.firstLine, f.firstLine + others.length,
      column.getD f.context.column, first :: others⟩ := by
  have hend : f.firstLine + ((first :: others).length : Int) - 1 = f.firstLine + others.length := by
    rw [List.length_cons]
    omega
  rw [spanning, hlines, hend]
  rfl

/-! ## Import statements -/

/-- A number below ten is written with one digit. -/
theorem length_toString_of_lt_ten {n : Nat} (h : n < 10) : (toString n).length = 1 := by
  show n.repr.length = 1
  rw [Nat.repr, Nat.toDigits_of_lt_base h, String.length_ofList, List.length_singleton]

theorem firstWords_of_line {words : List String} {lineEnd : String}
    (hlines : f.lines = (" ".intercalate words ++ lineEnd) :: others)
    (hend : lineEnd = "" ∨ lineEnd = "\n") (hne : words ≠ [])
    (hwords : ∀ word ∈ words, ' ' ∉ word.toList ∧ '\n' ∉ word.toList) :
    f.firstWords = words := by
  have hline : '\n' ∉ (" ".intercalate words).toList := by
    intro hmem
    rcases Text.mem_intercalate hmem with hmem | ⟨word, hword, hmem⟩
    · exact absurd hmem (by decide)
    · exact (hwords word hword).2 hmem
  rw [firstWords, hlines]
  show (Text.fields ' ' (Text.withoutLineEnd _).toList).map String.ofList = words
  rw [Text.withoutLineEnd_of_not_mem hline hend]
  exact Text.fields_intercalate hne fun word hword => (hwords word hword).1

/-- The message for an import statement of three words or more is about all that was read. -/
theorem diagnose_of_words {keyword path term : String} {words : List String}
    (hwords : f.firstWords = keyword :: path :: term :: words)
    (hlines : f.lines = first :: others) :
    let ctx : Context := ⟨f.context.source, f.firstLine, f.firstLine + others.length,
      ((toString f.firstLine ++ ":" ++ keyword).length + path.length : Nat), f.lines⟩
    f.diagnose "import" = .withHelp ctx f.description (help ctx term f.vocabulary) := by
  intro ctx
  have hctx := spanning_of_lines hlines
    (some ((toString f.firstLine ++ ":" ++ keyword).length + path.length : Nat))
  rw [← hlines] at hctx
  show f.inImport = _
  rw [inImport, hwords]
  dsimp only
  rw [hctx]
  rfl

/-- In an import statement the third word is corrected. Its column is taken to be the width of the
line number, the colon and the first two words. On a line with a number of one digit that is where
the word begins, and help shows the line with this word replaced and the caret below. -/
theorem diagnose_import {n : Nat} {keyword path term lineEnd : String} {words : List String}
    (hfirst : f.firstLine = n)
    (hlines : f.lines
      = (" ".intercalate (keyword :: path :: term :: words) ++ lineEnd) :: others)
    (hend : lineEnd = "" ∨ lineEnd = "\n") (hterm : term ≠ "")
    (hwords : ∀ word ∈ keyword :: path :: term :: words, ' ' ∉ word.toList ∧ '\n' ∉ word.toList)
    (hword : word ∈ f.vocabulary) (hclose : editDistance term word ≤ 2) :
    ∃ (proposal : String) (terms : List String) (before after : String),
      similar term f.vocabulary = proposal :: terms ∧
      before = keyword ++ " " ++ path ++ " " ∧
      " ".intercalate (keyword :: path :: term :: words) ++ lineEnd = before ++ term ++ after ∧
      (f.diagnose "import").context = ⟨f.context.source, n, n + others.length,
        (toString n ++ ":" ++ keyword).length + path.length, f.lines⟩ ∧
      (f.diagnose "import").context.column + 1 = before.length + (toString n).length ∧
      (n < 10 → (f.diagnose "import").context.column = before.length ∧
        (f.diagnose "import").help = some (similarHeading (proposal :: terms)
          ++ corrected (toString n ++ ":" ++ before) proposal after)) := by
  obtain ⟨proposal, terms, hsimilar⟩ := exists_similar hword hclose
  obtain ⟨rest, hrest⟩ := Text.exists_intercalate_cons " " term words
  have hline : " ".intercalate (keyword :: path :: term :: words) ++ lineEnd
      = keyword ++ " " ++ path ++ " " ++ term ++ (rest ++ lineEnd) := by
    rw [String.intercalate_cons_cons, String.intercalate_cons_cons, hrest]
    simp only [String.append_assoc]
  have hfound : f.firstWords = keyword :: path :: term :: words :=
    firstWords_of_line hlines hend (List.cons_ne_nil _ _) hwords
  have hcolumn : (toString n ++ ":" ++ keyword).length + path.length + 1
      = (keyword ++ " " ++ path ++ " ").length + (toString n).length := by
    simp only [String.length_append, show (":" : String).length = 1 from rfl,
      show (" " : String).length = 1 from rfl]
    omega
  have hmessage := diagnose_of_words hfound hlines
  rw [hfirst] at hmessage
  -- a number of one digit is as wide as the space that is not counted
  have hplace (hlt : n < 10) : (((toString n ++ ":" ++ keyword).length + path.length : Nat) : Int)
      = (keyword ++ " " ++ path ++ " ").length := by
    have hdigit := length_toString_of_lt_ten hlt
    omega
  rw [hmessage]
  refine ⟨proposal, terms, _, rest ++ lineEnd, hsimilar, rfl, hline, rfl, ?_,
    fun hlt => ⟨hplace hlt, ?_⟩⟩
  · show (((toString n ++ ":" ++ keyword).length + path.length : Nat) : Int) + 1 = _
    exact_mod_cast hcolumn
  · rw [help_of_span (hlines.trans (by rw [hline])) (hplace hlt) rfl hterm hsimilar,
      help_withHelp, Context.label_zero]
    rfl

/-- The number of the line has one digit. -/
theorem diagnose_import_nine :
    let f : ScopeFailure := ⟨⟨"svc.ol", 9, 9, 13, ["from console imprt Console\n"]⟩,
      "expected import", "imprt", none, 9, ["from console imprt Console\n"],
      ["from", "import", "as"]⟩
    f.firstLine = (9 : Nat) ∧
      f.lines = (" ".intercalate ["from", "console", "imprt", "Console"] ++ "\n") :: [] ∧
      "imprt" ≠ "" ∧
      (∀ word ∈ ["from", "console", "imprt", "Console"],
        ' ' ∉ word.toList ∧ '\n' ∉ word.toList) ∧
      "import" ∈ f.vocabulary ∧ editDistance "imprt" "import" ≤ 2 ∧
      (f.diagnose "import").context = ⟨"svc.ol", 9, 9, 13, ["from console imprt Console\n"]⟩ ∧
      (f.diagnose "import").help
        = some ("Your term is similar to what would be valid input: import. Perhaps you meant:\n"
          ++ "9:from console import Console\n" ++ "               ^") := by
  intro f
  have hlines : f.lines
      = (" ".intercalate ["from", "console", "imprt", "Console"] ++ "\n") :: [] := by
    decide +kernel
  have hwords : ∀ word ∈ ["from", "console", "imprt", "Console"],
      ' ' ∉ word.toList ∧ '\n' ∉ word.toList := by
    decide +kernel
  have hmem : "import" ∈ f.vocabulary := List.mem_cons_of_mem _ List.mem_cons_self
  have hclose : editDistance "imprt" "import" ≤ 2 := by decide +kernel
  refine ⟨rfl, hlines, by decide, hwords, hmem, hclose, ?_⟩
  obtain ⟨proposal, terms, before, after, hproposal, hbefore, hline, hctx, -, hdigit⟩ :=
    diagnose_import rfl hlines (.inr rfl) (by decide) hwords hmem hclose
  have hsimilar : similar "imprt" f.vocabulary = ["import"] := by decide +kernel
  obtain ⟨rfl, rfl⟩ := List.cons.inj (hsimilar.symm.trans hproposal)
  have hsplit : "from console imprt" ++ " Console\n" = before ++ "imprt" ++ after := by
    rw [← hline]
    decide +kernel
  -- what stands in front of the term is as long as the first two words, so the rest is known
  obtain ⟨-, rfl⟩ := Text.split_inj hsplit (by rw [hbefore]; decide +kernel)
  refine ⟨hctx.trans (by decide +kernel), ?_⟩
  rw [(hdigit (by decide)).2, hbefore]
  decide +kernel

/-- Where the number of the line has two digits the column is one too large, and the proposal is put
in behind the first character of the word, over the space that follows it. -/
theorem diagnose_import_ten :
    let f : ScopeFailure := ⟨⟨"svc.ol", 10, 10, 13, ["from console imprt Console\n"]⟩,
      "expected import", "imprt", none, 10, ["from console imprt Console\n"],
      ["from", "import", "as"]⟩
    f.lines = ["from console " ++ "imprt" ++ " Console\n"] ∧
      similar "imprt" f.vocabulary = ["import"] ∧
      ("from console " : String).length = 13 ∧ (f.diagnose "import").context.column = 14 ∧
      (f.diagnose "import").help = some (similarHeading ["import"]
        ++ "10:from console iimportConsole\n" ++ "                 ^") ∧
      (f.diagnose "import").help ≠ some (similarHeading ["import"]
        ++ corrected ("10:" ++ "from console ") "import" " Console\n") := by
  decide +kernel

/-! ## Execution blocks -/

/-- In an execution block the first line is corrected, at the column of the token. That is the token
if it is on the first line, which is then shown with the token replaced and the caret below. -/
theorem diagnose_execution (hlines : f.lines = first :: others) (hcontent : f.content ≠ "")
    (hcolumn : 0 ≤ f.context.column) (hword : word ∈ f.vocabulary)
    (hclose : editDistance f.content word ≤ 2) :
    ∃ (proposal : String) (terms : List String),
      similar f.content f.vocabulary = proposal :: terms ∧
      (f.diagnose "execution").context = ⟨f.context.source, f.firstLine,
        f.firstLine + others.length, f.context.column, first :: others⟩ ∧
      (f.diagnose "execution").help = some (similarHeading (proposal :: terms)
        ++ (closed (toString f.firstLine ++ ":"
            ++ substitute first f.context.column f.content.length proposal)
          ++ caretAt (f.context.column + (toString f.firstLine ++ ":").length))) ∧
      ∀ before after, first = before ++ f.content ++ after → f.context.column = before.length →
        (f.diagnose "execution").help = some (similarHeading (proposal :: terms)
          ++ corrected (toString f.firstLine ++ ":" ++ before) proposal after) := by
  obtain ⟨proposal, terms, hsimilar⟩ := exists_similar hword hclose
  have hctx := spanning_of_lines hlines none
  have hcode : (f.spanning f.lines).code = first :: others := by rw [hctx]
  have hplace : (f.spanning f.lines).column = f.context.column := by rw [hctx, Option.getD_none]
  have hlabel : (f.spanning f.lines).label 0 = toString f.firstLine ++ ":" := by
    rw [hctx, Context.label_zero]
  have hmessage : f.diagnose "execution"
      = .withHelp (f.spanning f.lines) f.description (help (f.spanning f.lines) f.content
          f.vocabulary) := rfl
  rw [hmessage]
  refine ⟨proposal, terms, hsimilar, hctx, ?_, fun before after hfirst hbefore => ?_⟩
  · rw [help_of_similar hcode hcontent hsimilar (hplace ▸ hcolumn), help_withHelp,
      Context.labelWidth, hlabel, hplace]
  · rw [help_of_span (hcode.trans (by rw [hfirst])) (hplace.trans hbefore) rfl hcontent hsimilar,
      help_withHelp, hlabel]

theorem diagnose_execution_one_line :
    let f : ScopeFailure := ⟨⟨"svc.ol", 12, 12, 12, ["execution \x7b concurent \x7d\n"]⟩,
      "Unexpected term", "concurent", none, 12, ["execution \x7b concurent \x7d\n"],
      ["single", "sequential", "concurrent"]⟩
    f.lines = ["execution \x7b concurent \x7d\n"] ∧ f.content ≠ "" ∧ 0 ≤ f.context.column ∧
      "concurrent" ∈ f.vocabulary ∧ editDistance f.content "concurrent" ≤ 2 ∧
      (f.diagnose "execution").context
        = ⟨"svc.ol", 12, 12, 12, ["execution \x7b concurent \x7d\n"]⟩ ∧
      (f.diagnose "execution").help = some
        ("Your term is similar to what would be valid input: concurrent. Perhaps you meant:\n"
          ++ "12:execution \x7b concurrent \x7d\n" ++ "               ^") := by
  intro f
  have hmem : "concurrent" ∈ f.vocabulary := by decide +kernel
  have hclose : editDistance f.content "concurrent" ≤ 2 := by decide +kernel
  have hlines : f.lines = "execution \x7b concurent \x7d\n" :: [] := rfl
  refine ⟨hlines, by decide, by decide, hmem, hclose, ?_⟩
  obtain ⟨proposal, terms, hproposal, hctx, -, hhelp⟩ :=
    diagnose_execution hlines (by decide) (by decide) hmem hclose
  have hsimilar : similar f.content f.vocabulary = ["concurrent"] := by decide +kernel
  obtain ⟨rfl, rfl⟩ := List.cons.inj (hsimilar.symm.trans hproposal)
  refine ⟨hctx, ?_⟩
  rw [hhelp "execution \x7b " " \x7d\n" (by decide +kernel) (by decide +kernel)]
  decide +kernel

/-- A token on the second line of a block is replaced in the first line, at its own column. -/
theorem diagnose_execution_two_lines :
    let f : ScopeFailure := ⟨⟨"svc.ol", 2, 2, 4, ["    concurent\n"]⟩,
      "Unexpected term", "concurent", none, 1, ["execution \x7b\n", "    concurent\n"],
      ["single", "sequential", "concurrent"]⟩
    f.lines.getLast? = some ("    " ++ "concurent" ++ "\n") ∧
      ("    " : String).length = f.context.column ∧
      similar f.content f.vocabulary = ["concurrent"] ∧
      (f.diagnose "execution").help = some (similarHeading ["concurrent"]
        ++ "1:execconcurrent\n" ++ "      ^") ∧
      (f.diagnose "execution").help ≠ some (similarHeading ["concurrent"]
        ++ corrected ("2:" ++ "    ") "concurrent" "\n") := by
  decide +kernel

end ScopeFailure

end ServiceSyntax
