import ServiceSyntax.Proofs.Scan.Consumed
import ServiceSyntax.Proofs.Scan.Tokenize
import ServiceSyntax.Proofs.Text.LastLine

/-!
# The place of the end of the file

At the end of a text the scanner marks its own line, behind all line feeds, but the column where the
text of the last line that it has retained ends. These belong together unless a line feed ends the
text behind another character (`endOfFile_place`).
-/

namespace ServiceSyntax.Scanner

open Scan Text

variable {s t : Scanner} {text name : String} {layout : Bool} {token : Token}

/-- At the end of the file all of the text has been consumed, and the scanner marks its place. -/
theorem stands_endOfFile (hreach : (ofText text name layout).Reaches s)
    (hnext : s.next = (.ok token, t)) (hfile : token.kind = .endOfFile) :
    Stands t text.toList [] ∧ t.tokenLine = t.line ∧
      t.tokenColumn = (withoutLineEnd t.currentLine).length := by
  have hover := (steady_within text).next
    ((steady_within text).reaches (within_ofText text name layout) hreach)
  rw [hnext] at hover
  obtain ⟨-, hrest, hunread⟩ := hover.ended token rfl hfile
  obtain ⟨before, after, htext, hstands⟩ := hover.keeps.exists_stands
  obtain rfl : after = [] := by
    rw [hstands.after_eq, hrest, hunread]
    rfl
  rw [htext, List.append_nil]
  have hmarked := markToken_of_endOfFile hnext hfile
  have hline : t.markToken.tokenLine = t.tokenLine := congrArg Scanner.tokenLine hmarked
  have hcolumn : t.markToken.tokenColumn = t.tokenColumn := congrArg Scanner.tokenColumn hmarked
  refine ⟨hstands, hline.symm, hcolumn.symm.trans (if_pos ?_)⟩
  rw [hrest]
  rfl

/-- The end of the file is in the line behind all line feeds. Its column is the number of characters
behind the last of them, where a line feed that ends the text does not count: if that one stands
behind another character the line has no such column, and in all other texts the column is that of
the end. -/
theorem endOfFile_place (hreach : (ofText text name layout).Reaches s)
    (hnext : s.next = (.ok token, t)) (hfile : token.kind = .endOfFile) :
    t.tokenLine = 1 + text.toList.count '\n' ∧
      (text.toList.getLast? ≠ some '\n' → t.tokenColumn = columnAfter text.toList) ∧
      (∀ body, text.toList = body ++ ['\n'] → t.tokenColumn = columnAfter body) ∧
      ((∀ body c, text.toList = body ++ [c, '\n'] → c = '\n') →
        t.tokenColumn = columnAfter text.toList) ∧
      ∀ body c, text.toList = body ++ [c, '\n'] → c ≠ '\n' →
        columnAfter text.toList < t.tokenColumn := by
  obtain ⟨hstands, hline, hcolumn⟩ := stands_endOfFile hreach hnext hfile
  rw [hstands.currentLine_of_nil] at hcolumn
  have hconcat : ∀ body c, text.toList = body ++ [c] →
      t.tokenColumn = if c = '\n' then columnAfter body else columnAfter body + 1 := by
    intro body c htext
    rw [hcolumn, htext, length_lastLine_concat]
  have hopen : text.toList.getLast? ≠ some '\n' → t.tokenColumn = columnAfter text.toList := by
    intro hlast
    rcases List.eq_nil_or_concat text.toList with hnil | ⟨body, c, htext⟩
    · rw [hcolumn, hnil]
      rfl
    · rw [List.concat_eq_append] at htext
      rw [htext, List.getLast?_concat] at hlast
      have hc : c ≠ '\n' := fun heq => hlast (congrArg some heq)
      rw [hconcat body c htext, htext, columnAfter_concat, if_neg hc, if_neg hc]
  have hclosed : ∀ body, text.toList = body ++ ['\n'] → t.tokenColumn = columnAfter body := by
    intro body htext
    rw [hconcat body '\n' htext, if_pos rfl]
  refine ⟨hline.trans hstands.line_eq, hopen, hclosed, fun hblank => ?_, fun body c htext hc => ?_⟩
  · by_cases hlast : text.toList.getLast? = some '\n'
    · obtain ⟨body, htext⟩ := List.getLast?_eq_some_iff.1 hlast
      rw [hclosed body htext, htext, columnAfter_concat, if_pos rfl]
      -- behind a blank line, or where there is no other line, both columns are those of its start
      rcases List.eq_nil_or_concat body with rfl | ⟨init, c, rfl⟩
      · rfl
      · rw [List.concat_eq_append, List.append_assoc] at htext
        rw [List.concat_eq_append, hblank init c htext, columnAfter_concat, if_pos rfl]
    · exact hopen hlast
  · have htext' : text.toList = (body ++ [c]) ++ ['\n'] := by rw [htext, List.append_assoc]; rfl
    rw [hclosed _ htext', htext', columnAfter_concat, columnAfter_concat, if_pos rfl, if_neg hc]
    exact Nat.succ_pos _

/-- Behind a string with a bad escape and an empty line the file ends where a third line begins. -/
theorem endOfFile_place_blank :
    let text := "\"\\q\"\n\n"
    let s := (ofText text "text").next.2.skipLine.2
    (ofText text "text").Reaches s ∧ s.next = (.ok ⟨.endOfFile, ""⟩, s.next.2) ∧
      s.next.2.tokenLine = 3 ∧ s.next.2.tokenColumn = 0 := by
  intro text s
  have hreach : (ofText text "text").Reaches s := .skipLine (.next .refl)
  have hnext : s.next = (.ok ⟨.endOfFile, ""⟩, s.next.2) := by decide +kernel
  obtain ⟨hline, -, hclosed, -⟩ := endOfFile_place hreach hnext rfl
  have htext : text.toList = ['"', '\\', 'q', '"', '\n'] ++ ['\n'] := by decide
  rw [htext] at hline
  exact ⟨hreach, hnext, hline, hclosed _ htext⟩

/-- Behind one line with its line feed the file ends at the start of the second line, but the column
is that of the end of the first one. -/
theorem endOfFile_column_stale :
    let s := (ofText "a\n" "text").next.2
    (ofText "a\n" "text").Reaches s ∧ s.next = (.ok ⟨.endOfFile, ""⟩, s.next.2) ∧
      s.next.2.tokenLine = 2 ∧ s.next.2.tokenColumn = 1 ∧ columnAfter "a\n".toList = 0 ∧
      ¬ ∀ (text name : String) (layout : Bool) (s t : Scanner) (token : Token),
        (ofText text name layout).Reaches s → s.next = (.ok token, t) → token.kind = .endOfFile →
        t.tokenLine = 1 + text.toList.count '\n' ∧ t.tokenColumn = columnAfter text.toList := by
  intro s
  have hreach : (ofText "a\n" "text").Reaches s := .next .refl
  have hnext : s.next = (.ok ⟨.endOfFile, ""⟩, s.next.2) := by decide +kernel
  have hcolumn : s.next.2.tokenColumn = 1 := by decide +kernel
  refine ⟨hreach, hnext, by decide +kernel, hcolumn, rfl, fun hplace => ?_⟩
  have hzero := (hplace "a\n" "text" false s _ _ hreach hnext rfl).2
  rw [hcolumn] at hzero
  cases hzero

end ServiceSyntax.Scanner
