import Mathlib.Data.List.DropRight
import ServiceSyntax.Diagnostic.Message
import ServiceSyntax.Proofs.Text.Lines

/-!
# The place of the caret

A message without help that is about one line shows that line behind its number, and below it a
caret (`Message.render_line`). The caret stands below the character at the column, or behind the
line where that character is its line feed, which is not shown (`caret_below`).
-/

namespace ServiceSyntax

namespace Text

variable {p : Char → Bool} {c : Char} {before after : List Char}

theorem dropTrailing_eq_rdropWhile (p : Char → Bool) (cs : List Char) :
    dropTrailing p cs = cs.rdropWhile p := rfl

/-- Nothing is dropped in front of a character that stays. -/
theorem dropTrailing_append_cons (before after : List Char) (hc : p c = false) :
    dropTrailing p (before ++ c :: after) = before ++ c :: dropTrailing p after := by
  have hkept : (c :: before.reverse).dropWhile p = c :: before.reverse := by
    rw [List.dropWhile_cons_of_neg (by simp [hc])]
  rw [dropTrailing, dropTrailing, List.reverse_append, List.reverse_cons, List.append_assoc,
    List.singleton_append, List.dropWhile_append]
  split
  · rename_i hnil
    rw [hkept, List.isEmpty_iff.1 hnil]
    simp
  · simp

/-- Behind a label a character of a line stands at its column, unless it is the line feed, which
would stand behind all that is shown. -/
theorem caret_below {label : String} (hlabel : label.toList.getLast? ≠ some '\n')
    (hline : IsLine (· == '\n') (before ++ c :: after)) :
    let shown := withoutLineEnd (label ++ String.ofList (before ++ c :: after))
    if c = '\n' then shown.length = label.length + before.length
    else shown.toList[label.length + before.length]? = some c := by
  intro shown
  have hshown : shown.toList
      = dropTrailing (· == '\n') ((label.toList ++ before) ++ c :: after) := by
    simp [shown, withoutLineEnd]
  have hwidth : label.length + before.length = (label.toList ++ before).length := by
    rw [List.length_append, String.length_toList]
  by_cases hc : c = '\n'
  · rw [if_pos hc, ← String.length_toList, hshown, hwidth]
    subst hc
    -- the line feed ends its line, and what stands in front of it is none
    obtain rfl : after = [] := (hline.suffix (List.suffix_append _ _)).1 rfl
    have hinner : (label.toList ++ before).getLast? ≠ some '\n' := by
      intro hlast
      rw [List.getLast?_append, Option.or_eq_some_iff] at hlast
      rcases hlast with hlast | ⟨-, hlast⟩
      · exact Bool.noConfusion (hline.eq_false_of_mem '\n' (List.mem_of_getLast? hlast))
      · exact hlabel hlast
    rw [dropTrailing_eq_rdropWhile, List.rdropWhile_concat_pos _ _ _ rfl,
      List.rdropWhile_eq_self_iff.2]
    intro hne hend
    apply hinner
    rw [List.getLast?_eq_some_getLast hne, beq_iff_eq.1 hend]
  · have hkept : (c == '\n') = false := beq_false_of_ne hc
    rw [if_neg hc, hshown, hwidth, @dropTrailing_append_cons (· == '\n') c _ _ hkept]
    simp

end Text

namespace Message

/-- A message about one line shows it behind its number. -/
theorem render_line (source : String) (n column : Nat) (line description : String) :
    let m : Message := ⟨⟨source, n, n, column, [line]⟩, description, none⟩
    m.render = "\n".intercalate [m.header, Text.withoutLineEnd (toString n ++ ":" ++ line),
      Text.spaces ((toString n ++ ":").length + column : Nat) ++ "^"] := by
  intro m
  have hlabel : m.context.label 0 = toString n ++ ":" := by
    show toString ((n : Int) + 0) ++ ":" = _
    rw [Int.add_zero]
    rfl
  have hnumbered : m.context.numberedCode = [toString n ++ ":" ++ line] := by
    rw [← hlabel]
    rfl
  have hcaret : caret m.context
      = Text.spaces ((toString n ++ ":").length + column : Nat) ++ "^" := by
    rw [← hlabel]
    rfl
  rw [render, excerpt, hnumbered, hcaret]
  rfl

end Message

end ServiceSyntax
