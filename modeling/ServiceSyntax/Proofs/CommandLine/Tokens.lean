import ServiceSyntax.CommandLine.Run
import ServiceSyntax.Proofs.Scan.Listing

/-!
# Listing the tokens of a file

Whatever the bytes of a file are, their tokens are listed up to the end of the file, in order, with
at most one diagnostic for a line, and the status tells whether there is a diagnostic
(`runTokens_lists`).
-/

namespace ServiceSyntax

open Scanner (Event)

namespace TokenReport

variable {source : String} {events : List Event}

theorem tokens_ofEvents (source : String) (events : List Event) :
    (ofEvents source events).tokens = events.filterMap Event.token? := by
  apply List.filterMap_congr
  intro event _
  cases event <;> rfl

/-- Tokens in order make a report in order. -/
theorem pairwise_tokens (h : events.Pairwise Event.Precedes) :
    (ofEvents source events).tokens.Pairwise fun a b => a.position ≤ b.position := by
  apply h.filterMap
  intro event event' hprecedes a ha b hb
  cases event <;> cases ha
  cases event' <;> cases hb
  exact hprecedes

/-- Errors in lines of their own make diagnostics for lines of their own. -/
theorem pairwise_problems (h : events.Pairwise Event.Precedes) :
    (ofEvents source events).problems.Pairwise
      fun m m' => m.context.startLine < m'.context.startLine := by
  apply h.filterMap
  intro event event' hprecedes m hm m' hm'
  cases event <;> cases hm
  cases event' <;> cases hm'
  exact hprecedes

end TokenReport

namespace CommandLine

variable {host : Host} {file : String} {bytes : List UInt8}

/-- The tokens of a file are read to its end, and behind every error the rest of its line is
dropped, which never fails. The last token, and no other one, is the end of the file. Tokens stand
in order, no line has two diagnostics, and what is read behind a diagnostic stands in a later line.
The status is 2 if there is a diagnostic and 0 if there is none. -/
theorem runTokens_lists (env : Environment) (json layout : Bool)
    (hfile : host.file (.ofText file) = .readable bytes) :
    let path := (FilePath.ofText file).text
    let scanner := Scanner.ofBytes bytes path layout
    let report := TokenReport.ofEvents path scanner.events
    ∃ output, runTokens env host file json layout = .ok output ∧
      scanner.Lists scanner.events ∧
      output.out = (if json then report.json.render else report.text) ∧
      (∃ others last, report.tokens = others ++ [last] ∧ last.token.kind = .endOfFile ∧
        ∀ located ∈ others, located.token.kind ≠ .endOfFile) ∧
      report.tokens.Pairwise (fun a b => a.position ≤ b.position) ∧
      report.problems.Pairwise (fun m m' => m.context.startLine < m'.context.startLine) ∧
      (∀ e located, [.problem e, .token located].Sublist scanner.events →
        located.token.kind ≠ .endOfFile → e.context.startLine < located.line) ∧
      (output.status = 2 ↔ report.problems ≠ []) ∧ (output.status = 0 ↔ report.problems = []) := by
  intro path scanner report
  let output := listTokens env (.ofText file) bytes json layout
  have hrun : runTokens env host file json layout = .ok output := by
    simp only [runTokens, hfile]
    rfl
  have hcounted := Scanner.counted_ofBytes bytes path layout
  have hlists := Scanner.lists_events hcounted
  have hprecedes := hlists.precedes hcounted
  have hstatus : output.status = if report.problems.isEmpty then 0 else 2 := rfl
  -- the order of the report is that of the events it is made from
  refine ⟨output, hrun, hlists, rfl, ?_, TokenReport.pairwise_tokens hprecedes,
    TokenReport.pairwise_problems hprecedes, ?_, ?_, ?_⟩
  · rw [TokenReport.tokens_ofEvents]
    exact hlists.exists_endOfFile
  · intro e located hsublist
    exact List.pairwise_iff_forall_sublist.1 hprecedes hsublist
  · rw [hstatus]
    cases report.problems <;> simp
  · rw [hstatus]
    cases report.problems <;> simp

/-- A line with a byte that is no UTF-8, and a line with a word. -/
theorem runTokens_lists_invalidByte :
    let bytes : List UInt8 := [255, 10, 98]
    let host : Host := { file := fun _ => .readable bytes }
    host.file (.ofText "a.ol") = .readable bytes ∧
      ∃ output, runTokens {} host "a.ol" false true = .ok output ∧ output.status = 2 := by
  intro bytes host
  let s : Scanner :=
    { source := "a.ol", layout := true, unread := [.broken [] 255 ['\n'], .sound ['b']] }
  have hscanner : Scanner.ofBytes bytes "a.ol" true = s := by
    have hsource : Scan.Source.ofBytes bytes = s.unread := by decide +kernel
    rw [Scanner.ofBytes, hsource]
  have hbyte : s.next
      = (.error ⟨.invalidByte 255 0, ⟨"a.ol", 1, 1, 0, ["\uFFFD\n"]⟩⟩, s.next.2) := rfl
  let t := s.next.2.skipLine.2
  have hdropped : s.next.2.skipLine = (.ok 2, t) := rfl
  have hword : t.next = (.ok ⟨.identifier, "b"⟩, t.next.2) := rfl
  have hend : t.next.2.next = (.ok ⟨.endOfFile, ""⟩, t.next.2.next.2) := rfl
  have hlists := Scanner.Lists.problem hbyte hdropped
    (.token hword (by decide) (.endOfFile hend rfl))
  have hfile : host.file (.ofText "a.ol") = .readable bytes := rfl
  obtain ⟨output, hrun, -, -, -, -, -, -, hstatus, -⟩ := runTokens_lists {} false true hfile
  refine ⟨hfile, output, hrun, hstatus.2 ?_⟩
  have hpath : (FilePath.ofText "a.ol").text = "a.ol" := rfl
  rw [hpath, hscanner, hlists.events_eq]
  exact List.cons_ne_nil _ _

end CommandLine

end ServiceSyntax
