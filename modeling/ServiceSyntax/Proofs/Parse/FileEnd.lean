import ServiceSyntax.Proofs.Diagnostic.FileEnd
import ServiceSyntax.Proofs.Parse.Holding
import ServiceSyntax.Proofs.Parse.Production

/-!
# Diagnostics at the end of the file

Unless a production injects it, the end of the file comes from the scanner, which gives it when no
line is left to be read. It may be read once more from the queue, behind a backup that has recorded
it, but no line that has been read is given back. So wherever the end of the file is current, all
lines of the source are retained, and diagnostics point at its end (`points_at_end`).
-/

namespace ServiceSyntax

open Scanner Scan

namespace Cursor

variable {s t : Scanner} {entry : Entry}

/-! ## Entries -/

/-- If the entry is the end of the file, the scanner has read all lines of the source. -/
def Genuine (s : Scanner) (entry : Entry) : Prop :=
  entry.token.kind = .endOfFile → entry.token = ⟨.endOfFile, ""⟩ ∧ s.unread = []

theorem Genuine.grown (h : Genuine s entry) (hgrown : Grown s t) : Genuine t entry := by
  intro hfile
  obtain ⟨htoken, hunread⟩ := h hfile
  obtain ⟨read, hread, -⟩ := hgrown.exists_read
  rw [hunread] at hread
  exact ⟨htoken, (List.append_eq_nil_iff.1 hread.symm).2⟩

/-- The scanner gives the end of the file behind all lines only. -/
theorem Scans.genuine (h : Scans s (.ok entry) t) : Genuine t entry := by
  generalize hresult : (.ok entry : Except ScanError Entry) = result at h
  induction h with
  | failed => cases hresult
  | @token s t token hnext _ =>
    obtain rfl := Except.ok.inj hresult
    have hover := (steady_grown s).next (.refl s)
    rw [hnext] at hover
    intro hfile
    obtain ⟨htoken, -, hunread⟩ := hover.ended token rfl hfile
    exact ⟨htoken, hunread⟩
  | lineBreak _ _ _ ih => exact ih hresult

theorem lasting_genuine (fresh : Scanner) : Lasting (Grown fresh) Genuine where
  steady := steady_grown fresh
  scanned _ hscans := hscans.genuine
  grown h hgrown := h.grown hgrown

/-- The cursor has read on in the source of the first scanner, and all lines of it have been read if
the end of the file is held anywhere. -/
def Truthful (fresh : Scanner) (c : Cursor) : Prop := Holds (Grown fresh) Genuine c

end Cursor

/-! ## Productions -/

namespace Parse

variable {α : Type} {m : Parse α} {fresh : Scanner} {p : Parser}

/-- Actions that are put together from operations on a parser, with failures caught anywhere, and
that inject no end of the file. -/
inductive Unforged : {α : Type} → Parse α → Prop
  | pure {α : Type} (a : α) : Unforged (pure a)
  | bind {α β : Type} {m : Parse α} {f : α → Parse β} : Unforged m → (∀ a, Unforged (f a)) →
      Unforged (m >>= f)
  | get : Unforged (get : Parse Parser)
  | setLines (first last : Option Int) :
      Unforged (modify fun p => { p with firstLine := first, lastLine := last })
  | throw {α : Type} (failure : Failure) : Unforged (throw failure : Parse α)
  | fail {α : Type} (failure : Failure) : Unforged (fail failure : Parse α)
  | outcome {α : Type} {m : Parse α} : Unforged m → Unforged (outcome m)
  | registry : Unforged registry
  | nextToken : Unforged nextToken
  | skipLine : Unforged skipLine
  | addTokens (tokens : List Token) : (∀ token ∈ tokens, token.kind ≠ .endOfFile) →
      Unforged (addTokens tokens)
  | prependToken (token : Token) : token.kind ≠ .endOfFile → Unforged (prependToken token)
  | startBackup (guarded : Bool) : Unforged (startBackup guarded)
  | discardBackup : Unforged discardBackup
  | recoverBackup : Unforged recoverBackup
  | attempt {α : Type} {m : Parse α} : Unforged m → Unforged (attempt m)

namespace Unforged

theorem composes : Composes True Unforged :=
  .of_fail .pure .bind .get .nextToken .registry .fail

/-- No call injects anything. -/
theorem call (call : Call) : Unforged call.run := composes.call call fun _ => trivial

end Unforged

theorem truthful_closeUnguarded (h : p.cursor.Truthful fresh) :
    p.closeUnguarded.cursor.Truthful fresh := by
  unfold Parser.closeUnguarded
  split
  · exact h
  · exact h.withBackup nofun

theorem genuine_of_kind_ne {s : Scanner} {entry : Entry} (h : entry.token.kind ≠ .endOfFile) :
    Cursor.Genuine s entry := fun hfile => absurd hfile h

theorem truthful_startBackup (guarded : Bool) :
    Keeps (fun p => p.cursor.Truthful fresh) (startBackup guarded) :=
  .startBackup fun _ _ hp hstart => hp.startBackup hstart

theorem truthful_discardBackup : Keeps (fun p => p.cursor.Truthful fresh) discardBackup :=
  .discardBackup fun _ _ hp hdiscard => hp.discardBackup hdiscard

theorem truthful_recoverBackup : Keeps (fun p => p.cursor.Truthful fresh) recoverBackup :=
  .recoverBackup fun _ _ _ hp hrecover => hp.recoverBackup (Cursor.lasting_genuine fresh) hrecover

/-- Whatever is done without injecting the end of the file, the cursor stays truthful. -/
theorem Unforged.keeps (hm : Unforged m) : Keeps (fun p => p.cursor.Truthful fresh) m := by
  induction hm with
  | pure a => exact .pure a
  | bind _ _ ihm ihf => exact ihm.bind ihf
  | get => exact fun _ hp => hp
  | setLines first last => exact fun _ hp => hp
  | throw failure => exact .throw failure
  | fail failure => exact fun _ hp => truthful_closeUnguarded hp
  | outcome _ ih => exact ih.outcome
  | registry => exact .registry fun _ hp => hp
  | nextToken =>
    exact .nextToken (fun _ hp => hp.advance (Cursor.lasting_genuine fresh))
      fun _ hp => truthful_closeUnguarded hp
  | skipLine => exact .skipLine fun _ hp => hp.skipLine (Cursor.lasting_genuine fresh)
  | addTokens tokens htokens =>
    intro p hp
    refine hp.inject fun entry hentry => ?_
    obtain ⟨token, hmem, rfl⟩ := List.mem_map.1 hentry
    exact genuine_of_kind_ne (htokens token hmem)
  | prependToken token htoken =>
    intro p hp
    refine hp.inject fun entry hentry => ?_
    rcases List.mem_cons.1 hentry with rfl | hmem
    · exact genuine_of_kind_ne htoken
    · exact hp.current entry (Option.mem_toList.1 hmem)
  | startBackup guarded => exact truthful_startBackup guarded
  | discardBackup => exact truthful_discardBackup
  | recoverBackup => exact truthful_recoverBackup
  | attempt _ ih =>
    exact ih.attempt (truthful_startBackup true) truthful_discardBackup truthful_recoverBackup

end Parse

/-- The parsers that such actions lead to, one after the other. A parser inside an attempt is one of
them. -/
inductive Parser.UnforgedFrom (start : Parser) : Parser → Prop
  | refl : UnforgedFrom start start
  | run {α : Type} {m : Parse α} {p : Parser} : UnforgedFrom start p → Parse.Unforged m →
      UnforgedFrom start (m.runOn p).2

namespace Parser

variable {input : Input} {name : String} {layout : Bool} {vocabulary : Vocabulary} {p : Parser}

theorem UnforgedFrom.truthful
    (h : UnforgedFrom (.ofScanner (input.scanner name layout) vocabulary) p) :
    p.cursor.Truthful (input.scanner name layout) := by
  induction h with
  | refl => exact .start (.refl _)
  | run _ hm ih => exact hm.keeps _ ih

/-- At the end of the file all lines are retained, and the context points at the last one of them
that is not blank. -/
theorem UnforgedFrom.atEnd (h : UnforgedFrom (.ofScanner (input.scanner name layout) vocabulary) p)
    {token : Token} (htoken : p.token? = some token) (hfile : token.kind = .endOfFile) :
    token = ⟨.endOfFile, ""⟩ ∧ Context.AtEnd name input.lines p.context := by
  obtain ⟨entry, hcurrent, rfl⟩ := Option.map_eq_some_iff.1 htoken
  have htruthful := h.truthful
  obtain ⟨hempty, hunread⟩ := htruthful.current entry hcurrent hfile
  refine ⟨hempty, ?_⟩
  obtain ⟨hsource, read, hread, hretained⟩ := htruthful.scanner
  rw [input.scanner_eq] at hsource hread hretained
  rw [hunread, List.append_nil] at hread
  have hlines : p.scanner.retained.toList = input.lines := by
    rw [Input.lines, show input.source = read from hread]
    exact hretained
  have hcontext := atEnd_endOfFileContext hlines
  rw [show p.sourceName = name from hsource] at hcontext
  have hend : p.token?.any Token.isEndOfFile = true := by
    rw [htoken, hempty]
    rfl
  rw [context, if_pos hend]
  exact hcontext

end Parser

/-- The token that has been read is current. -/
theorem Parse.token?_of_nextToken {p q : Parser} {token : Token}
    (h : nextToken.runOn p = (.ok token, q)) : q.token? = some token := by
  rw [runOn_nextToken] at h
  cases hadvance : p.cursor.advance with
  | mk result cursor =>
    rw [hadvance] at h
    cases result with
    | error e => cases (Prod.mk.inj h).1
    | ok entry =>
      obtain ⟨hentry, rfl⟩ := Prod.mk.inj h
      obtain rfl := Except.ok.inj hentry
      rw [Parser.token?, (Cursor.of_advance_entry hadvance).1]
      rfl

/-- Wherever the end of the file is current without having been injected, the context points at the
end of the last line of the whole source that is not blank. A reading that must not come to the end
of the file fails with this context, and a complaint points at the character before it, if there is
one. -/
theorem Parse.points_at_end {input : Input} {name : String} {layout : Bool}
    {vocabulary : Vocabulary} {p : Parser} (h : Parser.UnforgedFrom (.ofScanner (input.scanner name layout) vocabulary) p) :
    (∀ token, p.token? = some token → token.kind = .endOfFile →
      Context.AtEnd name input.lines p.context ∧
      ∀ {α : Type} (message : String) (expected : List String),
        (mismatch message expected : Parse α).runOn p
          = (.error (.mismatch
              { context := { p.context with column := max (p.context.column - 1) 0 }
                description := message }),
            p.closeUnguarded)) ∧
    ∀ token q, nextToken.runOn p = (.ok token, q) → token.kind = .endOfFile →
      Context.AtEnd name input.lines q.context ∧
      nextTokenNotEndOfFile.runOn p
        = (.error (.endOfFile { context := q.context, description := "Unexpected end of file" }),
          q.closeUnguarded) := by
  refine ⟨fun token htoken hfile => ?_, fun token q hnext hfile => ?_⟩
  · obtain ⟨rfl, hcontext⟩ := h.atEnd htoken hfile
    refine ⟨hcontext, fun {α} message expected => ?_⟩
    have hrun : (mismatch message expected : Parse α).runOn p
        = (.error (.mismatch (p.unexpected message expected)), p.closeUnguarded) := rfl
    -- the end of the file has no content, so there is no help for it
    have hcontent : p.content.isEmpty = true := by
      rw [Parser.content, htoken]
      rfl
    rw [hrun, Parser.unexpected, if_pos hcontent]
  · have hread : Parser.UnforgedFrom (.ofScanner (input.scanner name layout) vocabulary) q := by
      have hrun := h.run .nextToken
      rwa [hnext] at hrun
    have htoken : q.token? = some token := token?_of_nextToken hnext
    obtain ⟨rfl, hcontext⟩ := hread.atEnd htoken hfile
    refine ⟨hcontext, ?_⟩
    rw [runOn_nextTokenNotEndOfFile, hnext]
    rfl

/-- The end of the file is read once more behind an attempt that has come to it. Blank lines do not
count, and neither does the line whose string has a bad escape. -/
theorem Parse.points_at_end_replayed :
    let input : Input := .text "\"\\q\"\na\n \n\n"
    let start : Parser := .ofScanner (input.scanner "text" true) {}
    let production : Parse Token := do let _ ← nextToken; mismatch "no" []
    ∃ behind p q, (attempt production).runOn behind = (.ok none, p) ∧ start.UnforgedFrom p ∧
      p.cursor.queue ≠ [] ∧ nextToken.runOn p = (.ok ⟨.endOfFile, ""⟩, q) ∧
      q.context = ⟨"text", 2, 2, 1, ["a\n"]⟩ ∧ Context.AtEnd "text" input.lines q.context ∧
      nextTokenNotEndOfFile.runOn p
        = (.error (.endOfFile { context := q.context, description := "Unexpected end of file" }),
          q.closeUnguarded) := by
  intro input start production
  have hproduction : Unforged production := .bind .nextToken fun _ => .bind .get fun _ => .fail _
  have hfirst : start.UnforgedFrom (nextToken.runOn start).2 := .run .refl .nextToken
  have hp := ((hfirst.run .skipLine).run .nextToken).run (.attempt hproduction)
  obtain ⟨behind, hbehind⟩ : ∃ behind, behind
    = (nextToken.runOn (skipLine.runOn (nextToken.runOn start).2).2).2 := ⟨_, rfl⟩
  obtain ⟨p, hend⟩ : ∃ p, p = ((attempt production).runOn behind).2 := ⟨_, rfl⟩
  rw [← hbehind, ← hend] at hp
  have hattempt : ((attempt production).runOn behind).1 = .ok none := by
    rw [hbehind]
    decide +kernel
  have hqueue : p.cursor.queue ≠ [] := by
    rw [hend, hbehind]
    decide +kernel
  have hnext : (nextToken.runOn p).1 = .ok ⟨.endOfFile, ""⟩ := by
    rw [hend, hbehind]
    decide +kernel
  have hshown : (nextToken.runOn p).2.context = ⟨"text", 2, 2, 1, ["a\n"]⟩ := by
    rw [hend, hbehind]
    decide +kernel
  have hread : nextToken.runOn p = (.ok ⟨.endOfFile, ""⟩, (nextToken.runOn p).2) :=
    Prod.ext hnext rfl
  obtain ⟨hcontext, hfails⟩ := (points_at_end hp).2 _ _ hread rfl
  exact ⟨behind, p, _, Prod.ext hattempt hend.symm, hp, hqueue, hread, hshown, hcontext, hfails⟩

end ServiceSyntax
