import ServiceSyntax.Proofs.Scan.Order
import ServiceSyntax.Scan.Tokens

/-!
# Reading beyond errors

Reading a source to its end comes across tokens and errors, and behind each error the rest of its
line is dropped, which cannot fail (`lists_events`). What is come across later stands later in the
source, and behind an error in a later line (`Lists.precedes`).
-/

namespace ServiceSyntax

/-- Line and column of a token, ordered as a reader comes to them. -/
def Located.position (located : Located) : Nat ×ₗ Nat := toLex (located.line, located.column)

namespace Scanner

open Scan

variable {s t : Scanner} {events : List Event}

/-- A reading pass by pass. A pass gives a token, or an error behind which the rest of the line is
dropped; the last one gives the end of the file. -/
inductive Lists : Scanner → List Event → Prop
  | endOfFile {s t : Scanner} {token : Token} : s.next = (.ok token, t) →
      token.kind = .endOfFile → Lists s [.token (t.locate token)]
  | token {s t : Scanner} {token : Token} {events : List Event} : s.next = (.ok token, t) →
      token.kind ≠ .endOfFile → Lists t events → Lists s (.token (t.locate token) :: events)
  | problem {s t u : Scanner} {e : ScanError} {count : Nat} {events : List Event} :
      s.next = (.error e, t) → t.skipLine = (.ok count, u) → Lists u events →
      Lists s (.problem e :: .skipped count :: events)

/-- The end of the file is a token without content. -/
theorem eq_endOfFile {token : Token} (hnext : s.next = (.ok token, t))
    (hkind : token.kind = .endOfFile) : token = ⟨.endOfFile, ""⟩ := by
  have hover := (steady_grown s).next (.refl s)
  rw [hnext] at hover
  exact (hover.ended token rfl hkind).1

/-- A reading comes to its end, and no line fails to be dropped. -/
theorem lists_events (h : Counted s) : Lists s s.events := by
  fun_induction events s with
  | case1 s e t hnext count u hskip ih =>
    obtain ⟨n, -, -, hu, -⟩ := h.next_error hnext hskip
    exact .problem hnext hskip (ih hu)
  | case2 s e t hnext e' u hskip ih =>
    -- the rest of the line of an error can always be dropped
    obtain ⟨skipped, u', hskip'⟩ := h.exists_skipLine hnext
    obtain ⟨heq, -⟩ := Prod.mk.inj (hskip'.symm.trans hskip)
    cases heq
  | case3 s t hnext => exact .endOfFile hnext rfl
  | case4 s token t hnext hne ih =>
    have hkind : token.kind ≠ .endOfFile := fun hkind => hne (eq_endOfFile hnext hkind)
    exact .token hnext hkind (ih (h.next_token hnext).1)

/-- A reading is the listing of its scanner. -/
theorem Lists.events_eq (h : Lists s events) : s.events = events := by
  induction h with
  | endOfFile hnext hkind =>
    obtain rfl := eq_endOfFile hnext hkind
    rw [Scanner.events]
    split <;> simp_all
  | @token s t token events hnext hkind _ ih =>
    have hne : token ≠ ⟨.endOfFile, ""⟩ := by
      rintro rfl
      exact hkind rfl
    rw [Scanner.events]
    split <;> simp_all
  | problem hnext hskip _ ih =>
    rw [Scanner.events]
    split
    · split <;> simp_all
    · simp_all

/-! ## What is listed -/

/-- The tokens of a listing. -/
def Event.token? : Event → Option Located
  | .token located => some located
  | _ => none

/-- The end of the file is the last token of a reading and no other one. -/
theorem Lists.exists_endOfFile (h : Lists s events) :
    ∃ others last, events.filterMap Event.token? = others ++ [last] ∧
      last.token.kind = .endOfFile ∧ ∀ located ∈ others, located.token.kind ≠ .endOfFile := by
  induction h with
  | endOfFile hnext hkind => exact ⟨[], _, rfl, hkind, List.forall_mem_nil _⟩
  | @token s t token events hnext hkind _ ih =>
    obtain ⟨others, last, heq, hlast, hothers⟩ := ih
    refine ⟨t.locate token :: others, last, congrArg _ heq, hlast, ?_⟩
    exact List.forall_mem_cons.2 ⟨hkind, hothers⟩
  | problem _ _ _ ih => exact ih

/-- At the end of the source there is nothing else to list. -/
theorem Lists.of_over (h : Lists s events) (hrest : s.rest = []) (hunread : s.unread = []) :
    ∃ last : Located, events = [.token last] ∧ last.token.kind = .endOfFile := by
  have hnext : s.next = ({ s with metNewline := false } : Scanner).finish .start "" := by
    rw [next_eq_resume]
    exact resume_over (s := { s with metNewline := false }) hrest hunread .start ""
  cases h with
  | endOfFile _ hkind => exact ⟨_, rfl, hkind⟩
  | token hnext' hkind _ =>
    obtain ⟨heq, -⟩ := Prod.mk.inj (hnext.symm.trans hnext')
    exact absurd (congrArg Token.kind (Except.ok.inj heq)).symm hkind
  | problem hnext' _ _ =>
    obtain ⟨heq, -⟩ := Prod.mk.inj (hnext.symm.trans hnext')
    cases heq

/-! ## In which order -/

/-- The event stands at the place or behind it, an error at least not in an earlier line. -/
def Event.Behind (p : Nat ×ₗ Nat) : Event → Prop
  | .token located => p ≤ located.position
  | .problem e => ((ofLex p).1 : Int) ≤ e.context.startLine
  | .skipped _ => True

/-- The first event stands in front of the second one: tokens stand in order, errors in lines of
their own, and behind an error only the end of the file may stand in the same line. -/
def Event.Precedes : Event → Event → Prop
  | .token a, .token b => a.position ≤ b.position
  | .problem e, .token b => b.token.kind ≠ .endOfFile → e.context.startLine < b.line
  | .problem e, .problem e' => e.context.startLine < e'.context.startLine
  | _, _ => True

/-- A reading goes on behind the place of the scanner. -/
theorem Lists.behind (h : Lists s events) (hs : Counted s) {p : Nat ×ₗ Nat} (hp : p ≤ s.place) :
    ∀ event ∈ events, event.Behind p := by
  induction h with
  | endOfFile hnext hkind =>
    obtain ⟨-, hmark, -⟩ := hs.next_token hnext
    exact List.forall_mem_singleton.2 (hp.trans hmark)
  | token hnext hkind _ ih =>
    obtain ⟨ht, hmark, hplace⟩ := hs.next_token hnext
    have hbehind := hp.trans hmark
    exact List.forall_mem_cons.2 ⟨hbehind, ih ht (hbehind.trans hplace)⟩
  | @problem s t u e count events hnext hskip _ ih =>
    obtain ⟨n, hline, hle, hu, hplace, -⟩ := hs.next_error hnext hskip
    -- of the place of an error only its line is kept
    have hbehind : ((ofLex p).1 : Int) ≤ e.context.startLine := by
      have hfst : (ofLex p).1 ≤ s.line := Prod.Lex.monotone_fst _ _ hp
      omega
    exact List.forall_mem_cons.2
      ⟨hbehind, List.forall_mem_cons.2 ⟨trivial, ih hu (hp.trans hplace)⟩⟩

/-- Every event of a reading stands in front of those that come later. -/
theorem Lists.precedes (h : Lists s events) (hs : Counted s) :
    events.Pairwise Event.Precedes := by
  induction h with
  | endOfFile _ _ => exact List.pairwise_singleton _ _
  | token hnext hkind hlists ih =>
    obtain ⟨ht, hmark, hplace⟩ := hs.next_token hnext
    refine List.pairwise_cons.2 ⟨fun event hevent => ?_, ih ht⟩
    -- what comes later stands behind the scanner, which stands behind the token
    have hbehind := hlists.behind ht hplace event hevent
    cases event with
    | token located => exact hbehind
    | problem e => trivial
    | skipped count => trivial
  | @problem s t u e count events hnext hskip hlists ih =>
    obtain ⟨n, hline, -, hu, -, hlater⟩ := hs.next_error hnext hskip
    have htail : (.skipped count :: events).Pairwise Event.Precedes :=
      List.pairwise_cons.2 ⟨fun event _ => by cases event <;> trivial, ih hu⟩
    refine List.pairwise_cons.2 ⟨List.forall_mem_cons.2 ⟨trivial, ?_⟩, htail⟩
    intro event hevent
    rcases hlater with ⟨hrest, hunread⟩ | hlater
    · -- the line was the last one, so only the end of the file is left
      obtain ⟨last, rfl, hlast⟩ := hlists.of_over hrest hunread
      obtain rfl := List.mem_singleton.1 hevent
      exact absurd hlast
    · have hbehind := hlists.behind hu hlater event hevent
      cases event with
      | token located =>
        intro _
        have hle : n + 1 ≤ located.line := Prod.Lex.monotone_fst _ _ hbehind
        omega
      | problem e' =>
        show e.context.startLine < e'.context.startLine
        have hle : ((n + 1 : Nat) : Int) ≤ e'.context.startLine := hbehind
        omega
      | skipped count => trivial

end Scanner

end ServiceSyntax
