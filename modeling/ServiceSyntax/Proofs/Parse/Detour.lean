import ServiceSyntax.Proofs.Parse.Follow
import ServiceSyntax.Proofs.Parse.Replay

/-!
# Detours

A detour opens a backup, reads on and goes back. Behind it the tokens that have been read are queued
and the scanner stands further on, which no call shows (`detours_invisible`).
-/

namespace ServiceSyntax

open Scanner

namespace Parse

variable {p q opened o o' : Parser} {first : Entry} {passed : List Entry} {token : Token}

/-- Reads some tokens. -/
def readOn : Nat → Parse Unit
  | 0 => pure ()
  | k + 1 => do
    let _ ← nextToken
    readOn k

/-! ## One detour -/

/-- A parser on a detour: its backup holds the entry at which it began and those behind it, and they
are the next ones of the first parser. -/
structure Strays (p : Parser) (first : Entry) (passed : List Entry) (o : Parser) : Prop where
  eq : o = { p with cursor := o.cursor }
  recorded : o.cursor.Recorded false (first :: passed)
  feeds : Feeds p.cursor.scanner (passed ++ o.cursor.queue) o.cursor.scanner

/-- Opening the backup begins a detour. -/
theorem strays_startBackup (h : Ahead p q) (hcurrent : p.cursor.current = some first) :
    ∃ o, (startBackup).runOn q = (.ok (), o) ∧ Strays p first [] o := by
  have hcurrent' : q.cursor.current = some first := by
    rw [h.eq]
    exact hcurrent
  have hproper : q.cursor.Proper := by
    intro entry hentry
    obtain rfl : first = entry := by simpa [hcurrent'] using hentry
    exact (h.shows first hcurrent).kind_ne
  obtain ⟨cursor, hopen, hrecorded⟩ :=
    Cursor.startBackup_recorded h.backup_eq' hcurrent' hproper false
  refine ⟨{ q with cursor }, ?_, ?_, hrecorded, ?_⟩
  · rw [runOn_startBackup, hopen]
  · rw [h.eq]
  · rw [Cursor.startBackup, h.backup_eq'] at hopen
    obtain rfl := Except.ok.inj hopen
    exact h.feeds

/-- A token that is read is the next one, and the backup records it. -/
theorem Strays.nextToken (h : Strays p first passed o) (hlined : Lined p.cursor.scanner)
    (hrun : nextToken.runOn o = (.ok token, o')) :
    ∃ entry, Strays p first (passed ++ [entry]) o' := by
  obtain ⟨-, hlined', hproper⟩ := h.feeds.scanned hlined
  have hqueued : ∀ entry ∈ o.cursor.queue, entry.token.kind ≠ .newline :=
    fun entry hentry => hproper entry (List.mem_append_right passed hentry)
  have hkind : ∀ token, o.cursor.scanner.next.1 = .ok token → token.kind ≠ .newline :=
    fun token htoken => ((next_scanned hlined').complete token htoken).kind_ne
  rw [runOn_nextToken] at hrun
  cases hadvance : o.cursor.advance with
  | mk result cursor =>
    rw [hadvance] at hrun
    cases result with
    | error e => cases (Prod.mk.inj hrun).1
    | ok entry =>
      obtain ⟨-, rfl⟩ := Prod.mk.inj hrun
      have heq : ({ o with cursor } : Parser) = { p with cursor } := by rw [h.eq]
      have hrecorded := h.recorded.advance.1 _ _ hadvance
      have hfeeds := h.feeds
      refine ⟨entry, heq, hrecorded, ?_⟩
      rcases Cursor.of_advance_ok hqueued hkind hadvance with
        ⟨others, hqueue, rfl⟩ | ⟨token', t, hqueue, hnext, rfl, rfl⟩
      · rw [hqueue, List.append_cons] at hfeeds
        exact hfeeds
      · show Feeds p.cursor.scanner (passed ++ [Cursor.scanned t token'] ++ o.cursor.queue) t
        rw [hqueue, List.append_nil] at hfeeds ⊢
        exact hfeeds.concat hnext

/-- Reading on goes on with the detour. -/
theorem Strays.readOn (h : Strays p first passed o) (hlined : Lined p.cursor.scanner) (k : Nat)
    (hrun : (readOn k).runOn o = (.ok (), o')) : ∃ others, Strays p first others o' := by
  induction k generalizing passed o with
  | zero =>
    obtain ⟨-, rfl⟩ := Prod.mk.inj hrun
    exact ⟨passed, h⟩
  | succ k ih =>
    rw [Parse.readOn, runOn_bind] at hrun
    cases hnext : Parse.nextToken.runOn o with
    | mk result next =>
      rw [hnext] at hrun
      cases result with
      | error failure => cases (Prod.mk.inj hrun).1
      | ok token =>
        obtain ⟨entry, hstrays⟩ := h.nextToken hlined hnext
        exact ih hstrays hrun

/-- Going back ends a detour where it began. -/
theorem Strays.recoverBackup (h : Strays p first passed o) (hplain : Ahead p q)
    (hcurrent : p.cursor.current = some first) (hmet : p.cursor.metNewline = first.metNewline) :
    ∃ back, recoverBackup.runOn o = (.ok (), back) ∧ Ahead p back := by
  refine ⟨{ o with cursor := o.cursor.rewound first passed }, ?_, ?_⟩
  · rw [runOn_recoverBackup, Cursor.recoverBackup_recorded h.recorded]
  · have hcursor : o.cursor.rewound first passed
        = { p.cursor with
            queue := passed ++ o.cursor.queue, scanner := o.cursor.scanner } := by
      simp only [Cursor.rewound, hcurrent, hmet, hplain.backup_eq]
    refine ⟨?_, h.feeds, hplain.queue_eq, hplain.backup_eq, hplain.lines_eq, hplain.lined,
      hplain.shows, ?_⟩
    · rw [h.eq]
      exact congrArg (fun cursor => { p with cursor }) hcursor
    · intro hnone
      rw [hcurrent] at hnone
      cases hnone

/-- Behind a detour the parser is ahead of the one that has not made it. -/
theorem ahead_of_detour (h : Ahead p q) (hsettled : p.Settled) (k : Nat)
    (hrun : (do startBackup; readOn k : Parse Unit).runOn q = (.ok (), opened)) :
    ∃ back, recoverBackup.runOn opened = (.ok (), back) ∧ Ahead p back := by
  obtain ⟨first, hcurrent, hmet⟩ := hsettled
  obtain ⟨o, hstart, hstrays⟩ := strays_startBackup h hcurrent
  rw [runOn_bind_ok hstart] at hrun
  obtain ⟨passed, hopened⟩ := hstrays.readOn h.lined k hrun
  exact hopened.recoverBackup h hcurrent hmet

end Parse

/-! ## Runs -/

/-- What successive calls give, failures included. -/
def Call.runs (p : Parser) : List Call → List (Except Failure Answer)
  | [] => []
  | call :: calls => (call.run.runOn p).1 :: Call.runs (call.run.runOn p).2 calls

/-- What successive calls give with detours between them. A detour may be made wherever the last
reading of a token has succeeded: it opens a backup, reads any number of tokens and goes back. -/
inductive Interleaved : Bool → Parser → List Call → List (Except Failure Answer) → Prop
  | done {settled : Bool} {p : Parser} : Interleaved settled p [] []
  | call {settled : Bool} {p next : Parser} {call : Call} {calls : List Call}
      {result : Except Failure Answer} {results : List (Except Failure Answer)} :
      call.run.runOn p = (result, next) →
      Interleaved (call.settles settled result) next calls results →
      Interleaved settled p (call :: calls) (result :: results)
  | detour {p opened back : Parser} {closing : Except Failure Unit} {k : Nat} {calls : List Call}
      {results : List (Except Failure Answer)} :
      (do Parse.startBackup; Parse.readOn k : Parse Unit).runOn p = (.ok (), opened) →
      Parse.recoverBackup.runOn opened = (closing, back) →
      Interleaved true back calls results → Interleaved true p calls results

/-- Detours do not show. -/
theorem Interleaved.eq_runs {settled : Bool} {p q : Parser} {calls : List Call}
    {results : List (Except Failure Answer)} (hrun : Interleaved settled q calls results)
    (h : Ahead p q) (hsettled : settled = true → p.Settled) : results = Call.runs p calls := by
  induction hrun generalizing p with
  | done => rfl
  | @call settled q next call calls result results hcall _ ih =>
    obtain ⟨hresult, hahead, hlands⟩ := Parse.follows_call call h
    cases hrun : call.run.runOn p with
    | mk result' next' =>
      rw [hcall, hrun] at hresult hahead
      rw [hrun] at hlands
      obtain rfl : result = result' := hresult
      have hrest := ih hahead (hlands.settled hsettled)
      rw [Call.runs, hrun, hrest]
  | @detour q opened back closing k calls results hopened hback _ ih =>
    obtain ⟨back', hback', hahead⟩ := Parse.ahead_of_detour h (hsettled rfl) k hopened
    rw [hback] at hback'
    obtain ⟨-, rfl⟩ := Prod.mk.inj hback'
    exact ih hahead hsettled

/-- A parser in front of the first token has read nothing ahead. -/
theorem ahead_ofScanner {scanner : Scanner} (hlined : Lined scanner) (vocabulary : Vocabulary) :
    Ahead (.ofScanner scanner vocabulary) (.ofScanner scanner vocabulary) where
  eq := rfl
  feeds := .nil scanner
  queue_eq := rfl
  backup_eq := rfl
  lines_eq := ⟨rfl, rfl⟩
  lined := hlined
  shows _ hentry := by cases hentry
  fresh _ := rfl

/-- Whatever is looked up ahead, any number of times and as far as one likes, changes nothing that
the other calls give: the same tokens, line breaks and contexts, and the same messages of the same
failures, for every text and every sequence of bytes outside layout mode. -/
theorem detours_invisible (source : String) (vocabulary : Vocabulary) (calls : List Call)
    (results : List (Except Failure Answer)) :
    (∀ text, Interleaved false (.ofScanner (.ofText text source) vocabulary) calls results →
      results = Call.runs (.ofScanner (.ofText text source) vocabulary) calls) ∧
    ∀ bytes, Interleaved false (.ofScanner (.ofBytes bytes source) vocabulary) calls results →
      results = Call.runs (.ofScanner (.ofBytes bytes source) vocabulary) calls := by
  refine ⟨fun text hrun => ?_, fun bytes hrun => ?_⟩
  · exact hrun.eq_runs (ahead_ofScanner (lined_ofText text source) vocabulary) nofun
  · exact hrun.eq_runs (ahead_ofScanner (lined_ofBytes bytes source) vocabulary) nofun

/-- Behind the first of two lines the second one is looked up, which reads it and queues its token.
The context of the first token is what it would have been. -/
theorem detours_invisible_second_line :
    ∃ p opened back : Parser, ∃ results,
      Call.nextToken.run.runOn (.ofScanner (.ofText "a\nb" "text") {})
        = (.ok (.token ⟨.identifier, "a"⟩), p) ∧
      (do Parse.startBackup; Parse.readOn 1 : Parse Unit).runOn p = (.ok (), opened) ∧
      Parse.recoverBackup.runOn opened = (.ok (), back) ∧
      back.pendingTokens = [⟨.identifier, "b"⟩] ∧
      Interleaved false (.ofScanner (.ofText "a\nb" "text") {}) [.nextToken, .context] results ∧
      results = Call.runs (.ofScanner (.ofText "a\nb" "text") {}) [.nextToken, .context] := by
  let text : Scanner := .ofText "a\nb" "text"
  let a : Entry := ⟨⟨.identifier, "a"⟩, 1, 0, false⟩
  let b : Entry := ⟨⟨.identifier, "b"⟩, 2, 0, true⟩
  let p : Parser := { cursor := { scanner := text.next.2, current := some a }, vocabulary := {} }
  let start : Parser :=
    { p with cursor := { p.cursor with backup := some ⟨#[a], false⟩ } }
  let opened : Parser :=
    { p with
      cursor :=
        { scanner := text.next.2.next.2, current := some b, metNewline := true
          backup := some ⟨#[a, b], false⟩ } }
  have ha : Parse.nextToken.runOn (.ofScanner text {}) = (.ok a.token, p) := by
    rw [Parse.runOn_nextToken, Cursor.advance_of_token (t := ⟨.identifier, "a"⟩)
      (s := text.next.2) rfl rfl (by decide)]
    rfl
  have hb : Parse.nextToken.runOn start = (.ok b.token, opened) := by
    rw [Parse.runOn_nextToken, Cursor.advance_of_token (t := ⟨.identifier, "b"⟩)
      (s := text.next.2.next.2) rfl rfl (by decide)]
    rfl
  have hfirst : Call.nextToken.run.runOn (.ofScanner text {}) = (.ok (.token a.token), p) :=
    Parse.runOn_bind_ok ha
  have hopened : (do Parse.startBackup; Parse.readOn 1 : Parse Unit).runOn p = (.ok (), opened) :=
    Parse.runOn_bind_ok hb
  have hrun : Interleaved false (.ofScanner text {}) [.nextToken, .context] _ :=
    .call hfirst (.detour hopened rfl (.call rfl .done))
  exact ⟨p, opened, _, _, hfirst, hopened, rfl, rfl, hrun,
    (detours_invisible "text" {} _ _).1 "a\nb" hrun⟩

end ServiceSyntax
