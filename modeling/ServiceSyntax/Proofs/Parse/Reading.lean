import ServiceSyntax.Proofs.Parse.Attempt

/-!
# Attempts that only read

A production that only reads leaves the parser where so many calls for the next token would have
left it, with what has become current recorded (`ReadOn`). A failed attempt gives these tokens back
(`attempt_gives_back`). In front of the first token, where there is nothing to go back to, the first
one of them becomes current, and later calls do not give it again (`attempt_gives_back_first`).
-/

namespace ServiceSyntax

namespace Cursor

variable {c : Cursor}

theorem advances_succ (c : Cursor) (n : Nat) :
    c.advances (n + 1) = ((c.advances n).1 ++ [(c.advances n).2.advance.1],
      (c.advances n).2.advance.2) := by
  induction n generalizing c with
  | zero => rfl
  | succ n ih =>
    rw [advances, ih c.advance.2]
    rfl

theorem length_advances (c : Cursor) (n : Nat) : (c.advances n).1.length = n := by
  induction n generalizing c with
  | zero => rfl
  | succ n ih => exact congrArg Nat.succ (ih c.advance.2)

theorem advances_add (c : Cursor) (n k : Nat) :
    (c.advances (n + k)).1 = (c.advances n).1 ++ ((c.advances n).2.advances k).1 := by
  induction n generalizing c with
  | zero =>
    rw [Nat.zero_add]
    rfl
  | succ n ih =>
    rw [Nat.add_right_comm]
    exact congrArg (c.advance.1 :: ·) (ih c.advance.2)

/-- The entries that calls have given, with the errors left out. -/
def given (results : List (Except ScanError Entry)) : List Entry :=
  results.filterMap Except.toOption

theorem given_concat (results : List (Except ScanError Entry)) (result : Except ScanError Entry) :
    given (results ++ [result]) = given results ++ result.toOption.toList := by
  rw [given, List.filterMap_append]
  cases result <;> rfl

/-- Without an error every call has given an entry. -/
theorem map_given {results : List (Except ScanError Entry)} (h : ∀ e, .error e ∉ results) :
    (given results).map .ok = results := by
  induction results with
  | nil => rfl
  | cons result results ih =>
    have hrest := ih fun e he => h e (List.mem_cons_of_mem _ he)
    cases result with
    | error e => exact absurd List.mem_cons_self (h e)
    | ok entry => exact congrArg (.ok entry :: ·) hrest

/-- The cursor gives these entries, and then what the other one gives. -/
def Gives (c : Cursor) (entries : List Entry) (c' : Cursor) : Prop :=
  ∀ k, (c.advances (entries.length + k)).1 = entries.map .ok ++ (c'.advances k).1

/-- Where the entries are all that a cursor has been given, both give the same call by call. -/
theorem Gives.eq_of_all {c' : Cursor} {n : Nat}
    (h : Gives c' (given (c.advances n).1) (c.advances n).2)
    (hall : ∀ e, .error e ∉ (c.advances n).1) (k : Nat) : (c'.advances k).1 = (c.advances k).1 := by
  have hmap := map_given hall
  have hlength : (given (c.advances n).1).length = n := by
    rw [← List.length_map (f := (.ok : Entry → Except ScanError Entry)), hmap, length_advances]
  have hlong : (c'.advances (k + n)).1 = (c.advances (k + n)).1 := by
    have hk := h k
    rwa [hlength, hmap, ← advances_add, Nat.add_comm] at hk
  rw [advances_add, advances_add] at hlong
  exact (List.append_inj hlong (by rw [length_advances, length_advances])).1

end Cursor

namespace Parse

open Cursor

variable {α : Type} {m : Parse α} {p q r : Parser} {c : Cursor} {n : Nat}

/-- Actions that only read: they move to the next token, look at the parser, ask for the registry,
fail for any reason and catch failures. -/
inductive ReadsOnly : {α : Type} → Parse α → Prop
  | pure {α : Type} (a : α) : ReadsOnly (pure a)
  | bind {α β : Type} {m : Parse α} {f : α → Parse β} : ReadsOnly m → (∀ a, ReadsOnly (f a)) →
      ReadsOnly (m >>= f)
  | get : ReadsOnly (get : Parse Parser)
  | throw {α : Type} (failure : Failure) : ReadsOnly (throw failure : Parse α)
  | fail {α : Type} (failure : Failure) : ReadsOnly (fail failure : Parse α)
  | outcome {α : Type} {m : Parse α} : ReadsOnly m → ReadsOnly (outcome m)
  | registry : ReadsOnly registry
  | nextToken : ReadsOnly nextToken

namespace ReadsOnly

theorem composes : Composes True ReadsOnly :=
  .of_fail .pure .bind .get .nextToken .registry .fail

/-- Every call only reads. -/
theorem call (call : Call) : ReadsOnly call.run := composes.call call fun _ => trivial

theorem keeps {inv : Parser → Prop} (h : ReadsOnly m) (hnext : Keeps inv Parse.nextToken)
    (hclose : ∀ p, inv p → inv p.closeUnguarded)
    (hask : ∀ p, inv p → inv { p with vocabulary := p.vocabulary.ask.2 }) : Keeps inv m := by
  induction h with
  | pure a => exact .pure a
  | bind _ _ ihm ihf => exact ihm.bind ihf
  | get => exact fun _ hp => hp
  | throw failure => exact .throw failure
  | fail failure => exact fun p hp => hclose p hp
  | outcome _ ih => exact ih.outcome
  | registry => exact .registry hask
  | nextToken => exact hnext

end ReadsOnly

/-! ## Reading under a backup -/

/-- The parser has read on from a cursor under the backup of an attempt, which has recorded the
entries that have become current. -/
structure ReadOn (c : Cursor) (n : Nat) (r : Parser) : Prop where
  agree : Agree r.cursor (c.advances n).2
  recorded : r.cursor.Recorded true (c.current.toList ++ given (c.advances n).1)

theorem ReadOn.nextToken (h : ReadOn c n r) : ReadOn c (n + 1) (nextToken.runOn r).2 := by
  obtain ⟨hresult, hagree⟩ := h.agree.advance
  have hrecorded := h.recorded.advance
  rw [runOn_nextToken]
  cases hadvance : r.cursor.advance with
  | mk result cursor =>
    rw [hadvance] at hresult hagree
    cases result with
    | ok entry =>
      refine ⟨?_, ?_⟩
      · rw [advances_succ]
        exact hagree
      · rw [advances_succ, given_concat, ← hresult, ← List.append_assoc]
        exact hrecorded.1 entry cursor hadvance
    | error e =>
      have hguarded := hrecorded.2 e cursor hadvance
      -- the backup is that of an attempt, so the error does not close it
      have hopen : ({ r with cursor } : Parser).closeUnguarded = { r with cursor } := by
        rw [Parser.closeUnguarded, if_pos (by simp [isGuarded, hguarded.backup_eq])]
      dsimp only
      rw [hopen]
      refine ⟨?_, ?_⟩
      · rw [advances_succ]
        exact hagree
      · rw [advances_succ, given_concat, ← hresult]
        exact (List.append_nil (given _)).symm ▸ hguarded

/-- A production that only reads comes as far as so many calls for the next token. -/
theorem ReadsOnly.readOn (h : ReadsOnly m) (hproper : p.cursor.Proper) :
    ∃ n, ReadOn p.cursor n (m.runOn p.guarded).2 := by
  have hopened : ReadOn p.cursor 0 p.guarded :=
    ⟨⟨rfl, rfl, rfl⟩, (List.append_nil p.cursor.current.toList).symm ▸ recorded_guarded hproper⟩
  have hkeeps : Keeps (fun r => ∃ n, ReadOn p.cursor n r) m := by
    refine h.keeps (fun r ⟨n, hr⟩ => ⟨n + 1, hr.nextToken⟩) ?_
      fun r ⟨n, hr⟩ => ⟨n, hr.agree, hr.recorded⟩
    rintro r ⟨n, hr⟩
    rw [Parser.closeUnguarded, if_pos (by simp [isGuarded, hr.recorded.backup_eq])]
    exact ⟨n, hr⟩
  exact hkeeps p.guarded ⟨0, hopened⟩

/-! ## Giving back -/

/-- Going back makes the first entry recorded current, and the other ones are read once more. -/
theorem ReadOn.recoverBackup (h : ReadOn c n r) :
    ∃ back, recoverBackup.runOn r = (.ok (), { r with cursor := back }) ∧
      back.current = (c.current.toList ++ given (c.advances n).1).head? ∧
      Gives back (c.current.toList ++ given (c.advances n).1).tail (c.advances n).2 := by
  have hrecorded := h.recorded
  rw [runOn_recoverBackup]
  cases hentries : c.current.toList ++ given (c.advances n).1 with
  | nil =>
    -- nothing was current and nothing has been read
    rw [hentries] at hrecorded
    refine ⟨{ r.cursor with backup := none }, ?_, hrecorded.current_eq, fun k => ?_⟩
    · rw [Cursor.recoverBackup, hrecorded.backup_eq]
      rfl
    · have hagree : Agree { r.cursor with backup := none } (c.advances n).2 :=
        ⟨h.agree.scanner_eq, h.agree.queue_eq, h.agree.current_eq⟩
      show (Cursor.advances _ (0 + k)).1 = _
      rw [Nat.zero_add]
      exact (hagree.advances k).1
  | cons first passed =>
    rw [hentries] at hrecorded
    have hcurrent : passed.getLast?.or (some first) = (c.advances n).2.current := by
      rw [← h.agree.current_eq, hrecorded.current_eq, List.getLast?_cons]
      cases passed.getLast? <;> rfl
    have hpassed := (List.forall_mem_cons.1 hrecorded.proper).2
    refine ⟨r.cursor.rewound first passed, ?_, rfl, fun k => ?_⟩
    · rw [Cursor.recoverBackup_recorded hrecorded]
    · exact (advances_of_queue (r.cursor.rewound first passed) _ hpassed h.agree.scanner_eq
        (congrArg (passed ++ ·) h.agree.queue_eq) hcurrent k).1

/-- A failed attempt whose production only reads gives back what has been read. Where there was a
current token it is current again, and later calls give every token that the production has been
given and then what is left behind them; unless an error was met, that is call by call what they
would have given without the attempt. In front of the first token the first one that the production
has been given becomes current, and later calls give the other ones only. -/
theorem attempt_gives_back {production : Parse α} (hreachable : p.Reachable)
    (hbackup : p.cursor.backup = none) (hreads : ReadsOnly production)
    (hrun : (attempt production).runOn p = (.ok none, q)) :
    ∃ n, (∀ entry, p.cursor.current = some entry → q.cursor.current = some entry ∧
        Gives q.cursor (given (p.cursor.advances n).1) (p.cursor.advances n).2 ∧
        ((∀ e, .error e ∉ (p.cursor.advances n).1) →
          ∀ k, (q.cursor.advances k).1 = (p.cursor.advances k).1)) ∧
      (p.cursor.current = none → q.cursor.current = (given (p.cursor.advances n).1).head? ∧
        Gives q.cursor (given (p.cursor.advances n).1).tail (p.cursor.advances n).2) := by
  obtain ⟨n, hread⟩ := hreads.readOn hreachable.cursor.proper
  obtain ⟨back, hrecover, hcurrent, hgives⟩ := hread.recoverBackup
  obtain ⟨failure, r, hproduction, -, hrecovered⟩ := exists_of_attempt_none hbackup hrun
  have hq : q.cursor = back := by
    rw [hproduction, hrecovered] at hrecover
    exact congrArg Parser.cursor (Prod.mk.inj hrecover).2
  rw [← hq] at hcurrent hgives
  refine ⟨n, fun entry hentry => ?_, fun hnone => ?_⟩
  · rw [hentry] at hcurrent hgives
    refine ⟨hcurrent, hgives, fun hall k => ?_⟩
    exact hgives.eq_of_all hall k
  · rw [hnone] at hcurrent hgives
    exact ⟨hcurrent, hgives⟩

/-- A production reads the second token of a text and fails behind it: the first one is current
again and the second one is given again. -/
theorem attempt_gives_back_second :
    ∃ (production : Parse Token) (p q : Parser), p.Reachable ∧ p.cursor.backup = none ∧
      p.token? = some ⟨.identifier, "a"⟩ ∧ ReadsOnly production ∧
      (attempt production).runOn p = (.ok none, q) ∧ q.token? = some ⟨.identifier, "a"⟩ ∧
      ∃ n, Gives q.cursor (given (p.cursor.advances n).1) (p.cursor.advances n).2 := by
  let text : Scanner := .ofText "a b" "text"
  let a : Entry := ⟨⟨.identifier, "a"⟩, 1, 0, false⟩
  let b : Entry := ⟨⟨.identifier, "b"⟩, 1, 2, false⟩
  let production : Parse Token := do let _ ← nextToken; mismatch "no"
  let p : Parser := { cursor := { scanner := text.next.2, current := some a }, vocabulary := {} }
  let r : Parser :=
    { cursor :=
        { scanner := text.next.2.next.2, current := some b, backup := some ⟨#[a, b], true⟩ }
      vocabulary := {} }
  let q : Parser := { p with cursor := r.cursor.rewound a [b] }
  have ha : nextToken.runOn (.ofScanner text {}) = (.ok a.token, p) :=
    runOn_nextToken_of_token (t := a.token) (s := text.next.2) rfl rfl (by decide)
  have hb : nextToken.runOn p.guarded = (.ok b.token, r) :=
    runOn_nextToken_of_token (t := b.token) (s := text.next.2.next.2) rfl rfl (by decide)
  have hreachable : p.Reachable := by
    have hrun := Parser.Reachable.run (.start text {}) (.nextToken)
    rwa [ha] at hrun
  have hreads : ReadsOnly production := .bind .nextToken fun _ => ReadsOnly.composes.mismatch _ _
  have hproduction : production.runOn p.guarded = (.error (.mismatch (r.unexpected "no" [])), r) :=
    runOn_bind_ok hb
  have hrun : (attempt production).runOn p = (.ok none, q) := by
    rw [runOn_attempt production rfl, hproduction]
    rfl
  obtain ⟨n, hback, -⟩ := attempt_gives_back hreachable rfl hreads hrun
  obtain ⟨hcurrent, hgives, -⟩ := hback a rfl
  exact ⟨production, p, q, hreachable, rfl, rfl, hreads, hrun,
    congrArg (Option.map Entry.token) hcurrent, n, hgives⟩

/-- The same production in front of the first token reads that and fails behind it. The token is
current then, where none was, and the next call gives the one behind it. -/
theorem attempt_gives_back_first :
    ∃ (production : Parse Token) (p q : Parser), p.Reachable ∧ p.cursor.backup = none ∧
      ReadsOnly production ∧ (attempt production).runOn p = (.ok none, q) ∧
      p.token? = none ∧ q.token? = some ⟨.identifier, "a"⟩ ∧
      (nextToken.runOn p).1 = .ok ⟨.identifier, "a"⟩ ∧
      (nextToken.runOn q).1 = .ok ⟨.identifier, "b"⟩ := by
  let text : Scanner := .ofText "a b" "text"
  let a : Entry := ⟨⟨.identifier, "a"⟩, 1, 0, false⟩
  let production : Parse Token := do let _ ← nextToken; mismatch "no"
  let p : Parser := .ofScanner text {}
  let q : Parser := { cursor := { scanner := text.next.2, current := some a }, vocabulary := {} }
  let r : Parser := { q with cursor := { q.cursor with backup := some ⟨#[a], true⟩ } }
  have ha : nextToken.runOn p = (.ok a.token, q) :=
    runOn_nextToken_of_token (t := a.token) (s := text.next.2) rfl rfl (by decide)
  have hguarded : nextToken.runOn p.guarded = (.ok a.token, r) :=
    runOn_nextToken_of_token (t := a.token) (s := text.next.2) rfl rfl (by decide)
  have hb := runOn_nextToken_of_token (p := q) (t := ⟨.identifier, "b"⟩) (s := text.next.2.next.2)
    rfl rfl (by decide)
  have hreads : ReadsOnly production := .bind .nextToken fun _ => ReadsOnly.composes.mismatch _ _
  have hproduction : production.runOn p.guarded = (.error (.mismatch (r.unexpected "no" [])), r) :=
    runOn_bind_ok hguarded
  have hrun : (attempt production).runOn p = (.ok none, q) := by
    rw [runOn_attempt production rfl, hproduction]
    rfl
  exact ⟨production, p, q, .start text {}, rfl, hreads, hrun, rfl, rfl, congrArg Prod.fst ha,
    congrArg Prod.fst hb⟩

end Parse

end ServiceSyntax
