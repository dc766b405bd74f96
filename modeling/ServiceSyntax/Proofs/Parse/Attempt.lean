import ServiceSyntax.Proofs.Parse.Production

/-!
# Attempts

An attempt opens a backup, runs its production and closes the backup again, so none is open behind
it, whatever the production has done (`closed_attempt`). A production that leaves the backup to the
attempt cannot lose it: the backup holds the entry that was current and those that became current
since (`Held`), and then closing it succeeds (`attempt_closes`).
-/

namespace ServiceSyntax

/-- The parser under the backup of an attempt. -/
def Parser.guarded (p : Parser) : Parser :=
  { p with cursor := { p.cursor with backup := some ⟨p.cursor.current.toArray, true⟩ } }

/-- The parser without its backup, with everything kept that has been read. -/
def Parser.closed (p : Parser) : Parser := { p with cursor := { p.cursor with backup := none } }

namespace Parse

variable {α : Type} {m : Parse α} {p q : Parser} {b : Backup} {first : Option Entry}

/-! ## Opening and closing -/

theorem runOn_startBackup_closed (hbackup : p.cursor.backup = none) :
    (startBackup true).runOn p = (.ok (), p.guarded) := by
  rw [runOn_startBackup, Cursor.startBackup, hbackup]
  rfl

theorem runOn_startBackup_open (hbackup : p.cursor.backup = some b) (guarded : Bool) :
    (startBackup guarded).runOn p = (.error (.backup .alreadyOpen), p) := by
  rw [runOn_startBackup, Cursor.startBackup, hbackup]

theorem runOn_discardBackup_open (hbackup : q.cursor.backup = some b) :
    discardBackup.runOn q = (.ok (), q.closed) := by
  rw [runOn_discardBackup, Cursor.discardBackup, hbackup]
  rfl

/-- Inside a backup an attempt does not begin. -/
theorem runOn_attempt_open (m : Parse α) (hbackup : p.cursor.backup = some b) :
    (attempt m).runOn p = (.error (.backup .alreadyOpen), p) :=
  runOn_bind_error (runOn_startBackup_open hbackup true)

/-- An attempt ends with what closes the backup behind its production. -/
theorem runOn_attempt (m : Parse α) (hbackup : p.cursor.backup = none) :
    (attempt m).runOn p = match m.runOn p.guarded with
      | (.ok result, q) => (do discardBackup; return some result : Parse (Option α)).runOn q
      | (.error failure, q) =>
        if failure.isSyntactic then (do recoverBackup; return none : Parse (Option α)).runOn q
        else (do discardBackup; throw failure : Parse (Option α)).runOn q := by
  unfold attempt
  rw [runOn_bind_ok (runOn_startBackup_closed hbackup), runOn_bind_ok (runOn_outcome m _)]
  cases m.runOn p.guarded with
  | mk result q =>
    cases result with
    | ok result => rfl
    | error failure => cases failure <;> rfl

/-- An attempt that gives nothing has gone back behind a failure of its production. -/
theorem exists_of_attempt_none (hbackup : p.cursor.backup = none)
    (hrun : (attempt m).runOn p = (.ok none, q)) :
    ∃ failure r, m.runOn p.guarded = (.error failure, r) ∧ failure.isSyntactic = true ∧
      recoverBackup.runOn r = (.ok (), q) := by
  rw [runOn_attempt m hbackup] at hrun
  cases hproduction : m.runOn p.guarded with
  | mk result r =>
    rw [hproduction] at hrun
    cases result with
    | ok result =>
      obtain ⟨_, r', -, hpure⟩ := exists_of_runOn_bind hrun
      cases (Prod.mk.inj hpure).1
    | error failure =>
      dsimp only at hrun
      split at hrun
      · rename_i hsyntactic
        obtain ⟨_, r', hrecover, hpure⟩ := exists_of_runOn_bind hrun
        obtain rfl : r' = q := (Prod.mk.inj hpure).2
        exact ⟨failure, r, rfl, hsyntactic, hrecover⟩
      · obtain ⟨_, r', -, hthrow⟩ := exists_of_runOn_bind hrun
        cases (Prod.mk.inj hthrow).1

/-! ## No backup is left open -/

/-- No backup is open. -/
def Closed (p : Parser) : Prop := p.cursor.backup = none

theorem closed_discardBackup (q : Parser) : Closed (discardBackup.runOn q).2 := by
  cases hbackup : q.cursor.backup with
  | none =>
    rw [runOn_discardBackup, Cursor.discardBackup, hbackup]
    exact hbackup
  | some b =>
    rw [runOn_discardBackup_open hbackup]
    rfl

theorem closed_recoverBackup (q : Parser) : Closed (recoverBackup.runOn q).2 := by
  rw [runOn_recoverBackup]
  cases hrecover : q.cursor.recoverBackup with
  | error e => exact Cursor.of_recoverBackup_error hrecover
  | ok recovered =>
    obtain ⟨result, cursor⟩ := recovered
    have hclosed : cursor.backup = none := by
      obtain ⟨b, -, ⟨-, rfl⟩ | ⟨-, rfl⟩⟩ := Cursor.of_recoverBackup hrecover
      · rfl
      · exact Cursor.backup_advance rfl
    cases result <;> exact hclosed

/-- Whatever the production has done to the backup of the attempt, none is open behind it. -/
theorem closed_attempt (m : Parse α) (hclosed : Closed p) : Closed ((attempt m).runOn p).2 := by
  rw [runOn_attempt m hclosed]
  cases m.runOn p.guarded with
  | mk result q =>
    cases result with
    | ok result => exact Keeps.after (closed_discardBackup q) fun _ => .pure _
    | error failure =>
      simp only
      split
      · exact Keeps.after (closed_recoverBackup q) fun _ => .pure _
      · exact Keeps.after (closed_discardBackup q) fun _ => .throw failure

/-! ## The backup of the attempt -/

/-- The backup of an attempt is open. It holds the entry that was current when it was opened, if
there was one, and those that have become current since. -/
def Held (first : Option Entry) (p : Parser) : Prop :=
  ∃ passed, p.cursor.Recorded true (first.toList ++ passed)

/-- The backup of an attempt holds the current entry first. -/
theorem recorded_guarded (hproper : p.cursor.Proper) :
    p.guarded.cursor.Recorded true p.cursor.current.toList := by
  refine ⟨?_, ?_, ?_⟩
  · cases hcurrent : p.cursor.current <;> simp [Parser.guarded, hcurrent]
  · cases hcurrent : p.cursor.current <;> simp [Parser.guarded, hcurrent]
  · intro entry hentry
    exact hproper entry (by simpa using hentry)

theorem held_guarded (hproper : p.cursor.Proper) : Held p.cursor.current p.guarded :=
  ⟨[], (List.append_nil p.cursor.current.toList).symm ▸ recorded_guarded hproper⟩

/-- No operation but those on backups touches the backup of an attempt, and those are refused. -/
theorem held_invariant (first : Option Entry) : Invariant False (Held first) where
  advance := by
    rintro p ⟨passed, h⟩
    cases hadvance : p.cursor.advance with
    | mk result cursor =>
      cases result with
      | error e => exact ⟨passed, h.advance.2 _ _ hadvance⟩
      | ok entry =>
        refine ⟨passed ++ [entry], ?_⟩
        rw [← List.append_assoc]
        exact h.advance.1 _ _ hadvance
  dropLine := by
    rintro p ⟨passed, h⟩
    refine ⟨passed, ?_⟩
    rw [Cursor.skipLine_eq]
    exact ⟨h.backup_eq, h.current_eq, h.proper⟩
  inject := fun p entries ⟨passed, h⟩ => ⟨passed, h.backup_eq, h.current_eq, h.proper⟩
  setLines := fun p _ _ h => h
  ask := fun p h => h
  closeUnguarded := by
    rintro p ⟨passed, h⟩
    rw [Parser.closeUnguarded, if_pos (by simp [Cursor.isGuarded, h.backup_eq])]
    exact ⟨passed, h⟩
  attempt := by
    rintro α m - p ⟨passed, h⟩
    rw [runOn_attempt_open m h.backup_eq]
    exact ⟨passed, h⟩
  startBackup := nofun
  discardBackup := nofun
  recoverBackup := nofun

/-- Going back to the entry that was current succeeds. -/
theorem runOn_recoverBackup_held (h : Held first q) :
    ∃ back, recoverBackup.runOn q = (.ok (), { q with cursor := back }) ∧
      ∀ entry, first = some entry → back.current = some entry := by
  obtain ⟨passed, h⟩ := h
  rw [runOn_recoverBackup]
  cases hentries : first.toList ++ passed with
  | nil =>
    -- nothing was current and nothing has been read
    rw [hentries] at h
    obtain rfl : first = none := by simpa using (List.append_eq_nil_iff.1 hentries).1
    rw [Cursor.recoverBackup, h.backup_eq]
    exact ⟨_, rfl, fun _ hentry => by cases hentry⟩
  | cons entry others =>
    rw [hentries] at h
    rw [Cursor.recoverBackup_recorded h]
    refine ⟨_, rfl, ?_⟩
    rintro entry' rfl
    obtain ⟨rfl, -⟩ := List.cons.inj hentries
    rfl

/-! ## Attempts -/

/-- Inside an open backup an attempt is refused and changes nothing. Otherwise no backup is open
behind it, whatever its production is. A production that leaves backups alone ends the attempt:
what it gives is what the attempt gives; where it fails for a reason of the grammar the attempt
gives nothing and is back at the token it began with; and any other failure passes through it, with
everything kept that has been read. -/
theorem attempt_closes (production : Parse α) (p : Parser) :
    (∀ b, p.cursor.backup = some b →
      (attempt production).runOn p = (.error (.backup .alreadyOpen), p)) ∧
    (p.cursor.backup = none → ((attempt production).runOn p).2.cursor.backup = none) ∧
    (p.Reachable → p.cursor.backup = none → Production False production →
      (startBackup true).runOn p = (.ok (), p.guarded) ∧
      match production.runOn p.guarded with
      | (.ok result, q) => (attempt production).runOn p = (.ok (some result), q.closed)
      | (.error failure, q) =>
        if failure.isSyntactic then
          ∃ back, (attempt production).runOn p = (.ok none, { q with cursor := back }) ∧
            ∀ entry, p.cursor.current = some entry → back.current = some entry
        else (attempt production).runOn p = (.error failure, q.closed)) := by
  refine ⟨fun b => runOn_attempt_open production, closed_attempt production, ?_⟩
  intro hreachable hbackup hproduction
  refine ⟨runOn_startBackup_closed hbackup, ?_⟩
  have hheld : Held p.cursor.current (production.runOn p.guarded).2 :=
    hproduction.keeps (held_invariant _) _ (held_guarded hreachable.cursor.proper)
  rw [runOn_attempt production hbackup]
  cases hrun : production.runOn p.guarded with
  | mk result q =>
    rw [hrun] at hheld
    obtain ⟨passed, hrecorded⟩ := hheld
    have hdiscard := runOn_discardBackup_open hrecorded.backup_eq
    cases result with
    | ok result => exact runOn_bind_ok hdiscard
    | error failure =>
      simp only
      split
      · obtain ⟨back, hrecover, hcurrent⟩ := runOn_recoverBackup_held ⟨passed, hrecorded⟩
        exact ⟨back, runOn_bind_ok hrecover, hcurrent⟩
      · exact runOn_bind_ok hdiscard

/-- A production reads the second of two tokens and does not find what it looks for: its attempt is
back at the first one. An attempt that is begun inside its backup is refused. -/
theorem attempt_closes_rewound :
    ∃ (production : Parse Token) (p : Parser) (back : Cursor), p.Reachable ∧
      p.token? = some ⟨.identifier, "a"⟩ ∧ p.cursor.backup = none ∧ Production False production ∧
      (attempt production).runOn p = (.ok none, { p with cursor := back }) ∧
      back.current = p.cursor.current ∧ back.backup = none ∧
      (attempt production).runOn p.guarded = (.error (.backup .alreadyOpen), p.guarded) := by
  let fresh : Parser := .ofScanner (.ofText "" "text") {}
  let production : Parse Token := do let _ ← nextToken; eat .string "a text is expected"
  let p : Parser := (nextToken.runOn
    ((addTokens [⟨.identifier, "a"⟩, ⟨.identifier, "b"⟩]).runOn fresh).2).2
  have hreachable : p.Reachable := .run (.run (.start _ _) (.addTokens _)) .nextToken
  have hproduction : Production False production := .bind .nextToken fun _ => .eat _ _
  obtain ⟨-, hclosed, hends⟩ := attempt_closes production p
  obtain ⟨-, hends⟩ := hends hreachable rfl hproduction
  have hrun : production.runOn p.guarded = (.error (.mismatch _), _) := rfl
  rw [hrun] at hends
  obtain ⟨back, hback, hcurrent⟩ := hends
  have hclosed := hclosed rfl
  rw [hback] at hclosed
  exact ⟨production, p, back, hreachable, rfl, rfl, hproduction, hback, hcurrent _ rfl, hclosed,
    (attempt_closes production p.guarded).1 _ rfl⟩

end Parse

end ServiceSyntax
