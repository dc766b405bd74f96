import ServiceSyntax.Proofs.Parse.Advance

/-!
# Recovering a backup

An open backup holds the entry that was current when it was opened and, behind it, the entries that
have become current since. None of them is a line break, so recovering the backup goes back to the
first one without reading the source, and the others are read once more in their order
(`recoverBackup_replays`).
-/

namespace ServiceSyntax.Cursor

variable {c c' opened : Cursor} {first entry : Entry} {passed : List Entry} {guarded : Bool}

/-! ## Reachable cursors -/

/-- The cursors that operations lead to from a cursor that has read nothing yet. -/
inductive Reachable : Cursor → Prop
  | start (s : Scanner) : Reachable { scanner := s }
  | advance {c : Cursor} : Reachable c → Reachable c.advance.2
  | inject {c : Cursor} (entries : List Entry) : Reachable c → Reachable (c.inject entries)
  | startBackup {c c' : Cursor} {guarded : Bool} : Reachable c →
      c.startBackup guarded = .ok c' → Reachable c'
  | discardBackup {c c' : Cursor} : Reachable c → c.discardBackup = .ok c' → Reachable c'
  | recoverBackup {c c' : Cursor} {result : Except ScanError Unit} : Reachable c →
      c.recoverBackup = .ok (result, c') → Reachable c'
  | skipLine {c : Cursor} : Reachable c → Reachable c.skipLine.2

/-- The current entry is no line break. -/
def Proper (c : Cursor) : Prop := ∀ entry ∈ c.current, entry.token.kind ≠ .newline

theorem Proper.advance (h : Proper c) : Proper c.advance.2 := by
  obtain ⟨s', queue', met, ⟨e, hadvance⟩ | ⟨entry, hentry, hadvance⟩⟩ :=
    exists_advance c.scanner c.queue
  · rw [hadvance c rfl rfl]
    exact h
  · rw [hadvance c rfl rfl]
    intro entry' hentry'
    obtain rfl := Option.some.inj hentry'
    exact hentry

/-! ## Operations on backups -/

theorem of_startBackup (h : c.startBackup guarded = .ok c') :
    c.backup = none ∧ c' = { c with backup := some ⟨c.current.toArray, guarded⟩ } := by
  unfold startBackup at h
  cases hbackup : c.backup with
  | some b =>
    rw [hbackup] at h
    cases h
  | none =>
    rw [hbackup] at h
    exact ⟨rfl, (Except.ok.inj h).symm⟩

theorem of_discardBackup (h : c.discardBackup = .ok c') : c' = { c with backup := none } := by
  unfold discardBackup at h
  split at h
  · cases h
  · exact (Except.ok.inj h).symm

/-- Recovering a backup that holds something moves to its first entry. -/
theorem recoverBackup_of_ne_empty {b : Backup} (hbackup : c.backup = some b)
    (hne : b.entries.isEmpty = false) :
    c.recoverBackup = .ok
      ((({ c with backup := none }.inject b.entries.toList).advance.1.map fun _ => ()),
        ({ c with backup := none }.inject b.entries.toList).advance.2) := by
  rw [recoverBackup, hbackup]
  simp only [hne, Bool.false_eq_true, if_false]
  cases ({ c with backup := none }.inject b.entries.toList).advance with
  | mk result c' => cases result <;> rfl

/-- Recovering a backup closes it; if it holds something the cursor moves to the first entry. -/
theorem of_recoverBackup {result : Except ScanError Unit}
    (h : c.recoverBackup = .ok (result, c')) : ∃ b, c.backup = some b ∧
      (result = .ok () ∧ c' = { c with backup := none } ∨
        result = ({ c with backup := none }.inject b.entries.toList).advance.1.map (fun _ => ()) ∧
          c' = ({ c with backup := none }.inject b.entries.toList).advance.2) := by
  cases hbackup : c.backup with
  | none =>
    rw [recoverBackup, hbackup] at h
    cases h
  | some b =>
    refine ⟨b, rfl, ?_⟩
    cases hempty : b.entries.isEmpty with
    | true =>
      left
      rw [recoverBackup, hbackup] at h
      simp only [hempty, if_true] at h
      obtain ⟨hresult, hcursor⟩ := Prod.mk.inj (Except.ok.inj h)
      exact ⟨hresult.symm, hcursor.symm⟩
    | false =>
      right
      rw [recoverBackup_of_ne_empty hbackup hempty] at h
      obtain ⟨hresult, hcursor⟩ := Prod.mk.inj (Except.ok.inj h)
      exact ⟨hresult.symm, hcursor.symm⟩

theorem of_recoverBackup_error {e : BackupError} (h : c.recoverBackup = .error e) :
    c.backup = none := by
  cases hbackup : c.backup with
  | none => rfl
  | some b =>
    cases hempty : b.entries.isEmpty with
    | true =>
      rw [recoverBackup, hbackup] at h
      simp only [hempty, if_true] at h
      cases h
    | false =>
      rw [recoverBackup_of_ne_empty hbackup hempty] at h
      cases h

theorem Reachable.proper (h : Reachable c) : Proper c := by
  induction h with
  | start s =>
    intro entry hentry
    cases hentry
  | advance _ ih => exact ih.advance
  | inject entries _ ih => exact ih
  | startBackup _ h ih =>
    obtain ⟨-, rfl⟩ := of_startBackup h
    exact ih
  | discardBackup _ h ih =>
    obtain rfl := of_discardBackup h
    exact ih
  | recoverBackup _ h ih =>
    obtain ⟨b, -, ⟨-, rfl⟩ | ⟨-, rfl⟩⟩ := of_recoverBackup h
    · exact ih
    · exact Proper.advance ih
  | @skipLine c _ ih =>
    rw [skipLine_eq]
    exact ih

/-! ## Sessions -/

/-- Calls between opening a backup and closing it, with the entries that became current. -/
inductive Session (opened : Cursor) : List Entry → Cursor → Prop
  | opened : Session opened [] opened
  | advanced {passed : List Entry} {c c' : Cursor} {entry : Entry} : Session opened passed c →
      c.advance = (.ok entry, c') → Session opened (passed ++ [entry]) c'
  | failed {passed : List Entry} {c c' : Cursor} {e : ScanError} : Session opened passed c →
      c.advance = (.error e, c') → Session opened passed c'
  | injected {passed : List Entry} {c : Cursor} (entries : List Entry) : Session opened passed c →
      Session opened passed (c.inject entries)

/-- The backup holds these entries: no line breaks, and the current entry last. -/
structure Recorded (c : Cursor) (guarded : Bool) (entries : List Entry) : Prop where
  backup_eq : c.backup = some ⟨entries.toArray, guarded⟩
  current_eq : c.current = entries.getLast?
  proper : ∀ entry ∈ entries, entry.token.kind ≠ .newline

/-- Opening a backup records the current entry. -/
theorem startBackup_recorded (hbackup : c.backup = none) (hcurrent : c.current = some first)
    (hproper : Proper c) (guarded : Bool) :
    ∃ opened, c.startBackup guarded = .ok opened ∧ Recorded opened guarded [first] := by
  refine ⟨{ c with backup := some ⟨#[first], guarded⟩ }, ?_, rfl, hcurrent, ?_⟩
  · rw [startBackup, hbackup, hcurrent]
    rfl
  · intro entry hentry
    obtain rfl := List.mem_singleton.1 hentry
    exact hproper entry hcurrent

/-- Advancing records the entry that becomes current, or it changes nothing that is recorded. -/
theorem Recorded.advance {entries : List Entry} (h : Recorded c guarded entries) :
    (∀ entry c', c.advance = (.ok entry, c') → Recorded c' guarded (entries ++ [entry])) ∧
      ∀ e c', c.advance = (.error e, c') → Recorded c' guarded entries := by
  obtain ⟨s', queue', met, ⟨e, hadvance⟩ | ⟨entry, hentry, hadvance⟩⟩ :=
    exists_advance c.scanner c.queue
  · rw [hadvance c rfl rfl]
    refine ⟨fun _ _ heq => by simp at heq, fun _ c' heq => ?_⟩
    obtain ⟨-, rfl⟩ := Prod.mk.inj heq
    exact ⟨h.backup_eq, h.current_eq, h.proper⟩
  · rw [hadvance c rfl rfl]
    refine ⟨fun entry' c' heq => ?_, fun _ _ heq => by simp at heq⟩
    obtain ⟨hresult, rfl⟩ := Prod.mk.inj heq
    obtain rfl := Except.ok.inj hresult
    refine ⟨?_, ?_, ?_⟩
    · simp [arrive, h.backup_eq]
    · simp [arrive]
    · intro entry' hentry'
      rcases List.mem_append.1 hentry' with hmem | hmem
      · exact h.proper entry' hmem
      · obtain rfl := List.mem_singleton.1 hmem
        exact hentry

/-- A session records the entries that become current. -/
theorem Session.recorded (h : Session opened passed c) (hopened : Recorded opened guarded [first]) :
    Recorded c guarded (first :: passed) := by
  induction h with
  | opened => exact hopened
  | advanced _ hadvance ih => exact ih.advance.1 _ _ hadvance
  | failed _ hadvance ih => exact ih.advance.2 _ _ hadvance
  -- queued entries are recorded when they become current, not before
  | injected entries _ ih => exact ⟨ih.backup_eq, ih.current_eq, ih.proper⟩

/-- A cursor that stands at an entry again, with others behind it. -/
def rewound (c : Cursor) (first : Entry) (passed : List Entry) : Cursor :=
  { c with
    current := some first
    metNewline := first.metNewline
    queue := passed ++ c.queue
    backup := none }

/-- Recovering a backup queues what it holds, and its first entry becomes current. -/
theorem recoverBackup_recorded (h : Recorded c guarded (first :: passed)) :
    c.recoverBackup = .ok (.ok (), c.rewound first passed) := by
  have hadvance : ({ c with backup := none }.inject (first :: passed)).advance = _ :=
    advance_cons rfl (h.proper first List.mem_cons_self)
  rw [recoverBackup_of_ne_empty h.backup_eq (by simp), hadvance]
  rfl

/-! ## Reading once more -/

/-- The results of successive calls, and the cursor that they lead to. -/
def advances (c : Cursor) : Nat → List (Except ScanError Entry) × Cursor
  | 0 => ([], c)
  | n + 1 => (c.advance.1 :: (c.advance.2.advances n).1, (c.advance.2.advances n).2)

/-- Two cursors stand at the same entry and have the same left to read. -/
structure Agree (c c' : Cursor) : Prop where
  scanner_eq : c.scanner = c'.scanner
  queue_eq : c.queue = c'.queue
  current_eq : c.current = c'.current

theorem Agree.advance (h : Agree c c') :
    c.advance.1 = c'.advance.1 ∧ Agree c.advance.2 c'.advance.2 := by
  obtain ⟨s', queue', met, ⟨e, hadvance⟩ | ⟨entry, -, hadvance⟩⟩ :=
    exists_advance c.scanner c.queue
  · rw [hadvance c rfl rfl, hadvance c' h.scanner_eq.symm h.queue_eq.symm]
    exact ⟨rfl, rfl, rfl, h.current_eq⟩
  · rw [hadvance c rfl rfl, hadvance c' h.scanner_eq.symm h.queue_eq.symm]
    exact ⟨rfl, rfl, rfl, rfl⟩

theorem Agree.advances (h : Agree c c') (n : Nat) :
    (c.advances n).1 = (c'.advances n).1 ∧ Agree (c.advances n).2 (c'.advances n).2 := by
  induction n generalizing c c' with
  | zero => exact ⟨rfl, h⟩
  | succ n ih =>
    obtain ⟨hresult, hagree⟩ := h.advance
    obtain ⟨hresults, hlast⟩ := ih hagree
    refine ⟨?_, hlast⟩
    show _ :: _ = _ :: _
    rw [hresult, hresults]

/-- Queued entries are read in their order, and then what is left behind them. -/
theorem advances_of_queue (c c' : Cursor)
    (hpassed : ∀ entry ∈ passed, entry.token.kind ≠ .newline)
    (hscanner : c.scanner = c'.scanner) (hqueue : c.queue = passed ++ c'.queue)
    (hcurrent : passed.getLast?.or c.current = c'.current) (n : Nat) :
    (c.advances (passed.length + n)).1 = passed.map .ok ++ (c'.advances n).1 ∧
      Agree (c.advances (passed.length + n)).2 (c'.advances n).2 := by
  induction passed generalizing c with
  | nil =>
    rw [List.length_nil, Nat.zero_add]
    exact Agree.advances ⟨hscanner, hqueue, hcurrent⟩ n
  | cons entry passed ih =>
    rw [List.forall_mem_cons] at hpassed
    have hadvance := advance_cons hqueue hpassed.1
    have hcurrent' : passed.getLast?.or (some entry) = c'.current := by
      rw [← hcurrent, List.getLast?_cons]
      cases passed.getLast? <;> rfl
    have hrest := ih c.advance.2 hpassed.2
    rw [hadvance] at hrest
    obtain ⟨hresults, hagree⟩ := hrest hscanner rfl hcurrent'
    rw [List.length_cons, Nat.add_right_comm, advances, hadvance]
    refine ⟨?_, hagree⟩
    rw [List.map_cons, List.cons_append, ← hresults]

/-! ## Replay -/

/-- Whatever is read and queued while a backup is open, recovering it succeeds whichever scanner the
cursor has, and it leaves the scanner alone. The entry that was current at the beginning is current
again, and the entries that became current since come before what is queued. So they are read once
more, and then everything goes on as it would have without recovering. -/
theorem recoverBackup_replays (hreachable : Reachable c) (hcurrent : c.current = some first)
    (hbackup : c.backup = none) (guarded : Bool) :
    ∃ opened, c.startBackup guarded = .ok opened ∧
      ∀ passed last, Session opened passed last →
        ∃ back, last.recoverBackup = .ok (.ok (), back) ∧
          (∀ s, { last with scanner := s }.recoverBackup
            = .ok (.ok (), { back with scanner := s })) ∧
          back.scanner = last.scanner ∧ back.backup = none ∧ back.current = some first ∧
          back.queue = passed ++ last.queue ∧
          ∀ n, (back.advances (passed.length + n)).1 = passed.map .ok ++ (last.advances n).1 ∧
            Agree (back.advances (passed.length + n)).2 (last.advances n).2 := by
  obtain ⟨opened, hopen, hrecorded⟩ :=
    startBackup_recorded hbackup hcurrent hreachable.proper guarded
  refine ⟨opened, hopen, ?_⟩
  intro passed last hsession
  have hlast := hsession.recorded hrecorded
  have hpassed : ∀ entry ∈ passed, entry.token.kind ≠ .newline :=
    fun entry hentry => hlast.proper entry (List.mem_cons_of_mem first hentry)
  -- the last entry read is current, or still the first one where nothing has been read
  have hcurrent' : passed.getLast?.or (some first) = last.current := by
    rw [hlast.current_eq, List.getLast?_cons]
    cases passed.getLast? <;> rfl
  refine ⟨last.rewound first passed, recoverBackup_recorded hlast, ?_, rfl, rfl, rfl, rfl, ?_⟩
  · intro s
    have hswapped : Recorded { last with scanner := s } guarded (first :: passed) :=
      ⟨hlast.backup_eq, hlast.current_eq, hlast.proper⟩
    exact recoverBackup_recorded hswapped
  · intro n
    exact advances_of_queue (last.rewound first passed) last hpassed rfl rfl hcurrent' n

/-- A line break is read over on the way to an entry; both were queued behind the open backup. -/
theorem recoverBackup_replays_queued :
    ∃ first opened last back : Cursor,
      Reachable first ∧ first.current = some ⟨⟨.identifier, "a"⟩, 1, 0, false⟩ ∧
        first.backup = none ∧ first.startBackup true = .ok opened ∧
        Session opened [⟨⟨.identifier, "b"⟩, 2, 0, false⟩] last ∧
        last.recoverBackup = .ok (.ok (), back) ∧
        back.current = some ⟨⟨.identifier, "a"⟩, 1, 0, false⟩ ∧
        back.queue = [⟨⟨.identifier, "b"⟩, 2, 0, false⟩] := by
  let a : Entry := ⟨⟨.identifier, "a"⟩, 1, 0, false⟩
  let b : Entry := ⟨⟨.identifier, "b"⟩, 2, 0, false⟩
  let first : Cursor := (({ scanner := .ofText "" "text" } : Cursor).inject [a]).advance.2
  let opened : Cursor :=
    { scanner := .ofText "" "text", current := some a, backup := some ⟨#[a], true⟩ }
  let queued : Cursor := opened.inject [⟨⟨.newline, ""⟩, 1, 1, false⟩, b]
  have hreachable : Reachable first := .advance (.inject _ (.start _))
  obtain ⟨opened', hopen, hreplay⟩ := recoverBackup_replays hreachable rfl rfl true
  obtain rfl : opened = opened' := Except.ok.inj hopen
  have hsession : Session opened [b] queued.advance.2 :=
    @Session.advanced opened [] queued _ b (.injected _ .opened) rfl
  obtain ⟨back, hback, -, -, -, hcurrent, hqueue, -⟩ := hreplay _ _ hsession
  exact ⟨first, opened, queued.advance.2, back, hreachable, rfl, rfl, hopen, hsession, hback,
    hcurrent, hqueue⟩

end ServiceSyntax.Cursor
