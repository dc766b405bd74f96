import ServiceSyntax.Proofs.Parse.Layout
import ServiceSyntax.Proofs.Parse.Replay

/-!
# Line breaks in a replay

An entry carries the line break that its scanner has met in front of it. A line break that is a
token of its own is read over, and then the cursor notes it and the entry behind it does not carry
it. A backup holds entries, so a replay shows the line breaks that they carry: all of them where
none is a token (`recoverBackup_flags`), but not those that are (`recoverBackup_flags_layout`).
-/

namespace ServiceSyntax.Cursor

open Scanner

variable {c c' opened : Cursor} {s : Scanner} {first entry : Entry} {passed queue : List Entry}

/-- Whether a line break has been met on the way to the current token, behind each of successive
calls. -/
def flags (c : Cursor) : Nat → List Bool
  | 0 => []
  | n + 1 => c.advance.2.metNewline :: c.advance.2.flags n

/-! ## Line breaks that are no tokens -/

/-- Outside layout mode a scan gives no line break. -/
theorem next_of_plain (hlayout : s.layout = false) :
    s.next.2.layout = false ∧ ∀ token, s.next.1 = .ok token → token.kind ≠ .newline := by
  let noted : Scanner := { s with metNewline := false }
  have htwin : Twin noted { noted with layout := true } :=
    ⟨hlayout, rfl, rfl, rfl, rfl, rfl, rfl, rfl⟩
  have halike := scan_alike htwin { scanner := { noted with layout := true } } rfl rfl
  rw [← next_eq_resume] at halike
  generalize s.next = plain at halike
  generalize ({ scanner := { noted with layout := true } } : Cursor).scan = read at halike
  cases halike with
  | token hkind habreast =>
    exact ⟨habreast.layout_eq, fun _ heq => Except.ok.inj heq ▸ hkind⟩
  | failed htwin => exact ⟨htwin.layout_eq, fun _ heq => by cases heq⟩

/-- No line break that is left to be read is a token. -/
structure Unbroken (c : Cursor) : Prop where
  layout_eq : c.scanner.layout = false
  queue_proper : ∀ entry ∈ c.queue, entry.token.kind ≠ .newline

/-- The entry that becomes current carries the line break that the cursor has met. -/
theorem Unbroken.advance (h : Unbroken c) (hadvance : c.advance = (.ok entry, c')) :
    Unbroken c' ∧ c'.metNewline = entry.metNewline := by
  obtain ⟨hlayout, hkind⟩ := next_of_plain h.layout_eq
  rcases of_advance_ok h.queue_proper hkind hadvance with
    ⟨others, hqueue, rfl⟩ | ⟨token, t, hqueue, hnext, rfl, rfl⟩
  · have hproper := h.queue_proper
    rw [hqueue, List.forall_mem_cons] at hproper
    exact ⟨⟨h.layout_eq, hproper.2⟩, rfl⟩
  · rw [hnext] at hlayout
    exact ⟨⟨hlayout, h.queue_proper⟩, rfl⟩

/-! ## Two passes -/

/-- Successive calls that succeed are the next ones of a session. -/
theorem Session.advances {before : List Entry} (h : Session opened before c)
    (hpassed : (c.advances passed.length).1 = passed.map .ok) :
    Session opened (before ++ passed) (c.advances passed.length).2 := by
  induction passed generalizing before c with
  | nil =>
    rw [List.append_nil]
    exact h
  | cons entry passed ih =>
    obtain ⟨hentry, hrest⟩ := List.cons.inj hpassed
    have hnext : Session opened (before ++ [entry]) c.advance.2 := h.advanced (Prod.ext hentry rfl)
    rw [List.append_cons]
    exact ih hnext hrest

/-- Outside layout mode the first pass shows what the entries carry. -/
theorem flags_of_unbroken (h : Unbroken c)
    (hpassed : (c.advances passed.length).1 = passed.map .ok) :
    c.flags passed.length = passed.map Entry.metNewline := by
  induction passed generalizing c with
  | nil => rfl
  | cons entry passed ih =>
    obtain ⟨hentry, hrest⟩ := List.cons.inj hpassed
    obtain ⟨hunbroken, hmet⟩ := h.advance (Prod.ext hentry rfl)
    show _ :: _ = _ :: _
    rw [hmet, ih hunbroken hrest]

/-- Entries that are queued show what they carry. -/
theorem flags_of_queue (hproper : ∀ entry ∈ passed, entry.token.kind ≠ .newline)
    (hqueue : c.queue = passed ++ queue) :
    c.flags passed.length = passed.map Entry.metNewline := by
  induction passed generalizing c with
  | nil => rfl
  | cons entry passed ih =>
    rw [List.forall_mem_cons] at hproper
    have hadvance := advance_cons hqueue hproper.1
    show _ :: _ = _ :: _
    rw [hadvance, ih hproper.2 rfl]
    rfl

/-- The second pass over the entries of a backup shows the line breaks that they carry. The first
one has shown the same, unless line breaks are tokens. -/
theorem recoverBackup_flags (hreachable : Reachable c) (hcurrent : c.current = some first)
    (hbackup : c.backup = none) (guarded : Bool) :
    ∃ opened, c.startBackup guarded = .ok opened ∧
      ∀ passed : List Entry, (opened.advances passed.length).1 = passed.map .ok →
        ∃ back, (opened.advances passed.length).2.recoverBackup = .ok (.ok (), back) ∧
          (back.advances passed.length).1 = passed.map .ok ∧
          back.flags passed.length = passed.map Entry.metNewline ∧
          (Unbroken c → opened.flags passed.length = passed.map Entry.metNewline) := by
  obtain ⟨opened, hopen, hrecorded⟩ :=
    startBackup_recorded hbackup hcurrent hreachable.proper guarded
  refine ⟨opened, hopen, ?_⟩
  intro passed hpassed
  have hsession : Session opened passed (opened.advances passed.length).2 :=
    Session.opened.advances hpassed
  have hlast := hsession.recorded hrecorded
  have hproper : ∀ entry ∈ passed, entry.token.kind ≠ .newline :=
    fun entry hentry => hlast.proper entry (List.mem_cons_of_mem first hentry)
  generalize (opened.advances passed.length).2 = last at hlast
  refine ⟨last.rewound first passed, recoverBackup_recorded hlast, ?_, flags_of_queue hproper rfl,
    fun hunbroken => ?_⟩
  · have hreplay := advances_of_queue (last.rewound first passed)
      { last with current := passed.getLast?.or (some first) } hproper rfl rfl rfl 0
    simpa [advances] using hreplay.1
  · rw [startBackup, hbackup] at hopen
    obtain rfl := Except.ok.inj hopen
    exact flags_of_unbroken ⟨hunbroken.layout_eq, hunbroken.queue_proper⟩ hpassed

/-- Outside layout mode both passes meet the line break between two lines. -/
theorem recoverBackup_flags_plain :
    ∃ c opened back : Cursor, Reachable c ∧
      c.current = some ⟨⟨.identifier, "a"⟩, 1, 0, false⟩ ∧ c.backup = none ∧ Unbroken c ∧
      c.startBackup false = .ok opened ∧
      (opened.advances 1).1 = [.ok ⟨⟨.identifier, "b"⟩, 2, 0, true⟩] ∧
      (opened.advances 1).2.recoverBackup = .ok (.ok (), back) ∧
      opened.flags 1 = [true] ∧ back.flags 1 = [true] := by
  let text : Scanner := .ofText "a\nb" "text"
  let a : Entry := ⟨⟨.identifier, "a"⟩, 1, 0, false⟩
  let b : Entry := ⟨⟨.identifier, "b"⟩, 2, 0, true⟩
  let c : Cursor := { scanner := text.next.2, current := some a }
  have ha : ({ scanner := text } : Cursor).advance = (.ok a, c) :=
    advance_of_token (t := ⟨.identifier, "a"⟩) (s := text.next.2) rfl rfl (by decide)
  have hreachable : Reachable ({ scanner := text } : Cursor).advance.2 := .advance (.start text)
  rw [ha] at hreachable
  obtain ⟨opened, hopen, hreplay⟩ := recoverBackup_flags hreachable rfl rfl false
  obtain rfl := Except.ok.inj hopen
  have hb : ({ c with backup := some ⟨#[a], false⟩ } : Cursor).advance = (.ok b, _) :=
    advance_of_token (t := ⟨.identifier, "b"⟩) (s := text.next.2.next.2) rfl rfl (by decide)
  have hpassed : (({ c with backup := some ⟨#[a], false⟩ } : Cursor).advances 1).1 = [.ok b] := by
    simp only [advances, hb]
  have hunbroken : Unbroken c := ⟨rfl, List.forall_mem_nil _⟩
  obtain ⟨back, hback, -, hsecond, hfirst⟩ := hreplay [b] hpassed
  exact ⟨c, _, back, hreachable, rfl, rfl, hunbroken, hopen, hpassed, hback, hfirst hunbroken,
    hsecond⟩

/-- In layout mode the line break between two lines is a token. The first pass meets it and the
second one, over the same entry, does not. -/
theorem recoverBackup_flags_layout :
    ∃ c opened back : Cursor, Reachable c ∧
      c.current = some ⟨⟨.identifier, "a"⟩, 1, 0, false⟩ ∧ c.backup = none ∧
      c.startBackup false = .ok opened ∧
      (opened.advances 1).1 = [.ok ⟨⟨.identifier, "b"⟩, 2, 0, false⟩] ∧
      (opened.advances 1).2.recoverBackup = .ok (.ok (), back) ∧
      (back.advances 1).1 = [.ok ⟨⟨.identifier, "b"⟩, 2, 0, false⟩] ∧
      opened.flags 1 = [true] ∧ back.flags 1 = [false] := by
  let text : Scanner := .ofText "a\nb" "text" true
  let a : Entry := ⟨⟨.identifier, "a"⟩, 1, 0, false⟩
  let b : Entry := ⟨⟨.identifier, "b"⟩, 2, 0, false⟩
  let c : Cursor := { scanner := text.next.2, current := some a }
  have ha : ({ scanner := text } : Cursor).advance = (.ok a, c) :=
    advance_of_token (t := ⟨.identifier, "a"⟩) (s := text.next.2) rfl rfl (by decide)
  have hreachable : Reachable ({ scanner := text } : Cursor).advance.2 := .advance (.start text)
  rw [ha] at hreachable
  let opened : Cursor := { c with backup := some ⟨#[a], false⟩ }
  let last : Cursor :=
    { scanner := text.next.2.next.2.next.2, current := some b, metNewline := true
      backup := some ⟨#[a, b], false⟩ }
  have hscan : ({ opened with metNewline := false } : Cursor).scan
      = (.ok b, { opened with scanner := last.scanner, metNewline := true }) := by
    rw [scan_of_newline (t := ⟨.newline, ""⟩) (s := text.next.2.next.2) rfl rfl,
      scan_of_token (t := ⟨.identifier, "b"⟩) (s := last.scanner) rfl (by decide)]
    rfl
  have hb : opened.advance = (.ok b, last) := (advance_of_scan rfl).1 _ _ hscan
  have hfirst : opened.advances 1 = ([.ok b], last) := by simp only [advances, hb]
  have hmet : opened.flags 1 = [true] := by simp only [flags, hb, last]
  have hback : last.recoverBackup = .ok (.ok (), last.rewound a [b]) := rfl
  have hb' : (last.rewound a [b]).advance = (.ok b, _) := advance_cons rfl (by decide)
  have hsecond : ((last.rewound a [b]).advances 1).1 = [.ok b] := by simp only [advances, hb']
  have hmissed : (last.rewound a [b]).flags 1 = [false] := by simp only [flags, hb']; rfl
  refine ⟨c, opened, last.rewound a [b], hreachable, rfl, rfl, rfl, ?_, ?_, hsecond, hmet, hmissed⟩
  · rw [hfirst]
  · rw [hfirst, hback]

end ServiceSyntax.Cursor
