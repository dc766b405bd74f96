import ServiceSyntax.Proofs.Parse.Replay
import ServiceSyntax.Proofs.Scan.Steady

/-!
# What a cursor holds

Whatever the steps of a scan keep is kept by reading (`Scans.landed`), and so by every operation on
a cursor. A property that entries have when they are scanned, and that they do not lose while their
scanner reads on (`Lasting`), is one of all entries that a cursor holds (`Holds`), as long as the
ones that are injected have it.
-/

namespace ServiceSyntax.Cursor

open Scanner

variable {c c' : Cursor} {s t : Scanner} {entry : Entry} {queue queue' : List Entry}
  {inv : Scanner → Prop} {kept : Scanner → Entry → Prop}

/-! ## Reading -/

/-- How reading on ends: an error is at the place of the scanner, and an entry is at a place where a
scan has begun. -/
structure Landed (inv : Scanner → Prop) (result : Except ScanError Entry) (t : Scanner) : Prop where
  keeps : inv t
  failed : ∀ e, result = .error e → t.rest ≠ [] ∧ ∃ fault, e = t.errorAt fault
  began : ∀ entry, result = .ok entry → ∃ u, inv u ∧ Grown u t ∧ (u.rest = [] → u.unread = []) ∧
    entry.line = u.markToken.tokenLine ∧ entry.column = u.markToken.tokenColumn

theorem Scans.landed {result : Except ScanError Entry} (h : Scans s result t) (hinv : Steady inv)
    (hs : inv s) : Landed inv result t := by
  induction h with
  | @failed s t e hnext =>
    obtain ⟨hkeeps, hfault⟩ := hinv.next_error hs hnext
    refine ⟨hkeeps, fun _ heq => Except.error.inj heq ▸ hfault, ?_⟩
    intro entry hok
    cases hok
  | @token s t token hnext hkind =>
    have hover := hinv.next hs
    rw [hnext] at hover
    obtain ⟨u, hu, hbegan, hend⟩ := hover.began token rfl hkind
    refine ⟨hover.keeps, nofun, fun entry heq => ?_⟩
    obtain rfl := Except.ok.inj heq
    exact ⟨u, hu, hbegan.toGrown, fun hrest => (hend hrest).1,
      congrArg Int.ofNat hbegan.tokenLine_eq, congrArg Int.ofNat hbegan.tokenColumn_eq⟩
  | lineBreak hnext _ _ ih =>
    have hover := hinv.next hs
    rw [hnext] at hover
    exact ih hover.keeps

/-- What every step of a scan keeps is kept by moving on. -/
theorem steady_advance (hinv : Steady inv) (h : inv c.scanner) : inv c.advance.2.scanner := by
  obtain ⟨result, t, queue', met, hfetches, hadvance⟩ := exists_fetch c.scanner c.queue
  rw [hadvance c rfl rfl]
  obtain ⟨-, hscans | ⟨entry, -, rfl, rfl⟩⟩ := hfetches.scans_or_mem
  · cases result <;> exact (hscans.landed hinv h).keeps
  · exact h

theorem steady_skipLine (hinv : Steady inv) (h : inv c.scanner) : inv c.skipLine.2.scanner := by
  rw [skipLine_eq]
  exact (hinv.skipLine h).1

theorem steady_recoverBackup (hinv : Steady inv) (h : inv c.scanner)
    {result : Except ScanError Unit} (hrecover : c.recoverBackup = .ok (result, c')) :
    inv c'.scanner := by
  obtain ⟨b, -, ⟨-, rfl⟩ | ⟨-, rfl⟩⟩ := of_recoverBackup hrecover
  · exact h
  · exact steady_advance hinv h

theorem grown_advance (c : Cursor) : Grown c.scanner c.advance.2.scanner :=
  steady_advance (steady_grown c.scanner) (.refl _)

theorem grown_skipLine (c : Cursor) : Grown c.scanner c.skipLine.2.scanner :=
  steady_skipLine (steady_grown c.scanner) (.refl _)

theorem grown_recoverBackup {result : Except ScanError Unit}
    (hrecover : c.recoverBackup = .ok (result, c')) : Grown c.scanner c'.scanner :=
  steady_recoverBackup (steady_grown c.scanner) (.refl _) hrecover

theorem of_map_eq_error {ε α β : Type} {f : α → β} {result : Except ε α} {e : ε}
    (h : result.map f = .error e) : result = .error e := by
  cases result with
  | ok a => cases h
  | error e' => exact congrArg Except.error (Except.error.inj h)

/-- An error of the scanner is at its place. -/
theorem advance_error {e : ScanError} (h : c.advance.1 = .error e) :
    c.advance.2.scanner.rest ≠ [] ∧ ∃ fault, e = c.advance.2.scanner.errorAt fault := by
  obtain ⟨result, t, queue', met, hfetches, hadvance⟩ := exists_fetch c.scanner c.queue
  rw [hadvance c rfl rfl] at h ⊢
  obtain rfl : result = .error e := h
  obtain ⟨-, hscans | ⟨entry, -, hresult, -⟩⟩ := hfetches.scans_or_mem
  · exact (hscans.landed (steady_grown c.scanner) (.refl _)).failed e rfl
  · cases hresult

theorem skipLine_error {e : ScanError} (h : c.skipLine.1 = .error e) :
    c.skipLine.2.scanner.rest ≠ [] ∧ ∃ fault, e = c.skipLine.2.scanner.errorAt fault := by
  rw [skipLine_eq] at h ⊢
  exact ((steady_grown c.scanner).skipLine (.refl _)).2 e (of_map_eq_error h)

theorem recoverBackup_error {e : ScanError} (h : c.recoverBackup = .ok (.error e, c')) :
    c'.scanner.rest ≠ [] ∧ ∃ fault, e = c'.scanner.errorAt fault := by
  obtain ⟨b, -, ⟨hresult, -⟩ | ⟨hresult, rfl⟩⟩ := of_recoverBackup h
  · cases hresult
  · exact advance_error (of_map_eq_error hresult.symm)

/-! ## Entries -/

/-- Every entry has the property when it is scanned, and it keeps it while the scanner reads on. -/
structure Lasting (inv : Scanner → Prop) (kept : Scanner → Entry → Prop) : Prop where
  steady : Steady inv
  scanned : ∀ {s t entry}, inv s → Scans s (.ok entry) t → kept t entry
  grown : ∀ {s t entry}, kept s entry → Grown s t → kept t entry

/-- Every entry that the cursor holds, be it current, queued or recorded, has the property. -/
structure Holds (inv : Scanner → Prop) (kept : Scanner → Entry → Prop) (c : Cursor) : Prop where
  scanner : inv c.scanner
  current : ∀ entry, c.current = some entry → kept c.scanner entry
  queue : ∀ entry ∈ c.queue, kept c.scanner entry
  backup : ∀ b, c.backup = some b → ∀ entry ∈ b.entries, kept c.scanner entry

namespace Holds

/-- Nothing has been read yet. -/
theorem start (h : inv s) : Holds inv kept { scanner := s } :=
  ⟨h, nofun, List.forall_mem_nil _, nofun⟩

theorem inject (h : Holds inv kept c) {entries : List Entry}
    (hentries : ∀ entry ∈ entries, kept c.scanner entry) : Holds inv kept (c.inject entries) :=
  ⟨h.scanner, h.current, fun entry hentry =>
    (List.mem_append.1 hentry).elim (hentries entry) (h.queue entry), h.backup⟩

/-- Without its backup, or with one that has recorded the current entry. -/
theorem withBackup (h : Holds inv kept c) {backup : Option Backup}
    (hbackup : ∀ b, backup = some b → ∀ entry ∈ b.entries, kept c.scanner entry) :
    Holds inv kept { c with backup } := ⟨h.scanner, h.current, h.queue, hbackup⟩

theorem startBackup (h : Holds inv kept c) {guarded : Bool}
    (hstart : c.startBackup guarded = .ok c') : Holds inv kept c' := by
  obtain ⟨-, rfl⟩ := of_startBackup hstart
  refine h.withBackup fun b hb entry hentry => ?_
  obtain rfl := Option.some.inj hb
  exact h.current entry (by simpa using hentry)

theorem discardBackup (h : Holds inv kept c) (hdiscard : c.discardBackup = .ok c') :
    Holds inv kept c' := by
  obtain rfl := of_discardBackup hdiscard
  exact h.withBackup nofun

/-- What becomes current is recorded. -/
theorem arrive (h : Holds inv kept c) (hentry : kept c.scanner entry) :
    Holds inv kept (c.arrive entry) := by
  refine ⟨h.scanner, ?_, h.queue, ?_⟩
  · intro entry' heq
    obtain rfl := Option.some.inj heq
    exact hentry
  · intro b hb entry' hmem
    obtain ⟨b, hbackup, rfl⟩ := Option.map_eq_some_iff.1 hb
    rcases Array.mem_push.1 hmem with hmem | rfl
    · exact h.backup b hbackup entry' hmem
    · exact hentry

/-- A cursor whose scanner has read on. -/
theorem grown (h : Holds inv kept c) (hkept : Lasting inv kept) (met : Bool) (ht : inv t)
    (hgrown : Grown c.scanner t) (hqueue : queue ⊆ c.queue) :
    Holds inv kept { c with scanner := t, queue := queue, metNewline := met } :=
  ⟨ht, fun entry hentry => hkept.grown (h.current entry hentry) hgrown,
    fun entry hentry => hkept.grown (h.queue entry (hqueue hentry)) hgrown,
    fun b hb entry hentry => hkept.grown (h.backup b hb entry hentry) hgrown⟩

theorem advance (h : Holds inv kept c) (hkept : Lasting inv kept) :
    Holds inv kept c.advance.2 := by
  have hscanner := steady_advance hkept.steady h.scanner
  have hgrown := grown_advance c
  obtain ⟨result, t, queue', met, hfetches, hadvance⟩ := exists_fetch c.scanner c.queue
  rw [hadvance c rfl rfl] at hscanner hgrown ⊢
  obtain ⟨hqueue, horigin⟩ := hfetches.scans_or_mem
  cases result with
  | error e => exact h.grown hkept met hscanner hgrown hqueue
  | ok entry =>
    refine (h.grown hkept met hscanner hgrown hqueue).arrive ?_
    obtain hscans | ⟨entry', hentry, heq, rfl⟩ := horigin
    · exact hkept.scanned h.scanner hscans
    · obtain rfl := Except.ok.inj heq
      exact h.queue entry hentry

theorem skipLine (h : Holds inv kept c) (hkept : Lasting inv kept) :
    Holds inv kept c.skipLine.2 := by
  have hscanner := steady_skipLine hkept.steady h.scanner
  have hgrown := grown_skipLine c
  rw [skipLine_eq] at hscanner hgrown ⊢
  exact h.grown hkept c.metNewline hscanner hgrown (List.Subset.refl _)

/-- What has been recorded is read once more. -/
theorem recoverBackup (h : Holds inv kept c) (hkept : Lasting inv kept)
    {result : Except ScanError Unit} (hrecover : c.recoverBackup = .ok (result, c')) :
    Holds inv kept c' := by
  have hclosed : Holds inv kept { c with backup := none } := h.withBackup nofun
  obtain ⟨b, hbackup, ⟨-, rfl⟩ | ⟨-, rfl⟩⟩ := of_recoverBackup hrecover
  · exact hclosed
  · refine (hclosed.inject fun entry hentry => ?_).advance hkept
    exact h.backup b hbackup entry (Array.mem_toList_iff.1 hentry)

end Holds

end ServiceSyntax.Cursor
