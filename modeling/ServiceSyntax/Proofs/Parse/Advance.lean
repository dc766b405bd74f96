import ServiceSyntax.Parse.Cursor

/-!
# Moving a cursor

What a cursor reads depends on its scanner and its queue alone (`Fetches`), and reading leaves
everything else as it is (`exists_read`). So `advance` either makes an entry current, which is never
a line break, or it fails and keeps the current one (`exists_advance`).
-/

namespace ServiceSyntax.Cursor

variable {c : Cursor} {s : Scanner} {t : Token} {entry : Entry} {queue : List Entry}

/-! ## Reading -/

theorem scan_of_error {e : ScanError} (h : c.scanner.next = (.error e, s)) :
    c.scan = (.error e, { c with scanner := s }) := by
  rw [scan]
  split <;> simp_all

theorem scan_of_newline (h : c.scanner.next = (.ok t, s)) (ht : t.kind = .newline) :
    c.scan = scan { c with scanner := s, metNewline := true } := by
  rw [scan]
  split <;> simp_all

theorem scan_of_token (h : c.scanner.next = (.ok t, s)) (ht : t.kind ≠ .newline) :
    c.scan = (.ok (scanned s t),
      { c with scanner := s, metNewline := c.metNewline || s.metNewline }) := by
  rw [scan]
  split <;> simp_all

/-- Scans up to the first token that is no line break, or up to an error. -/
inductive Scans : Scanner → Except ScanError Entry → Scanner → Prop
  | failed {s t : Scanner} {e : ScanError} : s.next = (.error e, t) → Scans s (.error e) t
  | token {s t : Scanner} {token : Token} : s.next = (.ok token, t) → token.kind ≠ .newline →
      Scans s (.ok (scanned t token)) t
  | lineBreak {s t u : Scanner} {token : Token} {result : Except ScanError Entry} :
      s.next = (.ok token, t) → token.kind = .newline → Scans t result u → Scans s result u

/-- What is read is the first entry of the queue that is no line break or, if there is none, what
the scanner comes to. -/
inductive Fetches (s : Scanner) : List Entry → Except ScanError Entry → Scanner → List Entry → Prop
  | queued {entry : Entry} (queue : List Entry) : entry.token.kind ≠ .newline →
      Fetches s (entry :: queue) (.ok entry) s queue
  | lineBreak {entry : Entry} {queue queue' : List Entry} {result : Except ScanError Entry}
      {t : Scanner} : entry.token.kind = .newline → Fetches s queue result t queue' →
      Fetches s (entry :: queue) result t queue'
  | scanned {result : Except ScanError Entry} {t : Scanner} : Scans s result t →
      Fetches s [] result t []

theorem Scans.kind_ne {s' : Scanner} (h : Scans s (.ok entry) s') :
    entry.token.kind ≠ .newline := by
  generalize hresult : (.ok entry : Except ScanError Entry) = result at h
  induction h with
  | failed => cases hresult
  | token _ hkind =>
    obtain rfl := Except.ok.inj hresult
    exact hkind
  | lineBreak _ _ _ ih => exact ih hresult

theorem Fetches.kind_ne {s' : Scanner} {queue' : List Entry}
    (h : Fetches s queue (.ok entry) s' queue') : entry.token.kind ≠ .newline := by
  generalize hresult : (.ok entry : Except ScanError Entry) = result at h
  induction h with
  | queued _ hkind =>
    obtain rfl := Except.ok.inj hresult
    exact hkind
  | lineBreak _ _ ih => exact ih hresult
  | scanned hscans => exact (hresult ▸ hscans).kind_ne

/-- What is read has been queued, or the scanner has come to it. -/
theorem Fetches.scans_or_mem {result : Except ScanError Entry}
    {s' : Scanner} {queue' : List Entry} (h : Fetches s queue result s' queue') :
    queue' ⊆ queue ∧ (Scans s result s' ∨ ∃ entry ∈ queue, result = .ok entry ∧ s' = s) := by
  induction h with
  | @queued entry queue hkind =>
    exact ⟨List.subset_cons_self entry queue, Or.inr ⟨entry, List.mem_cons_self, rfl, rfl⟩⟩
  | lineBreak _ _ ih =>
    obtain ⟨hsubset, hscans | ⟨entry, hentry, hresult⟩⟩ := ih
    · exact ⟨List.subset_cons_of_subset _ hsubset, Or.inl hscans⟩
    · exact ⟨List.subset_cons_of_subset _ hsubset,
        Or.inr ⟨entry, List.mem_cons_of_mem _ hentry, hresult⟩⟩
  | scanned hscans => exact ⟨List.Subset.refl [], Or.inl hscans⟩

/-- Scanning moves the scanner only. -/
theorem exists_scan (s : Scanner) :
    ∃ result s' met, Scans s result s' ∧ ∀ c : Cursor, c.scanner = s →
      c.scan = (result, { c with scanner := s', metNewline := c.metNewline || met }) := by
  induction hpending : s.pending using Nat.strongRecOn generalizing s with
  | _ n ih =>
    cases hnext : s.next with
    | mk result s₁ =>
      cases result with
      | error e =>
        refine ⟨.error e, s₁, false, .failed hnext, ?_⟩
        intro c hs
        subst hs
        rw [scan_of_error hnext, Bool.or_false]
      | ok t =>
        by_cases ht : t.kind = .newline
        · -- a line break is no end of the file, so less is pending behind it
          have hne : t ≠ ⟨.endOfFile, ""⟩ := by
            intro heq
            subst heq
            cases ht
          have hlt : s₁.pending < n := by
            rw [← hpending]
            exact Scanner.pending_next_lt hnext (by simpa using hne)
          obtain ⟨result, s', met, hscans, hscan⟩ := ih s₁.pending hlt s₁ rfl
          refine ⟨result, s', true, .lineBreak hnext ht hscans, ?_⟩
          intro c hs
          subst hs
          rw [scan_of_newline hnext ht, hscan _ rfl]
          simp
        · refine ⟨.ok (scanned s₁ t), s₁, s₁.metNewline, .token hnext ht, ?_⟩
          intro c hs
          subst hs
          rw [scan_of_token hnext ht]

/-- Reading moves the scanner and the queue only. -/
theorem exists_read (s : Scanner) (queue : List Entry) :
    ∃ result s' queue' met, Fetches s queue result s' queue' ∧ ∀ c : Cursor, c.scanner = s →
      c.read queue = (result,
        { c with scanner := s', queue := queue', metNewline := c.metNewline || met }) := by
  induction queue with
  | nil =>
    obtain ⟨result, s', met, hscans, hscan⟩ := exists_scan s
    refine ⟨result, s', [], met, .scanned hscans, ?_⟩
    intro c hs
    subst hs
    rw [read]
    exact hscan { c with queue := [] } rfl
  | cons entry queue ih =>
    by_cases hentry : entry.token.kind = .newline
    · obtain ⟨result, s', queue', met, hfetches, hread⟩ := ih
      refine ⟨result, s', queue', true, .lineBreak hentry hfetches, ?_⟩
      intro c hs
      subst hs
      rw [read, if_pos hentry, hread { c with metNewline := true } rfl]
      simp
    · refine ⟨.ok entry, s, queue, entry.metNewline, .queued queue hentry, ?_⟩
      intro c hs
      subst hs
      rw [read, if_neg hentry]

/-! ## Advancing -/

/-- Makes an entry current; an open backup records it. -/
def arrive (c : Cursor) (entry : Entry) : Cursor :=
  { c with
    current := some entry
    backup := c.backup.map fun b => { b with entries := b.entries.push entry } }

/-- Advancing makes what is read current, or it fails and keeps the current entry. -/
theorem exists_fetch (s : Scanner) (queue : List Entry) :
    ∃ result s' queue' met, Fetches s queue result s' queue' ∧
      ∀ c : Cursor, c.scanner = s → c.queue = queue → c.advance = (result,
        match result with
        | .ok entry => { c with scanner := s', queue := queue', metNewline := met }.arrive entry
        | .error _ => { c with scanner := s', queue := queue', metNewline := met }) := by
  obtain ⟨result, s', queue', met, hfetches, hread⟩ := exists_read s queue
  refine ⟨result, s', queue', met, hfetches, ?_⟩
  intro c hs hqueue
  subst hs hqueue
  rw [advance, hread { c with metNewline := false } rfl]
  cases result <;> simp [arrive]

/-- Advancing makes an entry other than a line break current, or it fails and keeps the current one.
What it gives, and what is left to be read, depends on the scanner and on the queue only. -/
theorem exists_advance (s : Scanner) (queue : List Entry) :
    ∃ s' queue' met,
      (∃ e, ∀ c : Cursor, c.scanner = s → c.queue = queue →
        c.advance = (.error e, { c with scanner := s', queue := queue', metNewline := met })) ∨
      ∃ entry, entry.token.kind ≠ .newline ∧ ∀ c : Cursor, c.scanner = s → c.queue = queue →
        c.advance = (.ok entry,
          { c with scanner := s', queue := queue', metNewline := met }.arrive entry) := by
  obtain ⟨result, s', queue', met, hfetches, hadvance⟩ := exists_fetch s queue
  refine ⟨s', queue', met, ?_⟩
  cases result with
  | error e => exact Or.inl ⟨e, hadvance⟩
  | ok entry => exact Or.inr ⟨entry, hfetches.kind_ne, hadvance⟩

/-- What becomes current is recorded once. -/
theorem of_advance_entry {c' : Cursor} (h : c.advance = (.ok entry, c')) :
    c'.current = some entry ∧
      c'.backup = c.backup.map fun b => { b with entries := b.entries.push entry } := by
  obtain ⟨s', queue', met, ⟨e, hadvance⟩ | ⟨entry', -, hadvance⟩⟩ :=
    exists_advance c.scanner c.queue
  · rw [hadvance c rfl rfl] at h
    cases (Prod.mk.inj h).1
  · rw [hadvance c rfl rfl] at h
    obtain ⟨hentry, rfl⟩ := Prod.mk.inj h
    obtain rfl := Except.ok.inj hentry
    exact ⟨rfl, rfl⟩

/-- Where nothing becomes current, nothing is recorded. -/
theorem of_advance_error {c' : Cursor} {e : ScanError} (h : c.advance = (.error e, c')) :
    c'.current = c.current ∧ c'.backup = c.backup := by
  obtain ⟨s', queue', met, ⟨e', hadvance⟩ | ⟨entry, -, hadvance⟩⟩ :=
    exists_advance c.scanner c.queue
  · rw [hadvance c rfl rfl] at h
    obtain ⟨-, rfl⟩ := Prod.mk.inj h
    exact ⟨rfl, rfl⟩
  · rw [hadvance c rfl rfl] at h
    cases (Prod.mk.inj h).1

/-- Without a backup nothing is recorded. -/
theorem backup_advance (hbackup : c.backup = none) : c.advance.2.backup = none := by
  obtain ⟨s', queue', met, ⟨e, hadvance⟩ | ⟨entry, -, hadvance⟩⟩ :=
    exists_advance c.scanner c.queue
  · rw [hadvance c rfl rfl]
    exact hbackup
  · rw [hadvance c rfl rfl]
    simp [arrive, hbackup]

/-- The first entry of the queue becomes current. -/
theorem advance_cons (hqueue : c.queue = entry :: queue) (hentry : entry.token.kind ≠ .newline) :
    c.advance
      = (.ok entry, { c with queue := queue, metNewline := entry.metNewline }.arrive entry) := by
  rw [advance, hqueue, read, if_neg hentry]
  rfl

/-- Where nothing is queued the cursor reads from its scanner. -/
theorem advance_of_scan (hqueue : c.queue = []) :
    (∀ entry c', { c with metNewline := false }.scan = (.ok entry, c') →
      c.advance = (.ok entry, c'.arrive entry)) ∧
    ∀ e c', { c with metNewline := false }.scan = (.error e, c') → c.advance = (.error e, c') := by
  obtain ⟨scanner, current, met, queue, backup⟩ := c
  obtain rfl : queue = [] := hqueue
  refine ⟨fun entry c' h => ?_, fun e c' h => ?_⟩
  · rw [advance, read, h]
    rfl
  · rw [advance, read, h]

/-- The next token of the scanner becomes current. -/
theorem advance_of_token (hqueue : c.queue = []) (h : c.scanner.next = (.ok t, s))
    (ht : t.kind ≠ .newline) :
    c.advance = (.ok (scanned s t),
      { c with scanner := s, metNewline := s.metNewline }.arrive (scanned s t)) := by
  have hscan : ({ c with metNewline := false } : Cursor).scan = _ := scan_of_token h ht
  rw [Bool.false_or] at hscan
  exact (advance_of_scan hqueue).1 _ _ hscan

/-- The scanner fails, and the current token stays. -/
theorem advance_of_error {e : ScanError} (hqueue : c.queue = [])
    (h : c.scanner.next = (.error e, s)) :
    c.advance = (.error e, { c with scanner := s, metNewline := false }) :=
  (advance_of_scan hqueue).2 _ _ (scan_of_error (c := { c with metNewline := false }) h)

/-- Where no line break is a token, the entry that becomes current is the first one of the queue or,
if nothing is queued, the next one of the scanner. -/
theorem of_advance_ok {c' : Cursor} (hproper : ∀ entry ∈ c.queue, entry.token.kind ≠ .newline)
    (hscanner : ∀ token, c.scanner.next.1 = .ok token → token.kind ≠ .newline)
    (hadvance : c.advance = (.ok entry, c')) :
    (∃ others, c.queue = entry :: others ∧
      c' = { c with queue := others, metNewline := entry.metNewline }.arrive entry) ∨
    ∃ token t, c.queue = [] ∧ c.scanner.next = (.ok token, t) ∧ entry = scanned t token ∧
      c' = { c with scanner := t, metNewline := t.metNewline }.arrive entry := by
  cases hqueue : c.queue with
  | cons first others =>
    rw [advance_cons hqueue (hproper first (by simp [hqueue]))] at hadvance
    obtain ⟨hentry, rfl⟩ := Prod.mk.inj hadvance
    obtain rfl := Except.ok.inj hentry
    exact Or.inl ⟨others, rfl, rfl⟩
  | nil =>
    cases hnext : c.scanner.next with
    | mk result t =>
      rw [hnext] at hscanner
      cases result with
      | error e =>
        rw [advance_of_error hqueue hnext] at hadvance
        cases (Prod.mk.inj hadvance).1
      | ok token =>
        rw [advance_of_token hqueue hnext (hscanner token rfl)] at hadvance
        obtain ⟨hentry, rfl⟩ := Prod.mk.inj hadvance
        obtain rfl := Except.ok.inj hentry
        exact Or.inr ⟨token, t, rfl, rfl, rfl, by rw [hqueue]⟩

/-- Dropping a line moves the scanner only. -/
theorem skipLine_eq (c : Cursor) : c.skipLine
    = (c.scanner.skipLine.1.map fun _ => (), { c with scanner := c.scanner.skipLine.2 }) := by
  unfold Cursor.skipLine
  split <;> rename_i hskip <;> rw [hskip] <;> rfl

end ServiceSyntax.Cursor
