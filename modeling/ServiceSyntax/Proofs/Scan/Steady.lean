import ServiceSyntax.Proofs.Scan.Course

/-!
# What a scan keeps

A scan does four things to its scanner: it marks a place, it notes a line break, it consumes a
character and it takes up a line. What these four keep (`Steady`) holds behind every scan
(`Steady.next`), for every source and in layout mode as well as outside it, and so it held where
the token began. What depends on the state of the automaton is carried along (`Steady.next_spec`).
Dropping a line keeps it too (`Steady.skipLine`). Lines only ever move from those
not looked at to those retained, which is one such property (`Grown`).
-/

namespace ServiceSyntax.Scanner

open Scan

variable {s t u : Scanner} {state : State} {lexeme : String} {c : Char} {rest : List Char}
  {inv inv' : Scanner → Prop} {marked marked' : Prop}

/-- Taking up a line retains it; where it is broken the characters before its first defect count as
consumed. -/
theorem exists_load (s : Scanner) (line : SourceLine) (unread : Source) :
    ∃ consumed rest, line.chars = consumed ++ rest ∧ (rest = [] → line.chars = []) ∧
      (s.load line unread).2
        = { s with
            unread, retained := s.retained.push (String.ofList line.chars), rest
            column := consumed.length } := by
  cases line with
  | sound chars => exact ⟨[], chars, rfl, id, rfl⟩
  | broken valid byte others =>
    exact ⟨valid, Text.Utf8.replacement :: others, rfl, nofun, rfl⟩

/-- Every step of a scan keeps the property. -/
structure Steady (inv : Scanner → Prop) : Prop where
  markToken : ∀ s, inv s → inv s.markToken
  note : ∀ s met, inv s → inv { s with metNewline := met }
  advance : ∀ s c rest, s.rest = c :: rest → inv s → inv (s.advance c rest)
  load : ∀ s line unread, s.rest = [] → s.unread = line :: unread → inv s →
    inv (s.load line unread).2

theorem Steady.and (h : Steady inv) (h' : Steady inv') : Steady fun s => inv s ∧ inv' s where
  markToken s hs := ⟨h.markToken s hs.1, h'.markToken s hs.2⟩
  note s met hs := ⟨h.note s met hs.1, h'.note s met hs.2⟩
  advance s c rest hrest hs := ⟨h.advance s c rest hrest hs.1, h'.advance s c rest hrest hs.2⟩
  load s line unread hrest hunread hs :=
    ⟨h.load s line unread hrest hunread hs.1, h'.load s line unread hrest hunread hs.2⟩

/-! ## Lines move -/

/-- The second scanner has read on in the same source. -/
structure Grown (s t : Scanner) : Prop where
  source_eq : t.source = s.source
  exists_read : ∃ read : Source, s.unread = read ++ t.unread ∧
    t.retained.toList = s.retained.toList ++ read.map fun line => String.ofList line.chars

theorem Grown.refl (s : Scanner) : Grown s s := ⟨rfl, [], by simp⟩

theorem Grown.trans (h : Grown s t) (h' : Grown t u) : Grown s u := by
  obtain ⟨read, hunread, hretained⟩ := h.exists_read
  obtain ⟨read', hunread', hretained'⟩ := h'.exists_read
  refine ⟨h'.source_eq.trans h.source_eq, read ++ read', ?_, ?_⟩
  · rw [hunread, hunread', List.append_assoc]
  · rw [hretained', hretained, List.map_append, List.append_assoc]

/-- A step that takes up no line. -/
theorem Grown.of_eq (hsource : t.source = s.source) (hunread : t.unread = s.unread)
    (hretained : t.retained = s.retained) : Grown s t :=
  ⟨hsource, [], by simp [hunread], by simp [hretained]⟩

/-- Taking up a line, whether it is broken or not. -/
theorem Grown.load {line : SourceLine} {unread : Source} (hunread : s.unread = line :: unread) :
    Grown s (s.load line unread).2 := by
  obtain ⟨consumed, rest, -, -, hload⟩ := exists_load s line unread
  rw [hload]
  exact ⟨rfl, [line], hunread, by simp⟩

/-- What has been read of a source is what is no longer unread. -/
theorem Grown.unread_eq (h : Grown s t) (hretained : s.retained = #[]) :
    t.unread = s.unread.drop t.retained.size := by
  obtain ⟨read, hunread, hread⟩ := h.exists_read
  have hsize : t.retained.size = read.length := by
    rw [← Array.length_toList, hread, hretained]
    simp
  rw [hunread, hsize, List.drop_left]

/-- Where no line has been taken up none has been retained. -/
theorem Grown.retained_eq_of_unread (h : Grown s t) (hunread : t.unread = s.unread) :
    t.retained = s.retained := by
  obtain ⟨read, hread, hretained⟩ := h.exists_read
  rw [hunread] at hread
  obtain rfl : read = [] := List.self_eq_append_left.1 hread
  exact Array.toList_inj.1 (by simpa using hretained)

/-- Behind the end of the source nothing is left to be retained. -/
theorem Grown.retained_eq (h : Grown s t) (hunread : s.unread = []) :
    t.retained = s.retained := by
  obtain ⟨read, hread, -⟩ := h.exists_read
  rw [hunread] at hread
  have hnil := (List.append_eq_nil_iff.1 hread.symm).2
  exact h.retained_eq_of_unread (hnil.trans hunread.symm)

theorem Grown.size_le (h : Grown s t) : s.retained.size ≤ t.retained.size := by
  obtain ⟨read, -, hretained⟩ := h.exists_read
  have hsize := congrArg List.length hretained
  rw [List.length_append, Array.length_toList, Array.length_toList] at hsize
  omega

theorem steady_grown (s : Scanner) : Steady (Grown s) where
  markToken _ h := h.trans (.of_eq rfl rfl rfl)
  note _ _ h := h.trans (.of_eq rfl rfl rfl)
  advance _ _ _ _ h := h.trans (.of_eq rfl rfl rfl)
  load _ _ _ _ hunread h := h.trans (.load hunread)

/-- The second scanner comes from the first one by steps of a scan, so it has what they keep. -/
def Follows (s t : Scanner) : Prop := ∀ inv, Steady inv → inv s → inv t

theorem follows_markToken (s : Scanner) : Follows s s.markToken :=
  fun _ hinv hs => hinv.markToken s hs

theorem follows_advance (hrest : s.rest = c :: rest) : Follows s (s.advance c rest) :=
  fun _ hinv hs => hinv.advance s c rest hrest hs

theorem follows_load {line : SourceLine} {unread : Source} (hrest : s.rest = [])
    (hunread : s.unread = line :: unread) : Follows s (s.load line unread).2 :=
  fun _ hinv hs => hinv.load s line unread hrest hunread hs

theorem follows_note (s : Scanner) (met : Bool) : Follows s { s with metNewline := met } :=
  fun _ hinv hs => hinv.note s met hs

theorem Follows.trans (h : Follows s t) (h' : Follows t u) : Follows s u :=
  fun inv hinv hs => h' inv hinv (h inv hinv hs)

theorem Follows.grown (h : Follows s t) : Grown s t := h _ (steady_grown s) (.refl s)

/-! ## On the way -/

/-- The token of the second scanner begins where the first one stands. -/
structure Began (u t : Scanner) : Prop extends Grown u t where
  follows : Follows u t
  tokenLine_eq : t.tokenLine = u.markToken.tokenLine
  tokenColumn_eq : t.tokenColumn = u.markToken.tokenColumn

/-- A scanner in the middle of a scan; `marked` says that a token or a comment has begun. -/
structure Going (inv : Scanner → Prop) (marked : Prop) (t : Scanner) : Prop where
  keeps : inv t
  began : marked → ∃ u, inv u ∧ u.rest ≠ [] ∧ Began u t

/-- How a scan ends: with an error at the place of the scanner, or with a token. A line break is a
token in layout mode only, in front of its line feed or right behind the end of a comment, and the
end of the file is one, without content, only at the end of the source. -/
structure Over (inv : Scanner → Prop) (result : Except ScanError Token) (t : Scanner) : Prop where
  keeps : inv t
  failed : ∀ e, result = .error e → t.rest ≠ [] ∧ ∃ fault, e = t.errorAt fault
  layout_eq : ∀ token, result = .ok token → token.kind = .newline → t.layout = true
  ended : ∀ token, result = .ok token → token.kind = .endOfFile →
    token = ⟨.endOfFile, ""⟩ ∧ t.rest = [] ∧ t.unread = []
  began : ∀ token, result = .ok token → token.kind ≠ .newline →
    ∃ u, inv u ∧ Began u t ∧ (u.rest = [] → u.unread = [] ∧ token.kind = .endOfFile)
  broke : ∀ token, result = .ok token → token.kind = .newline →
    ∃ u c rest, inv u ∧ u.rest = c :: rest ∧ (Began u t ∨ c ≠ '\n' ∧ Began (u.advance c rest) t)

theorem began_markToken (t : Scanner) : Began t t.markToken :=
  ⟨.of_eq rfl rfl rfl, follows_markToken t, rfl, rfl⟩

/-- An error is at the place of the scanner. -/
theorem over_error {e : ScanError} (hkeeps : inv t)
    (hfailed : t.rest ≠ [] ∧ ∃ fault, e = t.errorAt fault) : Over inv (.error e) t := by
  have hno {token : Token} : (.error e : Except ScanError Token) ≠ .ok token := nofun
  exact ⟨hkeeps, fun _ heq => Except.error.inj heq ▸ hfailed, fun _ heq => absurd heq hno,
    fun _ heq => absurd heq hno, fun _ heq => absurd heq hno, fun _ heq => absurd heq hno⟩

/-- A line break that is a token. -/
theorem over_newline (hkeeps : inv t) (hlayout : t.layout = true)
    (hbroke : ∃ u c rest, inv u ∧ u.rest = c :: rest ∧
      (Began u t ∨ c ≠ '\n' ∧ Began (u.advance c rest) t)) :
    Over inv (.ok ⟨.newline, ""⟩) t := by
  refine ⟨hkeeps, nofun, fun _ _ _ => hlayout, ?_, ?_, fun _ _ _ => hbroke⟩
  · intro token heq hfile
    obtain rfl := Except.ok.inj heq
    cases hfile
  · intro token heq hkind
    obtain rfl := Except.ok.inj heq
    exact absurd rfl hkind

/-- The character that closes a block comment is no line feed, and nothing has been marked. -/
theorem closes_of_step (s : Scanner) (rest : List Char) {look : Step}
    (hstep : step state (some c) lexeme = .ok look)
    (hnext : look.next = .start) (hcomment : state.inBlockComment = true) :
    c ≠ '\n' ∧ s.looked state c rest look = { s.advance c rest with
      metNewline := s.metNewline || isNoted state c } := by
  have hstart : state ≠ .start := by
    rintro rfl
    cases hcomment
  by_cases hslash : state = .blockCommentStar ∧ c = '/'
  · obtain ⟨rfl, rfl⟩ := hslash
    obtain rfl := Except.ok.inj hstep
    refine ⟨by decide, ?_⟩
    simp only [looked, noted, if_neg (not_and_of_not_left _ hstart), if_true]
    rfl
  · -- any other character leads on inside the comment
    cases state <;> simp only [State.inBlockComment, Bool.false_eq_true] at hcomment
    all_goals
      obtain rfl := Except.ok.inj hstep
      grind

/-- A step that leaves the mark alone. -/
theorem Began.of_follows (h : Began u s) (hfollows : Follows s t)
    (hline : t.tokenLine = s.tokenLine) (hcolumn : t.tokenColumn = s.tokenColumn) : Began u t :=
  ⟨h.toGrown.trans hfollows.grown, h.follows.trans hfollows, hline.trans h.tokenLine_eq,
    hcolumn.trans h.tokenColumn_eq⟩

namespace Going

theorem mono (h : Going inv marked t) (hmarked : marked' → marked) : Going inv marked' t :=
  ⟨h.keeps, h.began ∘ hmarked⟩

theorem of_follows (h : Going inv marked s) (hinv : Steady inv) (hfollows : Follows s t)
    (hline : t.tokenLine = s.tokenLine) (hcolumn : t.tokenColumn = s.tokenColumn) :
    Going inv marked t := by
  refine ⟨hfollows inv hinv h.keeps, fun hm => ?_⟩
  obtain ⟨u, hu, hrest, hbegan⟩ := h.began hm
  exact ⟨u, hu, hrest, hbegan.of_follows hfollows hline hcolumn⟩

/-- The first character of a token or of a comment is marked. -/
theorem opened (h : Going inv (state ≠ .start) t) (hinv : Steady inv) (hrest : t.rest = c :: rest) :
    Going inv (state ≠ .start ∨ isSeparator c = false)
      (if state = .start ∧ !isSeparator c then t.markToken else t) := by
  split
  · have hne : t.rest ≠ [] := by simp [hrest]
    exact ⟨hinv.markToken t h.keeps, fun _ => ⟨t, h.keeps, hne, began_markToken t⟩⟩
  · exact h.mono (by grind)

theorem looked (h : Going inv (state ≠ .start) t) (hinv : Steady inv) (hrest : t.rest = c :: rest)
    (look : Step) :
    Going inv (state ≠ .start ∨ isSeparator c = false) (t.looked state c rest look) := by
  have hopened := h.opened hinv hrest
  have hrest' : (if state = .start ∧ !isSeparator c then t.markToken else t).rest = c :: rest := by
    split <;> exact hrest
  unfold Scanner.looked
  generalize (if state = .start ∧ !isSeparator c then t.markToken else t) = m at hopened hrest'
  have hconsumed : Going inv (state ≠ .start ∨ isSeparator c = false)
      (if look.consume then m.advance c rest else m) := by
    split
    · exact hopened.of_follows hinv (follows_advance hrest') rfl rfl
    · exact hopened
  exact hconsumed.of_follows hinv (follows_note _ _) rfl rfl

/-- A character completes a token, or it stops the scan, or the scan goes on. In layout mode a line
feed between tokens is a token. -/
theorem readChar (h : Going inv (state ≠ .start) t) (hinv : Steady inv)
    (hrest : t.rest = c :: rest) :
    (t.readChar state lexeme c rest).Leads (fun state _ u => Going inv (state ≠ .start) u)
      (Over inv) := by
  have hsettled : Going inv (state.settled (some c) ≠ .start) t :=
    h.mono (by unfold State.settled; grind)
  refine readChar_spec ?newline ?failed ?emitted ?comment ?onward
  case newline =>
    intro hlayout _
    have hmarked : Follows t ({ t with metNewline := true } : Scanner).markToken :=
      (follows_note t true).trans (follows_markToken _)
    have hfollows := hmarked.trans (follows_advance (c := c) hrest)
    exact over_newline (hfollows inv hinv h.keeps) hlayout
      ⟨t, c, rest, h.keeps, hrest, Or.inl ⟨.of_eq rfl rfl rfl, hfollows, rfl, rfl⟩⟩
  case failed =>
    intro e _
    exact over_error h.keeps ⟨by simp [hrest], .malformedEscape, rfl⟩
  case emitted =>
    intro look token hstep hemit
    -- only a token that has been marked is emitted, and it is no line break
    have hlooked := hsettled.looked hinv hrest look
    obtain ⟨hkind, hend⟩ := kind_of_emit hstep hemit
    refine ⟨hlooked.keeps, ?_, ?_, ?_, ?_, ?_⟩
    · intro e heq
      cases heq
    · intro token' heq hnewline
      exact absurd hnewline (Except.ok.inj heq ▸ hkind)
    · intro token' heq hfile
      exact absurd hfile (Except.ok.inj heq ▸ hend (by simp))
    · intro token' _ _
      obtain ⟨u, hu, hne, hbegan⟩ :=
        hlooked.began (marked_of_step hstep (Or.inl (by simp [hemit])))
      exact ⟨u, hu, hbegan, fun hnil => absurd hnil hne⟩
    · intro token' heq hnewline
      exact absurd hnewline (Except.ok.inj heq ▸ hkind)
  case comment =>
    intro look hstep hnext hcomment hlayout
    -- a comment that spans lines is a line break in layout mode
    have hlooked := hsettled.looked hinv hrest look
    obtain ⟨hc, hm⟩ := closes_of_step t rest hstep hnext hcomment
    generalize t.looked _ c rest look = m at hlooked hm hlayout
    have hbegan : Began (t.advance c rest) m.markToken := by
      rw [hm]
      exact ⟨.of_eq rfl rfl rfl, (follows_note _ _).trans (follows_markToken _), rfl, rfl⟩
    exact over_newline (hinv.markToken m hlooked.keeps) hlayout
      ⟨t, c, rest, h.keeps, hrest, Or.inr ⟨hc, hbegan⟩⟩
  case onward =>
    intro look hstep _
    exact (hsettled.looked hinv hrest look).mono fun hnext => marked_of_step hstep (Or.inr hnext)

/-- At the end of the source the scan is over. -/
theorem finish (h : Going inv (state ≠ .start) t) (hinv : Steady inv) (hrest : t.rest = [])
    (hunread : t.unread = []) (lexeme : String) :
    Over inv (t.finish state lexeme).1 (t.finish state lexeme).2 := by
  obtain ⟨token, hkind, hend, hfinish⟩ := exists_finish state lexeme
  rw [hfinish]
  have hlayout : ∀ token', Except.ok token = (.ok token' : Except ScanError Token) →
      token'.kind = .newline → False := by
    intro token' heq hnewline
    exact hkind (Except.ok.inj heq ▸ hnewline)
  have hended : ∀ token', Except.ok token = (.ok token' : Except ScanError Token) →
      token'.kind = .endOfFile → token' = ⟨.endOfFile, ""⟩ ∧ t.rest = [] ∧ t.unread = [] := by
    intro token' heq hfile
    have hfst := (congrArg Prod.fst (hfinish t)).trans heq
    exact ⟨endOfFile_of_finish hfst hfile, hrest, hunread⟩
  by_cases hset : state.settled none = .start
  · -- nothing has begun, so the token is the end of the file
    rw [if_pos hset]
    refine ⟨hinv.markToken t h.keeps, nofun, fun token' heq hn => (hlayout token' heq hn).elim,
      hended, ?_, fun token' heq hn => (hlayout token' heq hn).elim⟩
    intro token' heq _
    obtain rfl := Except.ok.inj heq
    exact ⟨t, h.keeps, began_markToken t, fun _ => ⟨hunread, hend.2 hset⟩⟩
  · rw [if_neg hset]
    have hstart : state ≠ .start := by
      rintro rfl
      exact hset rfl
    refine ⟨h.keeps, nofun, fun token' heq hn => (hlayout token' heq hn).elim, hended,
      fun _ _ _ => ?_, fun token' heq hn => (hlayout token' heq hn).elim⟩
    obtain ⟨u, hu, hne, hbegan⟩ := h.began hstart
    exact ⟨u, hu, hbegan, fun hnil => absurd hnil hne⟩

end Going

/-! ## Whole scans -/

/-- A line that cannot be taken up leaves the scanner at its first defect. -/
theorem of_load_error {line : SourceLine} {unread : Source} {e : ScanError}
    (h : (s.load line unread).1 = .error e) : (s.load line unread).2.rest ≠ [] ∧
      ∃ fault, e = (s.load line unread).2.errorAt fault := by
  cases line with
  | sound chars => cases h
  | broken valid byte others =>
    exact ⟨List.cons_ne_nil _ _, .invalidByte byte (Text.Utf8.byteCount valid),
      (Except.error.inj h).symm⟩

/-- What every step keeps holds behind a scan and where its token began. With it holds whatever is
kept of the state of the automaton and of the lexeme, too. -/
theorem Steady.next_spec (h : Steady inv) (hs : inv s) (kept : State → String → Scanner → Prop)
    (post : Except ScanError Token → Scanner → Prop)
    (start : kept .start "" { s with metNewline := false })
    (character : ∀ t state lexeme c rest, inv t → t.rest = c :: rest → kept state lexeme t →
      (t.readChar state lexeme c rest).Leads kept post)
    (sound : ∀ t state lexeme chars unread, inv t → t.rest = [] →
      t.unread = .sound chars :: unread → kept state lexeme t →
      kept state lexeme (t.taken chars unread))
    (broken : ∀ t valid byte others unread e u, inv t → t.rest = [] →
      t.unread = .broken valid byte others :: unread →
      t.load (.broken valid byte others) unread = (.error e, u) → post (.error e) u)
    (ended : ∀ t state lexeme, inv t → t.rest = [] → t.unread = [] → kept state lexeme t →
      post (t.finish state lexeme).1 (t.finish state lexeme).2) :
    Over inv s.next.1 s.next.2 ∧ post s.next.1 s.next.2 := by
  rw [next_eq_resume]
  refine resume_spec (fun state lexeme t => Going inv (state ≠ .start) t ∧ kept state lexeme t)
    (fun result t => Over inv result t ∧ post result t)
    ?character ?sound ?broken ?ended ⟨⟨h.note s false hs, absurd rfl⟩, start⟩
  case character =>
    intro t state lexeme c rest hrest hgoing
    exact (hgoing.1.readChar h hrest).and
      (character t state lexeme c rest hgoing.1.keeps hrest hgoing.2)
  case sound =>
    intro t state lexeme chars unread hrest hunread hgoing
    exact ⟨hgoing.1.of_follows h (follows_load hrest hunread) rfl rfl,
      sound t state lexeme chars unread hgoing.1.keeps hrest hunread hgoing.2⟩
  case broken =>
    intro t state lexeme valid byte others unread e u hrest hunread hgoing hload
    have hkeeps := h.load t _ unread hrest hunread hgoing.1.keeps
    have hfailed := of_load_error (congrArg Prod.fst hload)
    rw [hload] at hkeeps hfailed
    exact ⟨over_error hkeeps hfailed,
      broken t valid byte others unread e u hgoing.1.keeps hrest hunread hload⟩
  case ended =>
    intro t state lexeme hrest hunread hgoing
    exact ⟨hgoing.1.finish h hrest hunread lexeme,
      ended t state lexeme hgoing.1.keeps hrest hunread hgoing.2⟩

/-- Nothing but what every step keeps. -/
theorem Steady.next (h : Steady inv) (hs : inv s) : Over inv s.next.1 s.next.2 := by
  refine (h.next_spec hs (fun _ _ _ => True) (fun _ _ => True) trivial ?_ ?_ ?_ ?_).1
  · intro t state lexeme c rest _ _ _
    cases t.readChar state lexeme c rest <;> trivial
  · exact fun _ _ _ _ _ _ _ _ _ => trivial
  · exact fun _ _ _ _ _ _ _ _ _ _ _ => trivial
  · exact fun _ _ _ _ _ _ _ => trivial

theorem Steady.next_error {e : ScanError} (h : Steady inv) (hs : inv s)
    (hnext : s.next = (.error e, t)) : inv t ∧ t.rest ≠ [] ∧ ∃ fault, e = t.errorAt fault := by
  have hover := h.next hs
  rw [hnext] at hover
  exact ⟨hover.keeps, hover.failed e rfl⟩

/-! ## Recovery -/

theorem skipChars_rest (s : Scanner) (skipped : Nat) (hrest : s.rest = rest) :
    (s.skipChars skipped rest).2.2.unread = s.unread ∧
      ((s.skipChars skipped rest).2.1 = false → (s.skipChars skipped rest).2.2.rest = []) := by
  induction rest generalizing s skipped with
  | nil => exact ⟨rfl, fun _ => hrest⟩
  | cons c rest ih =>
    rw [skipChars]
    split
    · exact ⟨rfl, fun hmet => by cases hmet⟩
    · exact ih (s.advance c rest) (skipped + 1) rfl

theorem Steady.skipChars (h : Steady inv) (hs : inv s) (skipped : Nat) (hrest : s.rest = rest) :
    inv (s.skipChars skipped rest).2.2 := by
  induction rest generalizing s skipped with
  | nil => exact hs
  | cons c rest ih =>
    have hadvance := h.advance s c rest hrest hs
    rw [Scanner.skipChars]
    split
    · exact hadvance
    · exact ih hadvance (skipped + 1) rfl

private theorem Steady.skipLines (h : Steady inv) (hs : inv s) (skipped : Nat) {unread : Source}
    (hunread : s.unread = unread) :
    inv (s.skipLines skipped unread).2 ∧ ∀ e, (s.skipLines skipped unread).1 = .error e →
      (s.skipLines skipped unread).2.rest ≠ [] ∧
        ∃ fault, e = (s.skipLines skipped unread).2.errorAt fault := by
  induction unread generalizing s skipped with
  | nil =>
    have hskip := h.skipChars hs skipped rfl
    rw [Scanner.skipLines]
    split
    · rename_i heq
      rw [heq] at hskip
      exact ⟨hskip, fun _ heq => by cases heq⟩
    · rename_i heq
      rw [heq] at hskip
      exact ⟨hskip, fun _ heq => by cases heq⟩
  | cons line unread ih =>
    have hskip := h.skipChars hs skipped rfl
    obtain ⟨hsame, hover⟩ := skipChars_rest s skipped rfl
    rw [Scanner.skipLines]
    cases hchars : s.skipChars skipped s.rest with
    | mk n found =>
      obtain ⟨met, t⟩ := found
      rw [hchars] at hskip hsame hover
      cases met with
      | true => exact ⟨hskip, fun _ heq => by cases heq⟩
      | false =>
        have hload := h.load t line unread (hover rfl) (hsame.trans hunread) hskip
        cases line with
        | sound chars => exact ih hload n rfl
        | broken valid byte others =>
          refine ⟨hload, fun e heq => ?_⟩
          have hfault : (t.load (.broken valid byte others) unread).1 = .error e :=
            congrArg Except.error (Except.error.inj heq)
          exact of_load_error hfault

/-- What every step keeps holds behind a line that has been dropped. An error on the way is at the
place of the scanner. -/
theorem Steady.skipLine (h : Steady inv) (hs : inv s) :
    inv s.skipLine.2 ∧ ∀ e, s.skipLine.1 = .error e →
      s.skipLine.2.rest ≠ [] ∧ ∃ fault, e = s.skipLine.2.errorAt fault :=
  h.skipLines hs 0 rfl

end ServiceSyntax.Scanner
