import ServiceSyntax.Scan.Source

/-!
# What a line holds

A line of a source has nothing behind its line feed, and only the last one may have none. For a
text this is the division into lines; for bytes it is kept by decoding, where no longer form and no
defect shows as a line feed (`isLine_shown`) and no character takes one up (`getLast?_shown`). So it
holds of every source, sound or broken (`ordered_ofText`, `ordered_ofBytes`).
-/

namespace ServiceSyntax

namespace Text

variable {α : Type} {isEnd : α → Bool}

/-- Nothing stands behind an item that ends the line. -/
def IsLine (isEnd : α → Bool) : List α → Prop
  | [] => True
  | x :: rest => (isEnd x = true → rest = []) ∧ IsLine isEnd rest

theorem IsLine.suffix {line rest : List α} (h : IsLine isEnd line) (hrest : rest <:+ line) :
    IsLine isEnd rest := by
  induction line with
  | nil =>
    obtain rfl := List.suffix_nil.1 hrest
    exact h
  | cons x line ih =>
    rcases List.suffix_cons_iff.1 hrest with rfl | hrest
    · exact h
    · exact ih h.2 hrest

/-- Nothing in front of a character of a line ends it. -/
theorem IsLine.eq_false_of_mem {before after : List α} {x : α}
    (h : IsLine isEnd (before ++ x :: after)) : ∀ y ∈ before, isEnd y = false := by
  induction before with
  | nil => exact List.forall_mem_nil _
  | cons y before ih =>
    refine List.forall_mem_cons.2 ⟨?_, ih h.2⟩
    rw [Bool.eq_false_iff]
    intro hend
    have hnil := h.1 hend
    simp at hnil

/-- In front of a line may stand whatever does not end it. -/
theorem IsLine.append {front line : List α} (hfront : ∀ x ∈ front, isEnd x = false)
    (h : IsLine isEnd line) : IsLine isEnd (front ++ line) := by
  induction front with
  | nil => exact h
  | cons x front ih =>
    obtain ⟨hx, hrest⟩ := List.forall_mem_cons.1 hfront
    exact ⟨fun hend => absurd (hx.symm.trans hend) Bool.false_ne_true, ih hrest⟩

/-- A line that has no end can be closed. -/
theorem IsLine.concat {line : List α} {x : α} (h : IsLine isEnd line)
    (hlast : ∀ y, line.getLast? = some y → isEnd y = false) : IsLine isEnd (line ++ [x]) := by
  refine IsLine.append ?_ ⟨fun _ => rfl, trivial⟩
  rcases List.eq_nil_or_concat line with rfl | ⟨init, y, rfl⟩
  · exact List.forall_mem_nil _
  · rw [List.concat_eq_append] at h hlast ⊢
    intro z hz
    rcases List.mem_append.1 hz with hz | hz
    · exact h.eq_false_of_mem z hz
    · obtain rfl := List.mem_singleton.1 hz
      exact hlast z List.getLast?_concat

theorem isLine_of_mem_lines {xs line : List α} (h : line ∈ lines isEnd xs) :
    IsLine isEnd line := by
  induction xs generalizing line with
  | nil => cases h
  | cons x xs ih =>
    rw [lines] at h
    split at h
    · rcases List.mem_cons.1 h with rfl | h
      · exact ⟨fun _ => rfl, trivial⟩
      · exact ih h
    · rename_i hx
      split at h
      · obtain rfl := List.mem_singleton.1 h
        exact ⟨fun _ => rfl, trivial⟩
      · rename_i first rest heq
        rw [heq] at ih
        rcases List.mem_cons.1 h with rfl | h
        · exact ⟨fun hend => absurd hend hx, ih List.mem_cons_self⟩
        · exact ih (List.mem_cons_of_mem _ h)

/-- Every line but the last one is closed by its end. -/
def Closed (isEnd : α → Bool) : List (List α) → Prop
  | [] => True
  | line :: others => (others ≠ [] → ∃ x, line.getLast? = some x ∧ isEnd x) ∧ Closed isEnd others

theorem closed_lines (isEnd : α → Bool) (xs : List α) : Closed isEnd (lines isEnd xs) := by
  induction xs with
  | nil => trivial
  | cons x xs ih =>
    rw [lines]
    split
    · rename_i hx
      exact ⟨fun _ => ⟨x, rfl, hx⟩, ih⟩
    · split
      · exact ⟨absurd rfl, trivial⟩
      · rename_i first others heq
        rw [heq] at ih
        refine ⟨fun hne => ?_, ih.2⟩
        obtain ⟨y, hlast, hy⟩ := ih.1 hne
        exact ⟨y, by rw [List.getLast?_cons, hlast]; rfl, hy⟩

theorem Closed.drop {ls : List (List α)} (h : Closed isEnd ls) (n : Nat) :
    Closed isEnd (ls.drop n) := by
  induction n generalizing ls with
  | zero => exact h
  | succ n ih =>
    cases ls with
    | nil => exact h
    | cons line others => exact ih h.2

theorem lines_of_isLine {line : List α} (h : IsLine isEnd line) (hne : line ≠ []) :
    lines isEnd line = [line] := by
  induction line with
  | nil => exact absurd rfl hne
  | cons x line ih =>
    rw [lines]
    split
    · rename_i hx
      obtain rfl := h.1 hx
      rfl
    · cases line with
      | nil => rfl
      | cons y line => rw [ih h.2 (List.cons_ne_nil _ _)]

theorem lines_append {line : List α} {x : α} (h : IsLine isEnd line)
    (hlast : line.getLast? = some x) (hx : isEnd x = true) (others : List α) :
    lines isEnd (line ++ others) = line :: lines isEnd others := by
  induction line with
  | nil => cases hlast
  | cons y line ih =>
    rw [List.cons_append, lines]
    split
    · rename_i hy
      obtain rfl := h.1 hy
      rfl
    · rename_i hy
      cases line with
      | nil =>
        obtain rfl : y = x := Option.some.inj hlast
        exact absurd hx hy
      | cons z line =>
        rw [List.getLast?_cons_cons] at hlast
        rw [ih h.2 hlast]

/-- Lines joined together are divided where they were joined. -/
theorem lines_flatten {ls : List (List α)} (hline : ∀ line ∈ ls, line ≠ [] ∧ IsLine isEnd line)
    (hclosed : Closed isEnd ls) : lines isEnd ls.flatten = ls := by
  induction ls with
  | nil => rfl
  | cons line others ih =>
    obtain ⟨⟨hne, hisLine⟩, hothers⟩ := List.forall_mem_cons.1 hline
    have hrest := ih hothers hclosed.2
    rw [List.flatten_cons]
    cases others with
    | nil => rw [List.flatten_nil, List.append_nil, lines_of_isLine hisLine hne]
    | cons next others =>
      obtain ⟨x, hlast, hx⟩ := hclosed.1 (List.cons_ne_nil _ _)
      rw [lines_append hisLine hlast hx, hrest]

theorem closed_of_forall {ls : List (List α)}
    (h : ∀ line ∈ ls, ∃ x, line.getLast? = some x ∧ isEnd x) : Closed isEnd ls := by
  induction ls with
  | nil => trivial
  | cons line others ih =>
    obtain ⟨hline, hothers⟩ := List.forall_mem_cons.1 h
    exact ⟨fun _ => hline, ih hothers⟩

/-- What stands behind the first lines has the other ones for its lines. -/
theorem lines_flatten_drop (isEnd : α → Bool) (xs : List α) (n : Nat) :
    lines isEnd ((lines isEnd xs).drop n).flatten = (lines isEnd xs).drop n := by
  refine lines_flatten (fun line hline => ?_) ((closed_lines isEnd xs).drop n)
  have hmem := List.mem_of_mem_drop hline
  exact ⟨ne_nil_of_mem_lines hmem, isLine_of_mem_lines hmem⟩

end Text

/-! ## Decoding -/

namespace Text.Utf8

theorem shown_char_ne {n : Nat} (h : n ≠ 10) : (Piece.char (Char.ofNat n)).shown ≠ '\n' := by
  intro heq
  have hnat : (Char.ofNat n).toNat = 10 := congrArg Char.toNat heq
  by_cases hvalid : n.isValidChar
  · rw [Char.ofNat, dif_pos hvalid] at hnat
    exact h hnat
  · rw [Char.ofNat, dif_neg hvalid] at hnat
    cases hnat

theorem shown_invalid_ne (byte : UInt8) : (Piece.invalid byte).shown ≠ '\n' := by
  show replacement ≠ '\n'
  decide

/-- Only bytes that continue a character stand in front of the rest. -/
def Past (bytes rest : List UInt8) : Prop :=
  ∃ taken, bytes = taken ++ rest ∧ ∀ b ∈ taken, isTail b.toNat = true

theorem Past.refl (bytes : List UInt8) : Past bytes bytes := ⟨[], rfl, List.forall_mem_nil _⟩

theorem Past.cons {b : UInt8} {bytes rest : List UInt8} (hb : isTail b.toNat = true)
    (h : Past bytes rest) : Past (b :: bytes) rest := by
  obtain ⟨taken, rfl, htaken⟩ := h
  exact ⟨b :: taken, rfl, List.forall_mem_cons.2 ⟨hb, htaken⟩⟩

theorem Past.suffix {bytes rest : List UInt8} (h : Past bytes rest) : rest <:+ bytes := by
  obtain ⟨taken, rfl, -⟩ := h
  exact List.suffix_append taken rest

/-- The byte of a line feed continues no character, so at the end it is left. -/
theorem Past.getLast? {bytes rest : List UInt8} (h : Past bytes rest)
    (hlast : bytes.getLast? = some 10) : rest.getLast? = some 10 := by
  obtain ⟨taken, rfl, htaken⟩ := h
  cases rest with
  | nil =>
    rw [List.append_nil] at hlast
    have htail := htaken 10 (List.mem_of_getLast? hlast)
    cases htail
  | cons b rest =>
    rw [List.getLast?_append, List.getLast?_cons, Option.some_or] at hlast
    rwa [List.getLast?_cons]

private theorem twoBytes_shown (lead : UInt8) (rest : List UInt8) (hlead : 0xC2 ≤ lead.toNat) :
    (twoBytes lead rest).1.shown ≠ '\n' ∧ Past rest (twoBytes lead rest).2 := by
  unfold twoBytes
  split
  · rename_i b rest
    split
    · rename_i hb
      exact ⟨shown_char_ne (by omega), .cons hb (.refl rest)⟩
    · exact ⟨shown_invalid_ne lead, .refl _⟩
  · exact ⟨shown_invalid_ne lead, .refl _⟩

private theorem threeBytes_shown (lead : UInt8) (rest : List UInt8) (hlead : 0xE0 ≤ lead.toNat) :
    (threeBytes lead rest).1.shown ≠ '\n' ∧ Past rest (threeBytes lead rest).2 := by
  unfold threeBytes
  split
  · rename_i b rest
    split
    · rename_i hb
      simp only [isSecondOfThree, Bool.and_eq_true] at hb
      have hb' := hb.1.1
      split
      · rename_i c rest
        split
        · rename_i hc
          -- behind the least lead byte the second byte is a large one
          simp only [isTail, Bool.and_eq_true, Bool.or_eq_true, bne_iff_ne, decide_eq_true_eq]
            at hb
          exact ⟨shown_char_ne (by omega), .cons hb' (.cons hc (.refl rest))⟩
        · exact ⟨shown_invalid_ne lead, .cons hb' (.refl _)⟩
      · exact ⟨shown_invalid_ne lead, .cons hb' (.refl _)⟩
    · exact ⟨shown_invalid_ne lead, .refl _⟩
  · exact ⟨shown_invalid_ne lead, .refl _⟩

private theorem fourBytes_shown (lead : UInt8) (rest : List UInt8) (hlead : 0xF0 ≤ lead.toNat) :
    (fourBytes lead rest).1.shown ≠ '\n' ∧ Past rest (fourBytes lead rest).2 := by
  unfold fourBytes
  split
  · rename_i b rest
    split
    · rename_i hb
      simp only [isSecondOfFour, Bool.and_eq_true] at hb
      have hb' := hb.1.1
      split
      · rename_i c rest
        split
        · rename_i hc
          split
          · rename_i d rest
            split
            · rename_i hd
              simp only [isTail, Bool.and_eq_true, Bool.or_eq_true, bne_iff_ne, decide_eq_true_eq]
                at hb
              exact ⟨shown_char_ne (by omega), .cons hb' (.cons hc (.cons hd (.refl rest)))⟩
            · exact ⟨shown_invalid_ne lead, .cons hb' (.cons hc (.refl _))⟩
          · exact ⟨shown_invalid_ne lead, .cons hb' (.cons hc (.refl _))⟩
        · exact ⟨shown_invalid_ne lead, .cons hb' (.refl _)⟩
      · exact ⟨shown_invalid_ne lead, .cons hb' (.refl _)⟩
    · exact ⟨shown_invalid_ne lead, .refl _⟩
  · exact ⟨shown_invalid_ne lead, .refl _⟩

/-- Only the byte of a line feed shows as one. -/
theorem front_shown (lead : UInt8) (rest : List UInt8) :
    ((front lead rest).1.shown = '\n' → lead = 10) ∧ Past rest (front lead rest).2 := by
  unfold front
  dsimp only
  split
  · refine ⟨fun h => ?_, .refl rest⟩
    by_cases hlead : lead.toNat = 10
    · exact UInt8.toNat_inj.1 hlead
    · exact absurd h (shown_char_ne hlead)
  split
  · exact ⟨fun h => absurd h (shown_invalid_ne lead), .refl rest⟩
  split
  · obtain ⟨hne, hrest⟩ := twoBytes_shown lead rest (by omega)
    exact ⟨fun h => absurd h hne, hrest⟩
  split
  · obtain ⟨hne, hrest⟩ := threeBytes_shown lead rest (by omega)
    exact ⟨fun h => absurd h hne, hrest⟩
  split
  · obtain ⟨hne, hrest⟩ := fourBytes_shown lead rest (by omega)
    exact ⟨fun h => absurd h hne, hrest⟩
  · exact ⟨fun h => absurd h (shown_invalid_ne lead), .refl rest⟩

/-- A line of bytes is shown as a line. -/
theorem isLine_shown {bytes : List UInt8} (h : IsLine (· == 10) bytes) :
    IsLine (· == '\n') ((pieces bytes).map Piece.shown) := by
  induction bytes using pieces.induct with
  | case1 =>
    rw [pieces]
    trivial
  | case2 lead rest ih =>
    obtain ⟨hlead, hrest⟩ := front_shown lead rest
    rw [pieces, List.map_cons]
    refine ⟨fun hend => ?_, ih (h.2.suffix hrest.suffix)⟩
    have hten : lead = 10 := hlead (by simpa using hend)
    obtain rfl : rest = [] := h.1 (by simpa using hten)
    rw [List.suffix_nil.1 hrest.suffix, pieces, List.map_nil]

/-- A line of bytes that is closed is shown closed. -/
theorem getLast?_shown {bytes : List UInt8} (h : bytes.getLast? = some 10) :
    ((pieces bytes).map Piece.shown).getLast? = some '\n' := by
  induction bytes using pieces.induct with
  | case1 => cases h
  | case2 lead rest ih =>
    have hrest := (front_shown lead rest).2
    rw [pieces, List.map_cons, List.getLast?_cons]
    cases rest with
    | nil =>
      obtain rfl : lead = 10 := by simpa using h
      rw [List.suffix_nil.1 hrest.suffix, pieces]
      rfl
    | cons b rest =>
      rw [List.getLast?_cons_cons] at h
      rw [ih (hrest.getLast? h)]
      rfl

end Text.Utf8

namespace Scan

/-! ## Sources -/

theorem shown_splitValid (pieces : List Text.Utf8.Piece) :
    (Text.Utf8.splitValid pieces).1 ++ (Text.Utf8.splitValid pieces).2.map Text.Utf8.Piece.shown
      = pieces.map Text.Utf8.Piece.shown := by
  induction pieces with
  | nil => rfl
  | cons piece pieces ih =>
    cases piece with
    | char c => exact congrArg (c :: ·) ih
    | invalid byte => rfl

/-- A defect is what stands first behind the characters before it. -/
theorem splitValid_ne_char (pieces : List Text.Utf8.Piece) (c : Char)
    (others : List Text.Utf8.Piece) : (Text.Utf8.splitValid pieces).2 ≠ .char c :: others := by
  induction pieces with
  | nil => nofun
  | cons piece pieces ih =>
    cases piece with
    | char c => exact ih
    | invalid byte => nofun

/-- A line shows all that it was made of. -/
theorem chars_ofPieces (pieces : List Text.Utf8.Piece) :
    (SourceLine.ofPieces pieces).chars = pieces.map Text.Utf8.Piece.shown := by
  have hshown := shown_splitValid pieces
  have hne := splitValid_ne_char pieces
  unfold SourceLine.ofPieces
  cases hsplit : Text.Utf8.splitValid pieces with
  | mk valid others =>
    rw [hsplit] at hshown hne
    rw [← hshown]
    cases others with
    | nil => simp [SourceLine.chars]
    | cons piece others =>
      cases piece with
      | char c => exact absurd rfl (hne c others)
      | invalid byte => rfl

/-- The lines of a source: nothing stands behind a line feed, and it closes every line but the last
one. -/
structure Source.Ordered (source : Source) : Prop where
  isLine : ∀ line ∈ source, Text.IsLine (· == '\n') line.chars
  closed : Text.Closed (· == '\n') (source.map SourceLine.chars)

theorem isLine_ofText (text : String) :
    ∀ line ∈ Source.ofText text, Text.IsLine (· == '\n') line.chars := by
  intro line hline
  obtain ⟨chars, hchars, rfl⟩ := List.mem_map.1 hline
  exact Text.isLine_of_mem_lines hchars

theorem isLine_ofBytes (bytes : List UInt8) :
    ∀ line ∈ Source.ofBytes bytes, Text.IsLine (· == '\n') line.chars := by
  intro line hline
  obtain ⟨chunk, hchunk, rfl⟩ := List.mem_map.1 hline
  rw [chars_ofPieces]
  exact Text.Utf8.isLine_shown (Text.isLine_of_mem_lines hchunk)

theorem ordered_ofText (text : String) : (Source.ofText text).Ordered := by
  refine ⟨isLine_ofText text, ?_⟩
  have hclosed := Text.closed_lines (· == '\n') text.toList
  rwa [Source.ofText, List.map_map, show SourceLine.chars ∘ SourceLine.sound = id from rfl,
    List.map_id]

theorem ordered_ofBytes (bytes : List UInt8) : (Source.ofBytes bytes).Ordered := by
  refine ⟨isLine_ofBytes bytes, ?_⟩
  have hclosed := Text.closed_lines (· == 10) bytes
  rw [Source.ofBytes, List.map_map]
  generalize Text.lines (· == 10) bytes = chunks at hclosed
  induction chunks with
  | nil => trivial
  | cons chunk chunks ih =>
    refine ⟨fun hne => ⟨'\n', ?_, rfl⟩, ih hclosed.2⟩
    obtain ⟨byte, hlast, hbyte⟩ := hclosed.1 fun hnil => hne (by rw [hnil]; rfl)
    obtain rfl : byte = 10 := by simpa using hbyte
    show (SourceLine.ofPieces (Text.Utf8.pieces chunk)).chars.getLast? = some '\n'
    rw [chars_ofPieces]
    exact Text.Utf8.getLast?_shown hlast

end Scan

end ServiceSyntax
