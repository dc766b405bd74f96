import ServiceSyntax.Scan.Source

/-!
# Encoded texts

The pieces of an encoded text are its characters, and bytes all of whose pieces are characters are
an encoded text (`decode?_eq_some_iff`): the forms that the standard admits for a character are the
one that it is encoded in. What cannot be decoded is rejected where it first differs from an encoded
text (`exists_rejected`). No byte of a character but the line feed is that of a line feed, so the
lines of an encoded text are its encoded lines (`lines_encode`).
-/

namespace ServiceSyntax.Text

namespace Utf8

/-- The bytes of a text. -/
def encode (chars : List Char) : List UInt8 := chars.flatMap String.utf8EncodeChar

theorem encode_cons (c : Char) (chars : List Char) :
    encode (c :: chars) = String.utf8EncodeChar c ++ encode chars := rfl

/-- The bytes of a text are as many as its characters take. -/
theorem length_encode (chars : List Char) : (encode chars).length = byteCount chars := by
  induction chars with
  | nil => rfl
  | cons c chars ih =>
    rw [encode_cons, List.length_append, String.length_utf8EncodeChar, ih]
    rfl

theorem toList_toUTF8 (text : String) : text.toUTF8.data.toList = encode text.toList := by
  have hbytes : text.toByteArray = text.toList.utf8Encode := by
    rw [← String.toByteArray_ofList, String.ofList_toList]
  rw [String.toUTF8_eq_toByteArray, hbytes, List.utf8Encode, List.data_toByteArray]
  rfl

/-! ## The bytes of a character -/

private theorem toNat_byte {n : Nat} (h : n < 256) : (UInt8.ofNat n).toNat = n :=
  UInt8.toNat_ofNat_of_lt' h

private theorem utf8EncodeChar_one {c : Char} (h : c.toNat < 0x80) :
    String.utf8EncodeChar c = [UInt8.ofNat c.toNat] := by
  unfold String.utf8EncodeChar
  dsimp only
  rw [Char.toNat_val, if_pos (by omega)]

private theorem utf8EncodeChar_two {c : Char} (h : 0x80 ≤ c.toNat) (h' : c.toNat < 0x800) :
    String.utf8EncodeChar c
      = [UInt8.ofNat (c.toNat / 64 % 32 + 192), UInt8.ofNat (c.toNat % 64 + 128)] := by
  unfold String.utf8EncodeChar
  dsimp only
  rw [Char.toNat_val, if_neg (by omega), if_pos (by omega)]

private theorem utf8EncodeChar_three {c : Char} (h : 0x800 ≤ c.toNat) (h' : c.toNat < 0x10000) :
    String.utf8EncodeChar c
      = [UInt8.ofNat (c.toNat / 4096 % 16 + 224), UInt8.ofNat (c.toNat / 64 % 64 + 128),
          UInt8.ofNat (c.toNat % 64 + 128)] := by
  unfold String.utf8EncodeChar
  dsimp only
  rw [Char.toNat_val, if_neg (by omega), if_neg (by omega), if_pos (by omega)]

private theorem utf8EncodeChar_four {c : Char} (h : 0x10000 ≤ c.toNat) :
    String.utf8EncodeChar c
      = [UInt8.ofNat (c.toNat / 262144 % 8 + 240), UInt8.ofNat (c.toNat / 4096 % 64 + 128),
          UInt8.ofNat (c.toNat / 64 % 64 + 128), UInt8.ofNat (c.toNat % 64 + 128)] := by
  unfold String.utf8EncodeChar
  dsimp only
  rw [Char.toNat_val, if_neg (by omega), if_neg (by omega), if_neg (by omega)]

/-! ## Pieces of several bytes -/

private theorem twoBytes_of_tail {lead b : UInt8} (rest : List UInt8)
    (hb : isTail b.toNat = true) : twoBytes lead (b :: rest)
      = (.char (Char.ofNat ((lead.toNat - 0xC0) * 64 + (b.toNat - 0x80))), rest) := by
  rw [twoBytes, if_pos hb]

private theorem threeBytes_of_tail {lead b c : UInt8} (rest : List UInt8)
    (hb : isSecondOfThree lead.toNat b.toNat = true) (hc : isTail c.toNat = true) :
    threeBytes lead (b :: c :: rest)
      = (.char (Char.ofNat ((lead.toNat - 0xE0) * 4096 + (b.toNat - 0x80) * 64
          + (c.toNat - 0x80))), rest) := by
  rw [threeBytes.eq_def]
  simp only [hb, hc, if_true]

private theorem fourBytes_of_tail {lead b c d : UInt8} (rest : List UInt8)
    (hb : isSecondOfFour lead.toNat b.toNat = true) (hc : isTail c.toNat = true)
    (hd : isTail d.toNat = true) : fourBytes lead (b :: c :: d :: rest)
      = (.char (Char.ofNat ((lead.toNat - 0xF0) * 262144 + (b.toNat - 0x80) * 4096
          + (c.toNat - 0x80) * 64 + (d.toNat - 0x80))), rest) := by
  rw [fourBytes.eq_def]
  simp only [hb, hc, hd, if_true]

private theorem isTail_byte (n : Nat) : isTail (UInt8.ofNat (n % 64 + 128)).toNat = true := by
  rw [toNat_byte (by omega)]
  simp only [isTail, Bool.and_eq_true, decide_eq_true_eq]
  omega

private theorem char_ofNat (c : Char) {n : Nat} (h : n = c.toNat) (rest : List UInt8) :
    (Piece.char (Char.ofNat n), rest) = (.char c, rest) := by
  rw [h, Char.ofNat_toNat]

/-- The first piece of an encoded character is that character. -/
theorem front_utf8EncodeChar (c : Char) (rest : List UInt8) :
    ∃ lead tail, String.utf8EncodeChar c = lead :: tail ∧
      front lead (tail ++ rest) = (.char c, rest) := by
  have hvalid : c.toNat < 0xD800 ∨ 0xDFFF < c.toNat ∧ c.toNat < 0x110000 := c.valid
  by_cases hone : c.toNat < 0x80
  · refine ⟨_, _, utf8EncodeChar_one hone, ?_⟩
    have hlead := toNat_byte (n := c.toNat) (by omega)
    simp only [front, hlead]
    rw [if_pos hone]
    exact char_ofNat c rfl rest
  by_cases htwo : c.toNat < 0x800
  · refine ⟨_, _, utf8EncodeChar_two (by omega) htwo, ?_⟩
    have hlead := toNat_byte (n := c.toNat / 64 % 32 + 192) (by omega)
    have hlast := toNat_byte (n := c.toNat % 64 + 128) (by omega)
    simp only [front, hlead]
    rw [if_neg (by omega), if_neg (by omega), if_pos (by omega)]
    apply (twoBytes_of_tail rest (isTail_byte _)).trans
    exact char_ofNat c (by omega) rest
  by_cases hthree : c.toNat < 0x10000
  · refine ⟨_, _, utf8EncodeChar_three (by omega) hthree, ?_⟩
    have hlead := toNat_byte (n := c.toNat / 4096 % 16 + 224) (by omega)
    have hsecond := toNat_byte (n := c.toNat / 64 % 64 + 128) (by omega)
    have hlast := toNat_byte (n := c.toNat % 64 + 128) (by omega)
    simp only [front, hlead]
    rw [if_neg (by omega), if_neg (by omega), if_neg (by omega), if_pos (by omega)]
    refine (threeBytes_of_tail rest ?_ (isTail_byte _)).trans (char_ofNat c (by omega) rest)
    -- neither an overlong form nor a surrogate
    rw [hlead, hsecond]
    simp only [isSecondOfThree, isTail, Bool.and_eq_true, Bool.or_eq_true, bne_iff_ne,
      decide_eq_true_eq]
    omega
  · refine ⟨_, _, utf8EncodeChar_four (by omega), ?_⟩
    have hlead := toNat_byte (n := c.toNat / 262144 % 8 + 240) (by omega)
    have hsecond := toNat_byte (n := c.toNat / 4096 % 64 + 128) (by omega)
    have hthird := toNat_byte (n := c.toNat / 64 % 64 + 128) (by omega)
    have hlast := toNat_byte (n := c.toNat % 64 + 128) (by omega)
    simp only [front, hlead]
    rw [if_neg (by omega), if_neg (by omega), if_neg (by omega), if_neg (by omega),
      if_pos (by omega)]
    refine (fourBytes_of_tail rest ?_ (isTail_byte _) (isTail_byte _)).trans
      (char_ofNat c (by omega) rest)
    -- neither an overlong form nor a number above all characters
    rw [hlead, hsecond]
    simp only [isSecondOfFour, isTail, Bool.and_eq_true, Bool.or_eq_true, bne_iff_ne,
      decide_eq_true_eq]
    omega

private theorem toNat_ofNat {n : Nat} (h : n.isValidChar) : (Char.ofNat n).toNat = n := by
  rw [Char.ofNat, dif_pos h]
  rfl

private theorem byte_eq {b : UInt8} {n : Nat} (h : n = b.toNat) : UInt8.ofNat n = b := by
  rw [h, UInt8.ofNat_toNat]

private theorem of_twoBytes {lead : UInt8} {rest others : List UInt8} {c : Char}
    (hlead : 0xC2 ≤ lead.toNat) (hlead' : lead.toNat < 0xE0)
    (h : twoBytes lead rest = (.char c, others)) :
    lead :: rest = String.utf8EncodeChar c ++ others := by
  revert h
  fun_cases twoBytes lead rest
  case case1 b rest hb =>
    intro h
    obtain ⟨hchar, rfl⟩ := Prod.mk.inj h
    obtain rfl := Piece.char.inj hchar
    simp only [isTail, Bool.and_eq_true, decide_eq_true_eq] at hb
    have hcode := toNat_ofNat (n := (lead.toNat - 0xC0) * 64 + (b.toNat - 0x80))
      (Or.inl (by omega))
    rw [utf8EncodeChar_two (by omega) (by omega), hcode, byte_eq (b := lead) (by omega),
      byte_eq (b := b) (by omega)]
    rfl
  all_goals
    intro h
    cases (Prod.mk.inj h).1

private theorem of_threeBytes {lead : UInt8} {rest others : List UInt8} {c : Char}
    (hlead : 0xE0 ≤ lead.toNat) (hlead' : lead.toNat < 0xF0)
    (h : threeBytes lead rest = (.char c, others)) :
    lead :: rest = String.utf8EncodeChar c ++ others := by
  revert h
  fun_cases threeBytes lead rest
  case case1 b hb d rest hd =>
    intro h
    obtain ⟨hchar, rfl⟩ := Prod.mk.inj h
    obtain rfl := Piece.char.inj hchar
    simp only [isSecondOfThree, isTail, Bool.and_eq_true, Bool.or_eq_true, bne_iff_ne,
      decide_eq_true_eq] at hb hd
    -- the second byte keeps the code out of the surrogates
    have hvalid : ((lead.toNat - 0xE0) * 4096 + (b.toNat - 0x80) * 64
        + (d.toNat - 0x80)).isValidChar := by
      show _ < 0xD800 ∨ 0xDFFF < _ ∧ _ < 0x110000
      omega
    have hcode := toNat_ofNat hvalid
    rw [utf8EncodeChar_three (by omega) (by omega), hcode, byte_eq (b := lead) (by omega),
      byte_eq (b := b) (by omega), byte_eq (b := d) (by omega)]
    rfl
  all_goals
    intro h
    cases (Prod.mk.inj h).1

private theorem of_fourBytes {lead : UInt8} {rest others : List UInt8} {c : Char}
    (hlead : 0xF0 ≤ lead.toNat) (hlead' : lead.toNat < 0xF5)
    (h : fourBytes lead rest = (.char c, others)) :
    lead :: rest = String.utf8EncodeChar c ++ others := by
  revert h
  fun_cases fourBytes lead rest
  case case1 b hb d hd e rest he =>
    intro h
    obtain ⟨hchar, rfl⟩ := Prod.mk.inj h
    obtain rfl := Piece.char.inj hchar
    simp only [isSecondOfFour, isTail, Bool.and_eq_true, Bool.or_eq_true, bne_iff_ne,
      decide_eq_true_eq] at hb hd he
    -- the second byte keeps the code below the end of all codes
    have hvalid : ((lead.toNat - 0xF0) * 262144 + (b.toNat - 0x80) * 4096
        + (d.toNat - 0x80) * 64 + (e.toNat - 0x80)).isValidChar := by
      show _ < 0xD800 ∨ 0xDFFF < _ ∧ _ < 0x110000
      omega
    have hcode := toNat_ofNat hvalid
    rw [utf8EncodeChar_four (by omega), hcode, byte_eq (b := lead) (by omega),
      byte_eq (b := b) (by omega), byte_eq (b := d) (by omega), byte_eq (b := e) (by omega)]
    rfl
  all_goals
    intro h
    cases (Prod.mk.inj h).1

/-- A piece that is a character is its encoding: there is no other form of it. -/
theorem of_front_char {lead : UInt8} {rest others : List UInt8} {c : Char}
    (h : front lead rest = (.char c, others)) :
    lead :: rest = String.utf8EncodeChar c ++ others := by
  unfold front at h
  dsimp only at h
  split at h
  · obtain ⟨hchar, rfl⟩ := Prod.mk.inj h
    obtain rfl := Piece.char.inj hchar
    have hcode := toNat_ofNat (n := lead.toNat) (Or.inl (by omega))
    rw [utf8EncodeChar_one (by omega), hcode, byte_eq rfl]
    rfl
  split at h
  · cases (Prod.mk.inj h).1
  split at h
  · exact of_twoBytes (by omega) (by omega) h
  split at h
  · exact of_threeBytes (by omega) (by omega) h
  split at h
  · exact of_fourBytes (by omega) (by omega) h
  · cases (Prod.mk.inj h).1

/-! ## Decoding -/

theorem pieces_encode (chars : List Char) : pieces (encode chars) = chars.map .char := by
  induction chars with
  | nil => rw [encode, List.flatMap_nil, pieces, List.map_nil]
  | cons c chars ih =>
    obtain ⟨lead, tail, hc, hfront⟩ := front_utf8EncodeChar c (encode chars)
    rw [encode_cons, hc, List.cons_append, pieces, hfront, ih, List.map_cons]

theorem eq_encode_of_pieces {bytes : List UInt8} {chars : List Char}
    (h : pieces bytes = chars.map .char) : bytes = encode chars := by
  induction bytes using pieces.induct generalizing chars with
  | case1 =>
    rw [pieces, eq_comm, List.map_eq_nil_iff] at h
    rw [h]
    rfl
  | case2 lead rest ih =>
    rw [pieces] at h
    cases chars with
    | nil => cases h
    | cons c chars =>
      obtain ⟨hc, hchars⟩ := List.cons.inj h
      rw [encode_cons, ← ih hchars]
      exact of_front_char (Prod.ext hc rfl)

theorem splitValid_map_char (chars : List Char) :
    splitValid (chars.map .char) = (chars, []) := by
  induction chars with
  | nil => rfl
  | cons c chars ih => rw [List.map_cons, splitValid, ih]

/-- What stands before the first defect are characters. -/
theorem map_char_append_splitValid (ps : List Piece) :
    (splitValid ps).1.map .char ++ (splitValid ps).2 = ps := by
  induction ps with
  | nil => rfl
  | cons piece ps ih =>
    cases piece with
    | char c => exact congrArg (Piece.char c :: ·) ih
    | invalid byte => rfl

private theorem twoBytes_invalid {lead byte : UInt8} {rest : List UInt8}
    (h : (twoBytes lead rest).1 = .invalid byte) : byte = lead := by
  unfold twoBytes at h
  grind

private theorem threeBytes_invalid {lead byte : UInt8} {rest : List UInt8}
    (h : (threeBytes lead rest).1 = .invalid byte) : byte = lead := by
  unfold threeBytes at h
  grind

private theorem fourBytes_invalid {lead byte : UInt8} {rest : List UInt8}
    (h : (fourBytes lead rest).1 = .invalid byte) : byte = lead := by
  unfold fourBytes at h
  grind

/-- A defect is reported by its first byte. -/
theorem front_invalid {lead byte : UInt8} {rest : List UInt8}
    (h : (front lead rest).1 = .invalid byte) : byte = lead := by
  have htwo := @twoBytes_invalid lead byte rest
  have hthree := @threeBytes_invalid lead byte rest
  have hfour := @fourBytes_invalid lead byte rest
  unfold front at h
  grind

/-- Where a piece is no character no encoding begins. -/
theorem not_prefix_of_front {lead byte : UInt8} {rest : List UInt8}
    (h : (front lead rest).1 = .invalid byte) (c : Char) :
    ¬ String.utf8EncodeChar c <+: lead :: rest := by
  rintro ⟨behind, hbehind⟩
  obtain ⟨first, tail, hc, hfront⟩ := front_utf8EncodeChar c behind
  rw [hc] at hbehind
  obtain ⟨rfl, hrest⟩ := List.cons.inj hbehind
  rw [← hrest] at h
  have hchar := h.symm.trans (congrArg Prod.fst hfront)
  cases hchar

/-- The first defect is what decoding rejects: the characters before it are encoded in front of it,
and no encoding begins with its first byte. -/
theorem exists_rejected {bytes : List UInt8} {valid : List Char} {byte : UInt8}
    {others : List Piece} (h : splitValid (pieces bytes) = (valid, .invalid byte :: others)) :
    ∃ behind, bytes = encode valid ++ byte :: behind ∧
      ∀ c, ¬ String.utf8EncodeChar c <+: byte :: behind := by
  induction bytes using pieces.induct generalizing valid with
  | case1 =>
    rw [pieces] at h
    cases h
  | case2 lead rest ih =>
    rw [pieces] at h
    cases hfront : (front lead rest).1 with
    | char c =>
      rw [hfront, splitValid] at h
      obtain ⟨rfl, hothers⟩ := Prod.mk.inj h
      obtain ⟨behind, hbehind, hnone⟩ := ih (Prod.ext rfl hothers)
      refine ⟨behind, ?_, hnone⟩
      rw [encode_cons, List.append_assoc, ← hbehind]
      exact of_front_char (Prod.ext hfront rfl)
    | invalid first =>
      obtain rfl := front_invalid hfront
      rw [hfront, splitValid] at h
      · obtain ⟨rfl, hothers⟩ := Prod.mk.inj h
        obtain ⟨hbyte, -⟩ := List.cons.inj hothers
        obtain rfl := Piece.invalid.inj hbyte
        exact ⟨rest, rfl, not_prefix_of_front hfront⟩
      · nofun

/-- The bytes that can be decoded are those of texts. -/
theorem decode?_eq_some_iff {bytes : List UInt8} {chars : List Char} :
    decode? bytes = some chars ↔ bytes = encode chars := by
  constructor
  · intro h
    have hsplit := map_char_append_splitValid (pieces bytes)
    unfold decode? at h
    split at h
    · rename_i valid heq
      obtain rfl := Option.some.inj h
      rw [heq, List.append_nil] at hsplit
      exact eq_encode_of_pieces hsplit.symm
    · cases h
  · intro h
    rw [decode?, h, pieces_encode, splitValid_map_char]

/-- Bytes that cannot be decoded are those of no text. -/
theorem decode?_eq_none_iff {bytes : List UInt8} :
    decode? bytes = none ↔ ∀ text : String, text.toUTF8.data.toList ≠ bytes := by
  rw [Option.eq_none_iff_forall_ne_some]
  constructor
  · intro h text htext
    apply h text.toList
    rw [decode?_eq_some_iff, ← htext, toList_toUTF8]
  · intro h chars hchars
    apply h (String.ofList chars)
    rw [toList_toUTF8, String.toList_ofList, decode?_eq_some_iff.1 hchars]

end Utf8

/-! ## Lines -/

section

variable {α : Type} {isEnd : α → Bool}

theorem lines_cons_end {x : α} (hx : isEnd x = true) (xs : List α) :
    lines isEnd (x :: xs) = [x] :: lines isEnd xs := by
  rw [lines, if_pos hx]

/-- Items in front of a line that do not end it belong to it. -/
theorem lines_append_inner {xs : List α} (hxs : ∀ x ∈ xs, isEnd x = false) (hne : xs ≠ [])
    (ys : List α) : lines isEnd (xs ++ ys) = match lines isEnd ys with
      | [] => [xs]
      | first :: others => (xs ++ first) :: others := by
  induction xs with
  | nil => exact absurd rfl hne
  | cons x xs ih =>
    obtain ⟨hx, hxs⟩ := List.forall_mem_cons.1 hxs
    rw [List.cons_append, lines, if_neg (by simp [hx])]
    by_cases hnil : xs = []
    · rw [hnil, List.nil_append]
      cases lines isEnd ys <;> rfl
    · rw [ih hxs hnil]
      cases lines isEnd ys <;> rfl

end

namespace Utf8

private theorem byte_ne {n : Nat} (h : n < 256) (hn : n ≠ 10) : UInt8.ofNat n ≠ 10 := by
  intro heq
  have hnat := congrArg UInt8.toNat heq
  rw [toNat_byte h] at hnat
  exact hn hnat

/-- Only the line feed is encoded with the byte of a line feed. -/
theorem ne_of_mem_utf8EncodeChar {c : Char} (hc : c ≠ '\n') {b : UInt8}
    (hb : b ∈ String.utf8EncodeChar c) : b ≠ 10 := by
  have hten : c.toNat ≠ 10 := fun h => hc (Char.toNat_inj.1 h)
  by_cases hone : c.toNat < 0x80
  · rw [utf8EncodeChar_one hone, List.mem_singleton] at hb
    rw [hb]
    exact byte_ne (by omega) hten
  -- all bytes of a longer form are large
  by_cases htwo : c.toNat < 0x800
  · rw [utf8EncodeChar_two (by omega) htwo] at hb
    simp only [List.mem_cons, List.not_mem_nil, or_false] at hb
    rcases hb with rfl | rfl <;> exact byte_ne (by omega) (by omega)
  by_cases hthree : c.toNat < 0x10000
  · rw [utf8EncodeChar_three (by omega) hthree] at hb
    simp only [List.mem_cons, List.not_mem_nil, or_false] at hb
    rcases hb with rfl | rfl | rfl <;> exact byte_ne (by omega) (by omega)
  · rw [utf8EncodeChar_four (by omega)] at hb
    simp only [List.mem_cons, List.not_mem_nil, or_false] at hb
    rcases hb with rfl | rfl | rfl | rfl <;> exact byte_ne (by omega) (by omega)

/-- The lines of an encoded text are its encoded lines. -/
theorem lines_encode (chars : List Char) :
    lines (· == 10) (encode chars) = (lines (· == '\n') chars).map encode := by
  induction chars with
  | nil => rfl
  | cons c chars ih =>
    by_cases hc : c = '\n'
    · rw [hc, encode_cons, lines_cons_end rfl, List.map_cons, ← ih]
      exact lines_cons_end rfl _
    · obtain ⟨lead, tail, hbytes, -⟩ := front_utf8EncodeChar c []
      have hne : String.utf8EncodeChar c ≠ [] := by simp [hbytes]
      have hinner : ∀ b ∈ String.utf8EncodeChar c, (b == 10) = false := fun b hb =>
        beq_false_of_ne (ne_of_mem_utf8EncodeChar hc hb)
      rw [encode_cons, lines_append_inner hinner hne, ih, lines, if_neg (by simpa using hc)]
      cases lines (· == '\n') chars with
      | nil => simp [encode]
      | cons first others => simp [encode]

end Utf8

end ServiceSyntax.Text
