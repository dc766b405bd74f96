/-!
Cuts at signed positions: a negative position counts from the end, and a position outside the
text is moved to the nearer end. Hence every cut exists, and taking and dropping at the same
position loses nothing (`takeTo_append_dropFrom`).
-/

namespace ServiceSyntax.Text

/-- The cut that a signed position names in a sequence of `size` items. -/
def cut (size : Nat) (position : Int) : Nat :=
  if position < 0 then (size + position).toNat else min position.toNat size

theorem cut_of_le {size : Nat} {position : Int} (hpos : 0 ≤ position) (hle : position ≤ size) :
    cut size position = position.toNat := by
  rw [cut, if_neg (by omega)]
  omega

/-- The items before a signed position. -/
def takeTo {α : Type} (position : Int) (items : List α) : List α :=
  items.take (cut items.length position)

/-- The items from a signed position on. -/
def dropFrom {α : Type} (position : Int) (items : List α) : List α :=
  items.drop (cut items.length position)

theorem takeTo_append_dropFrom {α : Type} (position : Int) (items : List α) :
    takeTo position items ++ dropFrom position items = items :=
  List.take_append_drop _ _

theorem cut_add {position : Int} (n size : Nat) (h : 0 ≤ position) :
    cut (n + size) (position + n) = n + cut size position := by
  rw [cut, cut, if_neg (by omega), if_neg (by omega)]
  omega

/-- Behind more items a position has moved on by their number. -/
theorem takeTo_append {α : Type} {front items : List α} {position : Int} (h : 0 ≤ position) :
    takeTo (position + front.length) (front ++ items) = front ++ takeTo position items := by
  rw [takeTo, takeTo, List.length_append, cut_add _ _ h, List.take_length_add_append]

theorem dropFrom_append {α : Type} {front items : List α} {position : Int} (h : 0 ≤ position) :
    dropFrom (position + front.length) (front ++ items) = dropFrom position items := by
  rw [dropFrom, dropFrom, List.length_append, cut_add _ _ h, List.drop_length_add_append]

/-- The items in front of the others are those before the position behind them. -/
theorem takeTo_length {α : Type} (before after : List α) :
    takeTo before.length (before ++ after) = before := by
  have hle : (before.length : Int) ≤ (before ++ after).length := by
    rw [List.length_append]
    omega
  rw [takeTo, cut_of_le (Int.natCast_nonneg _) hle, Int.toNat_natCast, List.take_left]

theorem dropFrom_length {α : Type} (before after : List α) :
    dropFrom before.length (before ++ after) = after := by
  have hsplit := takeTo_append_dropFrom before.length (before ++ after)
  rw [takeTo_length] at hsplit
  exact List.append_cancel_left hsplit

/-- The items from one signed position up to another, none if they are out of order. -/
def slice {α : Type} (first last : Int) (items : List α) : List α :=
  (items.take (cut items.length last)).drop (cut items.length first)

/-- What comes behind the items does not count for a slice that ends among them. -/
theorem slice_append {α : Type} {first last : Int} {items : List α} (more : List α)
    (hfirst : 0 ≤ first) (hlast : 0 ≤ last) (hle : last ≤ items.length) :
    slice first last (items ++ more) = slice first last items := by
  have hle' : last ≤ (items ++ more).length := by
    rw [List.length_append]
    omega
  unfold slice
  rw [cut_of_le hlast hle, cut_of_le hlast hle', List.take_append_of_le_length (by omega)]
  by_cases hinside : first ≤ items.length
  · have hinside' : first ≤ (items ++ more).length := by
      rw [List.length_append]
      omega
    rw [cut_of_le hfirst hinside, cut_of_le hfirst hinside']
  · -- both slices begin behind their end
    have hcut : last.toNat ≤ cut items.length first := by
      rw [cut, if_neg (by omega)]
      omega
    have hcut' : last.toNat ≤ cut (items ++ more).length first := by
      rw [cut, if_neg (by omega), List.length_append]
      omega
    rw [List.drop_eq_nil_of_le (by rw [List.length_take]; omega),
      List.drop_eq_nil_of_le (by rw [List.length_take]; omega)]

/-- As many spaces as `width` says, none if it is negative. -/
def spaces (width : Int) : String := String.ofList (List.replicate width.toNat ' ')

end ServiceSyntax.Text
