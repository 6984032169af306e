import Mathlib.Data.List.Basic

/-!
Appending under a length cap: a buffer keeps the first `limit` items of what
was ever appended to it. Appending item by item and capping at every step is
the same as capping the concatenation once.
-/

namespace Council.CappedAppend

universe u
variable {Item : Type u}

/-- Cut a buffer that has outgrown `limit`. -/
def clip (limit : Nat) (items : List Item) : List Item :=
  if items.length > limit then items.take limit else items

theorem clip_eq_take (limit : Nat) (items : List Item) :
    clip limit items = items.take limit := by
  unfold clip
  by_cases overflow : items.length > limit
  · exact if_pos overflow
  · rw [if_neg overflow, List.take_of_length_le (Nat.le_of_not_gt overflow)]

/-- Append, then drop whatever exceeds `limit`. -/
def appendCapped (limit : Nat) (buffer added : List Item) : List Item :=
  (buffer ++ added).take limit

theorem append_capped_take (limit : Nat) (buffer added : List Item) :
    appendCapped limit (buffer.take limit) added =
      (buffer ++ added).take limit := by
  unfold appendCapped
  rw [List.take_append, List.take_append, List.take_take, Nat.min_self]
  congr 1
  rcases Nat.le_total limit buffer.length with full | room
  · have left : limit - (buffer.take limit).length = 0 := by
      rw [List.length_take]; omega
    have right : limit - buffer.length = 0 := by omega
    rw [left, right]
  · rw [List.take_of_length_le room]

theorem append_capped_append (limit : Nat) (buffer first second : List Item) :
    appendCapped limit (appendCapped limit buffer first) second =
      appendCapped limit buffer (first ++ second) := by
  rw [appendCapped.eq_def limit buffer first, append_capped_take]
  simp [appendCapped]

end Council.CappedAppend
