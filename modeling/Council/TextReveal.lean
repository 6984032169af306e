import Council.Protocol

/-!
The chunking rule of `frontend/src/lib/textReveal.ts`. A scan position is an
index into the code units of the text; the two `while` loops share one scan.
-/

namespace Council.TextReveal
open Protocol

def isSpace (unit : UInt16) : Bool :=
  unit == 0x0020 || unit == 0x000A || unit == 0x0009 || unit == 0x000D

/-- `while (i < text.length && test(text[i])) i++` over the rest of the text. -/
def scanWhile (test : UInt16 → Bool) : Text → Nat → Nat
  | [], index => index
  | unit :: rest, index =>
      if test unit then scanWhile test rest (index + 1) else index

def nextChunkEnd (text : Text) (pos : Nat) : Nat :=
  let word := scanWhile (fun unit => !isSpace unit) (text.drop pos) pos
  let index := scanWhile isSpace (text.drop word) word
  if index > pos then index else min text.length (pos + 1)

theorem scan_while_le (test : UInt16 → Bool) (text : Text) (index : Nat) :
    scanWhile test text index ≤ index + text.length := by
  induction text generalizing index with
  | nil => exact Nat.le_refl index
  | cons unit rest ih =>
      unfold scanWhile
      split
      · have bound := ih (index + 1)
        simp only [List.length_cons]
        omega
      · exact Nat.le_add_right index _

theorem scan_while_drop_le (test : UInt16 → Bool) (text : Text) (index : Nat)
    (inside : index ≤ text.length) :
    scanWhile test (text.drop index) index ≤ text.length := by
  have bound := scan_while_le test (text.drop index) index
  rw [List.length_drop] at bound
  omega

theorem next_chunk_end_gt (text : Text) (pos : Nat) (inside : pos < text.length) :
    pos < nextChunkEnd text pos := by
  unfold nextChunkEnd
  simp only
  split
  · assumption
  · omega

theorem next_chunk_end_le (text : Text) (pos : Nat) (inside : pos ≤ text.length) :
    nextChunkEnd text pos ≤ text.length := by
  unfold nextChunkEnd
  simp only
  split
  · exact scan_while_drop_le _ _ _ (scan_while_drop_le _ _ _ inside)
  · exact Nat.min_le_left _ _

end Council.TextReveal
