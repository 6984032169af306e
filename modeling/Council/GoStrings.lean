import Mathlib.Data.List.Basic

/-!
Go strings: bytes, with no promise that they are UTF-8. `TrimSpace` strips the
runes of `unicode.IsSpace`, each by its encoding; a byte that begins no valid
encoding is no white space.
-/

namespace Council.GoStrings

abbrev GoString := List UInt8

/-- The bytes of a source literal. -/
def literal (text : String) : GoString := text.toList.flatMap String.utf8EncodeChar

/-- White space of one byte. -/
def space (one : UInt8) : Bool := (9 ≤ one && one ≤ 13) || one == 0x20

/-- U+0085 and U+00A0. -/
def space2 (one two : UInt8) : Bool := one == 0xC2 && (two == 0x85 || two == 0xA0)

/-- U+1680, U+2000 to U+200A, U+2028, U+2029, U+202F, U+205F and U+3000. -/
def space3 (one two three : UInt8) : Bool :=
  (one == 0xE1 && two == 0x9A && three == 0x80) ||
    (one == 0xE2 && two == 0x80 &&
      ((0x80 ≤ three && three ≤ 0x8A) || three == 0xA8 || three == 0xA9 || three == 0xAF)) ||
    (one == 0xE2 && two == 0x81 && three == 0x9F) ||
    (one == 0xE3 && two == 0x80 && three == 0x80)

section Strip

variable (one : UInt8 → Bool) (two : UInt8 → UInt8 → Bool)
  (three : UInt8 → UInt8 → UInt8 → Bool)

/-- Leaves out the white items at the front, of one to three bytes each. -/
def stripFront : GoString → GoString
  | [] => []
  | [first] => if one first then [] else [first]
  | [first, second] =>
      if one first then stripFront [second]
      else if two first second then []
      else [first, second]
  | first :: second :: third :: rest =>
      if one first then stripFront (second :: third :: rest)
      else if two first second then stripFront (third :: rest)
      else if three first second third then stripFront rest
      else first :: second :: third :: rest

/-- A white item stands at the front. -/
inductive Leads : GoString → Prop where
  | one {first : UInt8} (white : one first = true) (rest : GoString) : Leads (first :: rest)
  | two {first second : UInt8} (white : two first second = true) (rest : GoString) :
      Leads (first :: second :: rest)
  | three {first second third : UInt8} (white : three first second third = true)
      (rest : GoString) : Leads (first :: second :: third :: rest)

variable {one two three}

theorem strip_front_suffix (text : GoString) : stripFront one two three text <:+ text := by
  induction text using stripFront.induct one two three with
  | case1 => exact List.suffix_refl _
  | case2 first white => simp [stripFront, white]
  | case3 first dark => simp [stripFront, dark]
  | case4 first second white ih =>
      simp only [stripFront, white, if_true]
      exact ih.trans (List.suffix_cons first _)
  | case5 first second dark white => simp [stripFront, dark, white]
  | case6 first second dark darker => simp [stripFront, dark, darker]
  | case7 first second third rest white ih =>
      simp only [stripFront, white, if_true]
      exact ih.trans (List.suffix_cons first _)
  | case8 first second third rest dark white ih =>
      simp only [stripFront, dark, white, if_true]
      exact ih.trans ⟨[first, second], rfl⟩
  | case9 first second third rest dark darker white ih =>
      simp only [stripFront, dark, darker, white, if_true]
      exact ih.trans ⟨[first, second, third], rfl⟩
  | case10 first second third rest dark darker darkest =>
      simp [stripFront, dark, darker, darkest]

theorem strip_front_clear (text : GoString) :
    ¬ Leads one two three (stripFront one two three text) := by
  induction text using stripFront.induct one two three with
  | case1 => exact nofun
  | case2 first white => simp only [stripFront, white, if_true]; exact nofun
  | case3 first dark =>
      simp only [stripFront, dark]
      rintro (white | _ | _)
      exact dark white
  | case4 first second white ih => simpa [stripFront, white] using ih
  | case5 first second dark white =>
      simp only [stripFront, dark, white, if_true]
      exact nofun
  | case6 first second dark darker =>
      simp only [stripFront, dark, darker]
      rintro (white | white | _)
      · exact dark white
      · exact darker white
  | case7 first second third rest white ih => simpa [stripFront, white] using ih
  | case8 first second third rest dark white ih => simpa [stripFront, dark, white] using ih
  | case9 first second third rest dark darker white ih =>
      simpa [stripFront, dark, darker, white] using ih
  | case10 first second third rest dark darker darkest =>
      simp only [stripFront, dark, darker, darkest]
      rintro (white | white | white)
      · exact dark white
      · exact darker white
      · exact darkest white

theorem strip_front_of_clear {text : GoString} (clear : ¬ Leads one two three text) :
    stripFront one two three text = text := by
  match text with
  | [] => rfl
  | [first] => exact if_neg fun white => clear (.one white [])
  | [first, second] =>
      rw [stripFront, if_neg fun white => clear (.one white [second])]
      exact if_neg fun white => clear (.two white [])
  | first :: second :: third :: rest =>
      rw [stripFront, if_neg fun white => clear (.one white (second :: third :: rest)),
        if_neg fun white => clear (.two white (third :: rest))]
      exact if_neg fun white => clear (.three white rest)

/-- What begins with a white item goes on to do so however it is extended. -/
theorem leads_extended {front text : GoString} (leads : Leads one two three front)
    (begins : front <+: text) : Leads one two three text := by
  rcases begins with ⟨rest, rfl⟩
  cases leads with
  | one white more => exact .one white _
  | two white more => exact .two white _
  | three white more => exact .three white _

end Strip

/-- White space at the front of a string, and at the front of a reversed one. -/
abbrev LeadsSpace : GoString → Prop := Leads space space2 space3

abbrev TrailsSpace (text : GoString) : Prop :=
  Leads space (fun last first => space2 first last)
    (fun last middle first => space3 first middle last) text.reverse

def trimLeft (text : GoString) : GoString := stripFront space space2 space3 text

def trimRight (text : GoString) : GoString :=
  (stripFront space (fun last first => space2 first last)
    (fun last middle first => space3 first middle last) text.reverse).reverse

def trimSpace (text : GoString) : GoString := trimRight (trimLeft text)

theorem trim_right_begins (text : GoString) : trimRight text <+: text := by
  unfold trimRight
  rw [← List.reverse_suffix, List.reverse_reverse]
  exact strip_front_suffix text.reverse

theorem trim_space_of_clear {text : GoString} (front : ¬ LeadsSpace text)
    (back : ¬ TrailsSpace text) : trimSpace text = text := by
  unfold trimSpace trimRight trimLeft
  rw [strip_front_of_clear front, strip_front_of_clear back, List.reverse_reverse]

theorem trim_space_trimmed (text : GoString) : trimSpace (trimSpace text) = trimSpace text := by
  apply trim_space_of_clear
  · intro leads
    exact strip_front_clear text (leads_extended leads (trim_right_begins (trimLeft text)))
  · unfold TrailsSpace trimSpace trimRight
    rw [List.reverse_reverse]
    exact strip_front_clear (trimLeft text).reverse

/-- `strings.IndexByte`. -/
def indexByte (text : GoString) (byte : UInt8) : Option Nat := text.findIdx? (· == byte)

/-- `strings.Split` at a separator of one byte. -/
def split (separator : UInt8) : GoString → List GoString
  | [] => [[]]
  | byte :: rest =>
      if byte = separator then [] :: split separator rest
      else
        match split separator rest with
        | [] => [[byte]]
        | part :: parts => (byte :: part) :: parts

/-- NBSP, a tab and U+2003 around a word that ends in a stray byte. -/
example : trimSpace [0xC2, 0xA0, 0x61, 0x85, 0x09, 0xE2, 0x80, 0x83] = [0x61, 0x85] := by decide

end Council.GoStrings
