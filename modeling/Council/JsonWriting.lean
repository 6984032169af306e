import Council.JsonText
import Mathlib.Data.List.Forall2

/-!
Writing JSON that `JSON.parse` reads back. A piece of a string spells code
units, a text writes a value: each is said of the piece in any place it can
stand in, so that what a whole text is read as follows from its pieces. A
separator after a number ends it.
-/

namespace Council.JsonWriting

open Council.Protocol Council.EventWire Council.JsonText

/-- A string up to its closing quote. -/
def body (text : Text) : Option (Text × Text) := stringBody text.length text

theorem string_body_enough (fuel : Nat) (text : Text) (short : text.length ≤ fuel) :
    stringBody fuel text = body text := by
  induction fuel with
  | zero =>
      have empty : text.length = 0 := Nat.le_zero.mp short
      rw [body, empty]
  | succ fuel ih =>
      rcases Nat.lt_or_eq_of_le short with less | same
      · rw [← string_body_more fuel text (Nat.le_of_lt_succ less)]
        exact ih (Nat.le_of_lt_succ less)
      · rw [body, same]

/-- Inside a string, the written units are read as the given ones. -/
def Spells (written text : Text) : Prop :=
  ∀ rest, body (written ++ rest) = (body rest).map fun read => (text ++ read.1, read.2)

section Spelling

variable {written text more later : Text} {unit : UInt16}

theorem spells_nil : Spells [] [] := by
  intro rest
  simp

theorem Spells.append (first : Spells written text) (second : Spells more later) :
    Spells (written ++ more) (text ++ later) := by
  intro rest
  rw [List.append_assoc, first, second, Option.map_map]
  congr 1
  funext read
  simp

/-- A unit that JSON allows in a string as it is. -/
def Plain (unit : UInt16) : Prop := unit ≠ 0x22 ∧ unit ≠ 0x5C ∧ ¬unit < 0x20

theorem spells_plain (plain : Plain unit) : Spells [unit] [unit] := by
  intro rest
  rw [List.singleton_append, body, List.length_cons, stringBody, if_neg plain.1,
    if_neg plain.2.1, if_neg plain.2.2]
  rfl

theorem spells_escape {code : Text} (known : ∀ rest, escape (code ++ rest) = some (unit, rest)) :
    Spells (0x5C :: code) [unit] := by
  intro rest
  have quote : (0x5C : UInt16) ≠ 0x22 := by decide
  rw [List.cons_append, body, List.length_cons, stringBody, if_neg quote, if_pos rfl, known rest]
  simp only
  rw [string_body_enough _ rest (by simp)]
  rfl

theorem spells_short {letter : UInt16} (apart : letter ≠ 0x75)
    (known : escaped letter = some unit) : Spells [0x5C, letter] [unit] := by
  apply spells_escape
  intro rest
  rw [List.singleton_append, escape.eq_def]
  simp only
  rw [if_neg apart, known]
  rfl

theorem spells_unicode {first second third fourth : UInt16}
    (known : hexUnit first second third fourth = some unit) :
    Spells [0x5C, 0x75, first, second, third, fourth] [unit] := by
  apply spells_escape
  intro rest
  change escape (0x75 :: first :: second :: third :: fourth :: rest) = _
  rw [escape, if_pos rfl, known]
  rfl

theorem Spells.closed (spells : Spells written text) (rest : Text) :
    body (written ++ 0x22 :: rest) = some (text, rest) := by
  rw [spells, body, List.length_cons, stringBody, if_pos rfl]
  simp

end Spelling

/-- Nothing, or a unit that stands between values. -/
def Separated : Text → Prop
  | [] => True
  | unit :: _ => unit = 0x2C ∨ unit = 0x7D ∨ unit = 0x5D ∨ isSpace unit = true

/-- Before a separator the text is read as the value, to its end. -/
def Writes (toNumber : Text → JsNumber) (text : Text) (json : Json) : Prop :=
  ∀ rest fuel, Separated rest → enough .value (text ++ rest) ≤ fuel →
    JsonText.read toNumber fuel .value (text ++ rest) = some (json, rest)

section Values

variable {toNumber : Text → JsNumber} {written text rest : Text}

theorem skip_space_mark {unit : UInt16} (dark : isSpace unit = false) (rest : Text) :
    skipSpace (unit :: rest) = unit :: rest := by
  rw [skipSpace, List.dropWhile_cons_of_neg (by simp [dark])]

theorem writes_string (spells : Spells written text) :
    Writes toNumber (0x22 :: (written ++ [0x22])) (.string text) := by
  intro rest fuel _ short
  have quote : isSpace 0x22 = false := by decide
  cases fuel with
  | zero => simp [enough] at short
  | succ fuel =>
      rw [List.cons_append, JsonText.read, skip_space_mark quote]
      simp only [if_true]
      rw [List.append_assoc, List.singleton_append]
      rw [show stringBody (written ++ 0x22 :: rest).length (written ++ 0x22 :: rest) =
        some (text, rest) from spells.closed rest]
      rfl

theorem separated_ends (separated : Separated rest) (literal : Text) :
    rest.takeWhile isDigit = [] ∧ rest.dropWhile isDigit = rest ∧
      fraction literal rest = some (literal, rest) := by
  cases rest with
  | nil => exact ⟨rfl, rfl, rfl⟩
  | cons unit rest =>
      have apart : isDigit unit = false ∧ unit ≠ 0x2E ∧ unit ≠ 0x65 ∧ unit ≠ 0x45 := by
        rcases separated with rfl | rfl | rfl | space
        · decide
        · decide
        · decide
        · simp only [isSpace, Bool.or_eq_true, beq_iff_eq] at space
          rcases space with ((rfl | rfl) | rfl) | rfl
          all_goals decide
      refine ⟨?_, ?_, ?_⟩
      · rw [List.takeWhile_cons_of_neg (by simp [apart.1])]
      · rw [List.dropWhile_cons_of_neg (by simp [apart.1])]
      · rw [fraction, if_neg apart.2.1, exponent, if_neg]
        exact not_or.mpr ⟨apart.2.2.1, apart.2.2.2⟩

theorem after_word_letter {word : String} {unit : UInt16} (letter : UInt16)
    (begins : (units word).head? = some letter) (apart : unit ≠ letter) (rest : Text) :
    afterWord word (unit :: rest) = none := by
  cases spelt : units word with
  | nil => rw [spelt] at begins; cases begins
  | cons first letters =>
      rw [spelt] at begins
      cases begins
      rw [afterWord, spelt, if_neg]
      simp [List.isPrefixOf, Ne.symm apart]

/-- Digits without a leading zero. -/
structure Decimal (text : Text) : Prop where
  digits : ∀ unit ∈ text, isDigit unit = true
  leads : ∃ first rest, text = first :: rest ∧ first ≠ 0x30

theorem writes_decimal (decimal : Decimal text) :
    Writes toNumber text (.number (toNumber text)) := by
  intro rest fuel separated short
  rcases decimal.leads with ⟨digit, more, rfl, nonzero⟩
  have all := decimal.digits
  have known : isDigit digit = true := all digit List.mem_cons_self
  have later : ∀ unit ∈ more, isDigit unit = true :=
    fun unit member => all unit (List.mem_cons_of_mem _ member)
  have code := known
  simp only [isDigit, Bool.and_eq_true, decide_eq_true_eq, UInt16.le_iff_toNat_le] at code
  -- no digit begins another kind of value
  have apart : ∀ unit : UInt16, (unit.toNat < 0x30 ∨ 0x39 < unit.toNat) → digit ≠ unit := by
    rintro unit outside rfl
    have low : (0x30 : UInt16).toNat = 0x30 := by decide
    have high : (0x39 : UInt16).toNat = 0x39 := by decide
    omega
  have dark : isSpace digit = false := by
    simp [isSpace, apart 0x0009 (by decide), apart 0x000A (by decide), apart 0x000D (by decide),
      apart 0x0020 (by decide)]
  have ends := separated_ends separated (digit :: more)
  have literal : numberLiteral (digit :: more ++ rest) = some (digit :: more, rest) := by
    rw [List.cons_append, numberLiteral, if_neg (apart 0x2D (by decide)), unsigned,
      if_neg nonzero, if_pos known]
    rw [List.takeWhile_append_of_pos later, List.dropWhile_append_of_pos later, ends.1, ends.2.1,
      List.append_nil]
    exact ends.2.2
  cases fuel with
  | zero => simp [enough] at short
  | succ fuel =>
      rw [List.cons_append, JsonText.read, skip_space_mark dark]
      simp only
      rw [if_neg (apart 0x22 (by decide)), if_neg (apart 0x5B (by decide)),
        if_neg (apart 0x7B (by decide)), plainValue]
      rw [after_word_letter 0x6E (by decide) (apart _ (by decide)),
        after_word_letter 0x74 (by decide) (apart _ (by decide)),
        after_word_letter 0x66 (by decide) (apart _ (by decide))]
      simp only
      rw [← List.cons_append, literal]
      rfl

end Values

section Members

variable {toNumber : Text → JsNumber} {written key value rest : Text} {json : Json}
  {fields : List (Text × Json)} {fuel : Nat}

theorem read_member (spells : Spells written key) (writes : Writes toNumber value json)
    {separator : UInt16} (between : separator = 0x2C ∨ separator = 0x7D)
    (short : enough (.members fields)
      (0x22 :: (written ++ [0x22]) ++ 0x3A :: (value ++ separator :: rest)) ≤ fuel + 1) :
    JsonText.read toNumber (fuel + 1) (.members fields)
        (0x22 :: (written ++ [0x22]) ++ 0x3A :: (value ++ separator :: rest)) =
      if separator = 0x2C then
        JsonText.read toNumber fuel (.members (fields ++ [(key, json)])) rest
      else some (.object (fields ++ [(key, json)]), rest) := by
  have quote : isSpace 0x22 = false := by decide
  have colon : isSpace 0x3A = false := by decide
  have separated : Separated (separator :: rest) := between.imp id Or.inl
  have dark : isSpace separator = false := by
    rcases between with rfl | rfl
    · decide
    · decide
  have enough_ : enough .value (value ++ separator :: rest) ≤ fuel := by
    simp only [enough, List.length_append, List.length_cons] at short ⊢
    omega
  rw [List.cons_append, JsonText.read, skip_space_mark quote]
  simp only [ne_eq, not_true_eq_false, if_false]
  rw [List.append_assoc, List.singleton_append]
  rw [show stringBody (written ++ 0x22 :: 0x3A :: (value ++ separator :: rest)).length
    (written ++ 0x22 :: 0x3A :: (value ++ separator :: rest)) =
      some (key, 0x3A :: (value ++ separator :: rest)) from spells.closed _]
  simp only
  rw [skip_space_mark colon]
  simp only [not_true_eq_false, if_false]
  rw [writes _ _ separated enough_]
  simp only
  rw [skip_space_mark dark]
  simp only
  by_cases comma : separator = 0x2C
  · rw [if_pos comma, if_pos comma]
  · have brace : separator = 0x7D := between.resolve_left comma
    rw [if_neg comma, if_neg comma, if_pos brace]

end Members

section Objects

variable {toNumber : Text → JsNumber}

/-- A quoted name with its colon and the text of a value are read as the field. -/
structure Written (toNumber : Text → JsNumber) (text : Text × Text) (field : Text × Json) :
    Prop where
  name : ∃ written, text.1 = 0x22 :: (written ++ [0x22]) ++ [0x3A] ∧ Spells written field.1
  value : Writes toNumber text.2 field.2

/-- The fields after the first one, and the closing brace. -/
def fieldsText : List (Text × Text) → Text
  | [] => [0x7D]
  | (name, value) :: rest => 0x2C :: (name ++ value ++ fieldsText rest)

def objectText : List (Text × Text) → Text
  | [] => [0x7B, 0x7D]
  | (name, value) :: rest => 0x7B :: (name ++ value ++ fieldsText rest)

theorem read_members {first : Text × Text} {field : Text × Json} {texts : List (Text × Text)}
    {fields : List (Text × Json)} (leads : Written toNumber first field)
    (follow : List.Forall₂ (Written toNumber) texts fields) (known : List (Text × Json))
    (rest : Text) (fuel : Nat)
    (short : enough (.members known) (first.1 ++ first.2 ++ fieldsText texts ++ rest) ≤ fuel) :
    JsonText.read toNumber fuel (.members known)
        (first.1 ++ first.2 ++ fieldsText texts ++ rest) =
      some (.object (known ++ field :: fields), rest) := by
  induction follow generalizing first field known fuel with
  | nil =>
      rcases leads with ⟨⟨written, name, spells⟩, value⟩
      cases fuel with
      | zero => simp [enough] at short
      | succ fuel =>
          have shape : first.1 ++ first.2 ++ fieldsText [] ++ rest =
              0x22 :: (written ++ [0x22]) ++ 0x3A :: (first.2 ++ 0x7D :: rest) := by
            simp [name, fieldsText]
          rw [shape] at short ⊢
          rw [read_member spells value (.inr rfl) short, if_neg (by decide)]
  | @cons text next texts fields second _ ih =>
      rcases leads with ⟨⟨written, name, spells⟩, value⟩
      cases fuel with
      | zero => simp [enough] at short
      | succ fuel =>
          have shape : first.1 ++ first.2 ++ fieldsText (text :: texts) ++ rest =
              0x22 :: (written ++ [0x22]) ++ 0x3A ::
                (first.2 ++ 0x2C :: (text.1 ++ text.2 ++ fieldsText texts ++ rest)) := by
            simp [name, fieldsText]
          rw [shape] at short ⊢
          rw [read_member spells value (.inl rfl) short, if_pos rfl]
          have later := ih second (known ++ [field]) fuel (by
            simp only [enough, List.length_append, List.length_cons] at short ⊢
            omega)
          rw [later]
          simp

theorem writes_object {texts : List (Text × Text)} {fields : List (Text × Json)}
    (written : List.Forall₂ (Written toNumber) texts fields) :
    Writes toNumber (objectText texts) (.object fields) := by
  intro rest fuel _ short
  have brace : isSpace 0x7B = false := by decide
  have closing : isSpace 0x7D = false := by decide
  have quote : isSpace 0x22 = false := by decide
  cases fuel with
  | zero => simp [enough] at short
  | succ fuel =>
      cases written with
      | nil =>
          rw [objectText, List.cons_append, JsonText.read, skip_space_mark brace]
          simp only
          rw [if_neg (by decide), if_neg (by decide), if_pos trivial, List.singleton_append,
            skip_space_mark closing]
          rfl
      | @cons first field texts fields leads follow =>
          have shape : objectText (first :: texts) ++ rest =
              0x7B :: (first.1 ++ first.2 ++ fieldsText texts ++ rest) := by
            simp [objectText]
          rw [shape] at short ⊢
          have bound : enough (.members []) (first.1 ++ first.2 ++ fieldsText texts ++ rest) ≤
              fuel := by
            simp only [enough, List.length_cons] at short ⊢
            omega
          have members := read_members leads follow [] rest fuel bound
          have opens : ∃ more, first.1 ++ first.2 ++ fieldsText texts ++ rest = 0x22 :: more := by
            rcases leads.name with ⟨spelt, name, -⟩
            simp [name]
          rcases opens with ⟨more, opens⟩
          rw [JsonText.read, skip_space_mark brace]
          simp only
          rw [if_neg (by decide), if_neg (by decide), if_pos trivial, opens, skip_space_mark quote]
          simp only
          rw [if_neg (by decide), ← opens]
          exact members

end Objects

section Arrays

variable {toNumber : Text → JsNumber}

/-- An item of an array: it begins with neither white space nor a bracket. -/
structure Item (toNumber : Text → JsNumber) (text : Text) (json : Json) : Prop where
  writes : Writes toNumber text json
  leads : ∃ unit rest, text = unit :: rest ∧ isSpace unit = false ∧ unit ≠ 0x5D

/-- The items after the first one, and the closing bracket. -/
def itemsText : List Text → Text
  | [] => [0x5D]
  | item :: rest => 0x2C :: (item ++ itemsText rest)

def arrayText : List Text → Text
  | [] => [0x5B, 0x5D]
  | item :: rest => 0x5B :: (item ++ itemsText rest)

theorem read_elements {first : Text} {json : Json} {texts : List Text} {items : List Json}
    (leads : Writes toNumber first json) (follow : List.Forall₂ (Item toNumber) texts items)
    (known : List Json) (rest : Text) (fuel : Nat)
    (short : enough (.elements known) (first ++ itemsText texts ++ rest) ≤ fuel) :
    JsonText.read toNumber fuel (.elements known) (first ++ itemsText texts ++ rest) =
      some (.array (known ++ json :: items), rest) := by
  induction follow generalizing first json known fuel with
  | nil =>
      have bracket : isSpace 0x5D = false := by decide
      cases fuel with
      | zero => simp [enough] at short
      | succ fuel =>
          have shape : first ++ itemsText [] ++ rest = first ++ 0x5D :: rest := by
            simp [itemsText]
          have value := leads (0x5D :: rest) fuel (.inr (.inr (.inl rfl))) (by
            rw [shape] at short
            simp only [enough] at short ⊢
            omega)
          rw [shape, JsonText.read, value]
          simp only
          rw [skip_space_mark bracket]
          simp only
          rw [if_neg (by decide), if_pos trivial]
  | @cons text next texts items item _ ih =>
      have comma : isSpace 0x2C = false := by decide
      cases fuel with
      | zero => simp [enough] at short
      | succ fuel =>
          have shape : first ++ itemsText (text :: texts) ++ rest =
              first ++ 0x2C :: (text ++ itemsText texts ++ rest) := by
            simp [itemsText]
          rw [shape] at short ⊢
          have value := leads (0x2C :: (text ++ itemsText texts ++ rest)) fuel (.inl rfl) (by
            simp only [enough] at short ⊢
            omega)
          have later := ih item.writes (known ++ [json]) fuel (by
            simp only [enough, List.length_append, List.length_cons] at short ⊢
            omega)
          rw [JsonText.read, value]
          simp only
          rw [skip_space_mark comma]
          simp only
          rw [if_pos trivial, later]
          simp

theorem writes_array {texts : List Text} {items : List Json}
    (written : List.Forall₂ (Item toNumber) texts items) :
    Writes toNumber (arrayText texts) (.array items) := by
  intro rest fuel _ short
  have opening : isSpace 0x5B = false := by decide
  have closing : isSpace 0x5D = false := by decide
  cases fuel with
  | zero => simp [enough] at short
  | succ fuel =>
      cases written with
      | nil =>
          rw [arrayText, List.cons_append, JsonText.read, skip_space_mark opening]
          simp only
          rw [if_neg (by decide), if_pos trivial, List.singleton_append, skip_space_mark closing]
          rfl
      | @cons first json texts items item follow =>
          rcases item.leads with ⟨unit, more, same, dark, apart⟩
          have shape : arrayText (first :: texts) ++ rest =
              0x5B :: (first ++ itemsText texts ++ rest) := by
            simp [arrayText]
          have opens : first ++ itemsText texts ++ rest =
              unit :: (more ++ itemsText texts ++ rest) := by
            simp [same]
          rw [shape] at short ⊢
          have elements := read_elements item.writes follow [] rest fuel (by
            simp only [enough, List.length_cons] at short ⊢
            omega)
          rw [JsonText.read, skip_space_mark opening]
          simp only
          rw [if_neg (by decide), if_pos trivial, opens, skip_space_mark dark]
          simp only
          rw [if_neg apart, ← opens]
          exact elements

theorem writes_true : Writes toNumber (units "true") (.bool true) := by
  intro rest fuel _ short
  cases fuel with
  | zero => simp [enough] at short
  | succ fuel =>
      have word : units "true" = [0x74, 0x72, 0x75, 0x65] := by decide
      have null : afterWord "null" (units "true" ++ rest) = none := by
        rw [word]
        exact after_word_letter 0x6E (by decide) (by decide) _
      have spelt : afterWord "true" (units "true" ++ rest) = some rest := by
        rw [afterWord, if_pos (by simp), List.drop_left]
      have dark : isSpace 0x74 = false := by decide
      have read : plainValue toNumber (units "true" ++ rest) = some (.bool true, rest) := by
        rw [plainValue, null]
        simp only
        rw [spelt]
      rw [word] at read ⊢
      rw [List.cons_append, JsonText.read, skip_space_mark dark]
      simp only
      rw [if_neg (by decide), if_neg (by decide), if_neg (by decide)]
      exact read

end Arrays

section Texts

variable {toNumber : Text → JsNumber}

theorem parse_writes {text : Text} {json : Json} (writes : Writes toNumber text json)
    (spaces : Text) (blank : ∀ unit ∈ spaces, isSpace unit = true) :
    parse toNumber (text ++ spaces) = some json := by
  have separated : Separated spaces := by
    cases spaces with
    | nil => trivial
    | cons unit rest => exact .inr (.inr (.inr (blank unit List.mem_cons_self)))
  have nothing : skipSpace spaces = [] := List.dropWhile_eq_nil_iff.mpr blank
  rw [parse, writes spaces _ separated (Nat.le_refl _)]
  simp only
  rw [if_pos nothing]

end Texts

end Council.JsonWriting
