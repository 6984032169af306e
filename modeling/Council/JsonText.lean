import Council.EventWire

/-!
`JSON.parse`: the JSON grammar over UTF-16 code units, without a reviver. The
number a literal denotes is a parameter. Each call of the parser takes a unit
of fuel; twice the length of the text is always enough.
-/

namespace Council.JsonText

open Council.Protocol Council.EventWire

def isSpace (unit : UInt16) : Bool :=
  unit == 0x0009 || unit == 0x000A || unit == 0x000D || unit == 0x0020

def skipSpace (text : Text) : Text := text.dropWhile isSpace

def isDigit (unit : UInt16) : Bool := 0x30 ≤ unit && unit ≤ 0x39

def hexDigit (unit : UInt16) : Option Nat :=
  if isDigit unit then some (unit.toNat - 0x30)
  else if 0x61 ≤ unit && unit ≤ 0x66 then some (unit.toNat - 0x61 + 10)
  else if 0x41 ≤ unit && unit ≤ 0x46 then some (unit.toNat - 0x41 + 10)
  else none

def hexUnit (first second third fourth : UInt16) : Option UInt16 := do
  let first ← hexDigit first
  let second ← hexDigit second
  let third ← hexDigit third
  let fourth ← hexDigit fourth
  some (UInt16.ofNat (((first * 16 + second) * 16 + third) * 16 + fourth))

/-- What a backslash and a letter other than `u` stand for. -/
def escaped (letter : UInt16) : Option UInt16 :=
  if letter = 0x22 then some 0x22
  else if letter = 0x5C then some 0x5C
  else if letter = 0x2F then some 0x2F
  else if letter = 0x62 then some 0x08
  else if letter = 0x66 then some 0x0C
  else if letter = 0x6E then some 0x0A
  else if letter = 0x72 then some 0x0D
  else if letter = 0x74 then some 0x09
  else none

def escape : Text → Option (UInt16 × Text)
  | [] => none
  | letter :: rest =>
      if letter = 0x75 then
        match rest with
        | first :: second :: third :: fourth :: rest =>
            (hexUnit first second third fourth).map (·, rest)
        | _ => none
      else (escaped letter).map (·, rest)

theorem escape_shorter {text rest : Text} {unit : UInt16}
    (read : escape text = some (unit, rest)) : rest.length < text.length := by
  unfold escape at read
  split at read
  · cases read
  next letter after =>
    split at read
    · split at read
      next =>
        rcases Option.map_eq_some_iff.mp read with ⟨code, -, same⟩
        cases same
        simp only [List.length_cons]
        omega
      · cases read
    · rcases Option.map_eq_some_iff.mp read with ⟨code, -, same⟩
      cases same
      simp

/-- The characters of a string up to its closing quote, and the text after. -/
def stringBody (fuel : Nat) (text : Text) : Option (Text × Text) :=
  match fuel, text with
  | 0, _ => none
  | _, [] => none
  | fuel + 1, unit :: rest =>
      if unit = 0x22 then some ([], rest)
      else if unit = 0x5C then
        match escape rest with
        | none => none
        | some (code, rest) =>
            (stringBody fuel rest).map fun body => (code :: body.1, body.2)
      else if unit < 0x20 then none
      else (stringBody fuel rest).map fun body => (unit :: body.1, body.2)

/-- `e`, an optional sign and at least one digit. -/
def exponent (literal : Text) : Text → Option (Text × Text)
  | [] => some (literal, [])
  | letter :: rest =>
      if letter = 0x65 ∨ letter = 0x45 then
        let sign := rest.takeWhile fun unit => unit == 0x2B || unit == 0x2D
        let rest := rest.dropWhile fun unit => unit == 0x2B || unit == 0x2D
        if 1 < sign.length ∨ rest.takeWhile isDigit = [] then none
        else
          some (literal ++ letter :: (sign ++ rest.takeWhile isDigit), rest.dropWhile isDigit)
      else some (literal, letter :: rest)

def fraction (literal : Text) : Text → Option (Text × Text)
  | [] => some (literal, [])
  | dot :: rest =>
      if dot = 0x2E then
        if rest.takeWhile isDigit = [] then none
        else exponent (literal ++ dot :: rest.takeWhile isDigit) (rest.dropWhile isDigit)
      else exponent literal (dot :: rest)

/-- A number without its sign: a zero alone, or digits that begin with another. -/
def unsigned (literal : Text) : Text → Option (Text × Text)
  | [] => none
  | digit :: rest =>
      if digit = 0x30 then fraction (literal ++ [digit]) rest
      else if isDigit digit then
        fraction (literal ++ digit :: rest.takeWhile isDigit) (rest.dropWhile isDigit)
      else none

def numberLiteral : Text → Option (Text × Text)
  | [] => none
  | sign :: rest =>
      if sign = 0x2D then unsigned [sign] rest else unsigned [] (sign :: rest)

def afterWord (word : String) (text : Text) : Option Text :=
  if (units word).isPrefixOf text then some (text.drop (units word).length) else none

/-- What is to be read: a value, or the rest of an array or an object whose
items or fields so far are known. -/
inductive Goal where
  | value
  | elements (items : List Json)
  | members (fields : List (Text × Json))

/-- A value that is no array, object or string. -/
def plainValue (toNumber : Text → JsNumber) (text : Text) : Option (Json × Text) :=
  match afterWord "null" text with
  | some rest => some (.null, rest)
  | none =>
    match afterWord "true" text with
    | some rest => some (.bool true, rest)
    | none =>
      match afterWord "false" text with
      | some rest => some (.bool false, rest)
      | none => (numberLiteral text).map fun read => (.number (toNumber read.1), read.2)

def read (toNumber : Text → JsNumber) : Nat → Goal → Text → Option (Json × Text)
  | 0, _, _ => none
  | fuel + 1, .value, text =>
      match skipSpace text with
      | [] => none
      | unit :: rest =>
          if unit = 0x22 then
            (stringBody rest.length rest).map fun body => (.string body.1, body.2)
          else if unit = 0x5B then
            match skipSpace rest with
            | [] => none
            | next :: after =>
                if next = 0x5D then some (.array [], after)
                else read toNumber fuel (.elements []) (next :: after)
          else if unit = 0x7B then
            match skipSpace rest with
            | [] => none
            | next :: after =>
                if next = 0x7D then some (.object [], after)
                else read toNumber fuel (.members []) (next :: after)
          else plainValue toNumber (unit :: rest)
  | fuel + 1, .elements items, text =>
      match read toNumber fuel .value text with
      | none => none
      | some (item, rest) =>
          match skipSpace rest with
          | [] => none
          | separator :: rest =>
              if separator = 0x2C then read toNumber fuel (.elements (items ++ [item])) rest
              else if separator = 0x5D then some (.array (items ++ [item]), rest)
              else none
  | fuel + 1, .members fields, text =>
      match skipSpace text with
      | [] => none
      | quote :: rest =>
          if quote ≠ 0x22 then none
          else
            match stringBody rest.length rest with
            | none => none
            | some (key, rest) =>
                match skipSpace rest with
                | [] => none
                | colon :: rest =>
                    if colon ≠ 0x3A then none
                    else
                      match read toNumber fuel .value rest with
                      | none => none
                      | some (value, rest) =>
                          match skipSpace rest with
                          | [] => none
                          | separator :: rest =>
                              if separator = 0x2C then
                                read toNumber fuel (.members (fields ++ [(key, value)])) rest
                              else if separator = 0x7D then
                                some (.object (fields ++ [(key, value)]), rest)
                              else none

/-- The fuel a text needs for a goal. -/
def enough (goal : Goal) (text : Text) : Nat :=
  match goal with
  | .value => 2 * text.length + 1
  | _ => 2 * text.length + 2

/-- `JSON.parse`: one value and white space around it. -/
def parse (toNumber : Text → JsNumber) (text : Text) : Option Json :=
  match read toNumber (enough .value text) .value text with
  | some (json, rest) => if skipSpace rest = [] then some json else none
  | none => none

section Lengths

variable {text rest : Text}

theorem skip_space_le (text : Text) : (skipSpace text).length ≤ text.length :=
  List.IsSuffix.length_le (List.dropWhile_suffix isSpace)

theorem skip_space_cons {unit : UInt16} (first : skipSpace text = unit :: rest) :
    rest.length < text.length := by
  have shorter := skip_space_le text
  rw [first, List.length_cons] at shorter
  exact shorter

theorem string_body_shorter {fuel : Nat} {body : Text}
    (read : stringBody fuel text = some (body, rest)) :
    body.length + rest.length < text.length := by
  induction fuel generalizing text body with
  | zero => cases read
  | succ fuel ih =>
      cases text with
      | nil => cases read
      | cons unit tail =>
          unfold stringBody at read
          split at read
          · cases read
            simp
          split at read
          · split at read
            · cases read
            next code after escape_read =>
              have shorter := escape_shorter escape_read
              rcases Option.map_eq_some_iff.mp read with ⟨later, found, same⟩
              cases same
              have bound := ih found
              simp only [List.length_cons]
              omega
          split at read
          · cases read
          · rcases Option.map_eq_some_iff.mp read with ⟨later, found, same⟩
            cases same
            have bound := ih found
            simp only [List.length_cons]
            omega

theorem drop_digits_le (text : Text) : (text.dropWhile isDigit).length ≤ text.length :=
  List.IsSuffix.length_le (List.dropWhile_suffix isDigit)

theorem exponent_le {literal number : Text}
    (read : exponent literal text = some (number, rest)) : rest.length ≤ text.length := by
  unfold exponent at read
  split at read
  · cases read
    exact Nat.le_refl _
  next letter after =>
    split at read
    · simp only at read
      split at read
      · cases read
      · cases read
        have digits := drop_digits_le
          (after.dropWhile fun unit => unit == 0x2B || unit == 0x2D)
        have signs : (after.dropWhile fun unit => unit == 0x2B || unit == 0x2D).length ≤
            after.length := List.IsSuffix.length_le (List.dropWhile_suffix _)
        simp only [List.length_cons]
        omega
    · cases read
      exact Nat.le_refl _

theorem fraction_le {literal number : Text}
    (read : fraction literal text = some (number, rest)) : rest.length ≤ text.length := by
  unfold fraction at read
  split at read
  · cases read
    exact Nat.le_refl _
  next dot after =>
    split at read
    · split at read
      · cases read
      · have bound := exponent_le read
        have digits := drop_digits_le after
        simp only [List.length_cons]
        omega
    · exact exponent_le read

theorem unsigned_shorter {literal number : Text}
    (read : unsigned literal text = some (number, rest)) : rest.length < text.length := by
  unfold unsigned at read
  split at read
  · cases read
  next digit after =>
    split at read
    · exact Nat.lt_succ_of_le (fraction_le read)
    split at read
    · have bound := fraction_le read
      have digits := drop_digits_le after
      simp only [List.length_cons]
      omega
    · cases read

theorem number_literal_shorter {number : Text}
    (read : numberLiteral text = some (number, rest)) : rest.length < text.length := by
  unfold numberLiteral at read
  split at read
  · cases read
  next sign after =>
    split at read
    · exact Nat.lt_succ_of_lt (unsigned_shorter read)
    · exact unsigned_shorter read

theorem after_word_shorter {word : String} (some_ : 0 < (units word).length)
    (read : afterWord word text = some rest) : rest.length < text.length := by
  unfold afterWord at read
  split at read
  next begins =>
    cases read
    have inside := (List.isPrefixOf_iff_prefix.mp begins).length_le
    rw [List.length_drop]
    omega
  · cases read

end Lengths

/-- No string of the value is longer than the bound: the value itself, or a
field of it. -/
def Sized (bound : Nat) : Json → Prop
  | .string text => text.length ≤ bound
  | .object fields =>
      ∀ field ∈ fields, ∀ text, field.2 = .string text → text.length ≤ bound
  | _ => True

def Goal.Sized (bound : Nat) : Goal → Prop
  | .members fields => JsonText.Sized bound (.object fields)
  | _ => True

theorem plain_value_read {toNumber : Text → JsNumber} {text rest : Text} {json : Json}
    (read : plainValue toNumber text = some (json, rest)) (bound : Nat) :
    rest.length < text.length ∧ Sized bound json := by
  unfold plainValue at read
  split at read
  next found =>
    cases read
    exact ⟨after_word_shorter (by decide) found, trivial⟩
  split at read
  next found =>
    cases read
    exact ⟨after_word_shorter (by decide) found, trivial⟩
  split at read
  next found =>
    cases read
    exact ⟨after_word_shorter (by decide) found, trivial⟩
  · rcases Option.map_eq_some_iff.mp read with ⟨number, found, same⟩
    cases same
    exact ⟨number_literal_shorter found, trivial⟩

theorem sized_field {bound : Nat} {fields : List (Text × Json)} {key : Text} {value : Json}
    (sized : Sized bound (.object fields)) (more : Sized bound value) :
    Sized bound (.object (fields ++ [(key, value)])) := by
  intro field member text same
  rcases List.mem_append.mp member with earlier | last
  · exact sized field earlier text same
  · rw [List.mem_singleton.mp last] at same
    cases same
    exact more

section Reading

variable {toNumber : Text → JsNumber} {fuel bound : Nat}

/-- Reading a goal takes at least one unit off the text and makes no string
longer than the text. -/
def ReadsSized (toNumber : Text → JsNumber) (fuel bound : Nat) : Prop :=
  ∀ {goal : Goal} {text rest : Text} {json : Json},
    read toNumber fuel goal text = some (json, rest) → text.length ≤ bound →
      goal.Sized bound → rest.length < text.length ∧ Sized bound json

variable {text rest : Text} {json : Json}

theorem value_sized (reads : ReadsSized toNumber fuel bound)
    (read_ : read toNumber (fuel + 1) .value text = some (json, rest))
    (short : text.length ≤ bound) : rest.length < text.length ∧ Sized bound json := by
  unfold read at read_
  split at read_
  · cases read_
  next unit after spaces =>
    have first := skip_space_cons spaces
    -- an array or an object goes on after its bracket
    have inside : ∀ {next : UInt16} {later : Text}, skipSpace after = next :: later →
        ∀ goal, read toNumber fuel goal (next :: later) = some (json, rest) →
          goal.Sized bound → rest.length < text.length ∧ Sized bound json := by
      intro next later spaces_ goal found sized
      have second := skip_space_cons spaces_
      have inner := reads found (by simp only [List.length_cons]; omega) sized
      simp only [List.length_cons] at inner
      exact ⟨by omega, inner.2⟩
    split at read_
    · rcases Option.map_eq_some_iff.mp read_ with ⟨body, found, same⟩
      cases same
      have shorter := string_body_shorter found
      exact ⟨by omega, by simp only [Sized]; omega⟩
    split at read_
    · split at read_
      · cases read_
      next next_ later spaces_ =>
        have second := skip_space_cons spaces_
        split at read_
        · cases read_
          exact ⟨by omega, trivial⟩
        · exact inside spaces_ _ read_ trivial
    split at read_
    · split at read_
      · cases read_
      next next_ later spaces_ =>
        have second := skip_space_cons spaces_
        split at read_
        · cases read_
          exact ⟨by omega, nofun⟩
        · exact inside spaces_ _ read_ nofun
    · have plain := plain_value_read read_ bound
      simp only [List.length_cons] at plain
      exact ⟨by omega, plain.2⟩

theorem elements_sized (reads : ReadsSized toNumber fuel bound) {items : List Json}
    (read_ : read toNumber (fuel + 1) (.elements items) text = some (json, rest))
    (short : text.length ≤ bound) : rest.length < text.length ∧ Sized bound json := by
  unfold read at read_
  split at read_
  · cases read_
  next item after found =>
    have inner := reads found short trivial
    split at read_
    · cases read_
    next separator later spaces =>
      have next_ := skip_space_cons spaces
      split at read_
      · have outer := reads read_ (by omega) trivial
        exact ⟨by omega, outer.2⟩
      split at read_
      · cases read_
        exact ⟨by omega, trivial⟩
      · cases read_

theorem members_sized (reads : ReadsSized toNumber fuel bound) {fields : List (Text × Json)}
    (read_ : read toNumber (fuel + 1) (.members fields) text = some (json, rest))
    (short : text.length ≤ bound) (sized : Sized bound (.object fields)) :
    rest.length < text.length ∧ Sized bound json := by
  unfold read at read_
  split at read_
  · cases read_
  next quote after spaces =>
    have first := skip_space_cons spaces
    split at read_
    · cases read_
    split at read_
    · cases read_
    next key tail named =>
      have shorter := string_body_shorter named
      split at read_
      · cases read_
      next colon body spaces_ =>
        have second := skip_space_cons spaces_
        split at read_
        · cases read_
        split at read_
        · cases read_
        next value later found =>
          have inner := reads found (by omega) trivial
          have grown : Sized bound (.object (fields ++ [(key, value)])) :=
            sized_field sized inner.2
          split at read_
          · cases read_
          next separator last spaces_after =>
            have third := skip_space_cons spaces_after
            split at read_
            · have outer := reads read_ (by omega) grown
              exact ⟨by omega, outer.2⟩
            split at read_
            · cases read_
              exact ⟨by omega, grown⟩
            · cases read_

theorem read_sized (toNumber : Text → JsNumber) (fuel bound : Nat) :
    ReadsSized toNumber fuel bound := by
  induction fuel with
  | zero => exact nofun
  | succ fuel ih =>
      intro goal text rest json found short sized
      cases goal with
      | value => exact value_sized ih found short
      | elements items => exact elements_sized ih found short
      | members fields => exact members_sized ih found short sized

end Reading

theorem parse_sized {toNumber : Text → JsNumber} {text : Text} {json : Json}
    (parsed : parse toNumber text = some json) : Sized text.length json := by
  unfold parse at parsed
  split at parsed
  next value rest found =>
    split at parsed
    · cases parsed
      exact (read_sized toNumber _ _ found (Nat.le_refl _) trivial).2
    · cases parsed
  · cases parsed

section Fuel

variable (toNumber : Text → JsNumber)

theorem string_body_more (fuel : Nat) (text : Text) (short : text.length ≤ fuel) :
    stringBody fuel text = stringBody (fuel + 1) text := by
  induction fuel generalizing text with
  | zero =>
      cases text with
      | nil => rfl
      | cons unit rest => exact absurd short (by simp)
  | succ fuel ih =>
      cases text with
      | nil => rfl
      | cons unit rest =>
          simp only [List.length_cons] at short
          rw [stringBody, stringBody]
          rw [ih rest (by omega)]
          cases read : escape rest with
          | none => rfl
          | some code =>
              have shorter := escape_shorter read
              simp only
              rw [ih code.2 (by omega)]

/-- More fuel than a text needs changes nothing. -/
def Steady (fuel : Nat) : Prop :=
  ∀ goal text, enough goal text ≤ fuel →
    read toNumber fuel goal text = read toNumber (fuel + 1) goal text

variable {toNumber : Text → JsNumber} {fuel : Nat}

theorem value_steady (steady : Steady toNumber fuel) (text : Text)
    (short : enough .value text ≤ fuel + 1) :
    read toNumber (fuel + 1) .value text = read toNumber (fuel + 2) .value text := by
  simp only [enough] at short
  rw [read, read]
  cases spaces : skipSpace text with
  | nil => rfl
  | cons unit rest =>
      have first := skip_space_cons spaces
      have inside : ∀ (next : UInt16) (after : Text) (goal : Goal),
          skipSpace rest = next :: after →
          read toNumber fuel goal (next :: after) =
            read toNumber (fuel + 1) goal (next :: after) := by
        intro next after goal spaces_
        have second := skip_space_cons spaces_
        apply steady
        cases goal <;> (simp only [enough, List.length_cons]; omega)
      simp only
      cases spaces_ : skipSpace rest with
      | nil => rfl
      | cons next after =>
          simp only
          rw [inside next after _ spaces_, inside next after _ spaces_]

theorem elements_steady (steady : Steady toNumber fuel) (items : List Json) (text : Text)
    (short : enough (.elements items) text ≤ fuel + 1) :
    read toNumber (fuel + 1) (.elements items) text =
      read toNumber (fuel + 2) (.elements items) text := by
  simp only [enough] at short
  rw [read, read]
  rw [← steady .value text (by simp only [enough]; omega)]
  cases found : read toNumber fuel .value text with
  | none => rfl
  | some answer =>
      obtain ⟨item, rest⟩ := answer
      have inner := (read_sized toNumber _ _ found (Nat.le_refl _) trivial).1
      simp only
      cases spaces : skipSpace rest with
      | nil => rfl
      | cons separator after =>
          have next_ := skip_space_cons spaces
          simp only
          rw [steady (.elements (items ++ [item])) after (by simp only [enough]; omega)]

theorem members_steady (steady : Steady toNumber fuel) (fields : List (Text × Json))
    (text : Text) (short : enough (.members fields) text ≤ fuel + 1) :
    read toNumber (fuel + 1) (.members fields) text =
      read toNumber (fuel + 2) (.members fields) text := by
  simp only [enough] at short
  rw [read, read]
  cases spaces : skipSpace text with
  | nil => rfl
  | cons quote rest =>
      have first := skip_space_cons spaces
      simp only
      cases named : stringBody rest.length rest with
      | none => rfl
      | some named_ =>
          obtain ⟨key, tail⟩ := named_
          have shorter := string_body_shorter named
          simp only
          cases spaces_ : skipSpace tail with
          | nil => rfl
          | cons colon body =>
              have second := skip_space_cons spaces_
              simp only
              rw [← steady .value body (by simp only [enough]; omega)]
              cases found : read toNumber fuel .value body with
              | none => rfl
              | some answer =>
                  obtain ⟨value, later⟩ := answer
                  have inner := (read_sized toNumber _ _ found (Nat.le_refl _) trivial).1
                  simp only
                  cases spaces_after : skipSpace later with
                  | nil => rfl
                  | cons separator last =>
                      have third := skip_space_cons spaces_after
                      simp only
                      rw [steady (.members (fields ++ [(key, value)])) last
                        (by simp only [enough]; omega)]

theorem read_steady (toNumber : Text → JsNumber) (fuel : Nat) : Steady toNumber fuel := by
  induction fuel with
  | zero =>
      intro goal text short
      cases goal <;> exact absurd short (by simp [enough])
  | succ fuel ih =>
      intro goal text short
      cases goal with
      | value => exact value_steady ih text short
      | elements items => exact elements_steady ih items text short
      | members fields => exact members_steady ih fields text short

theorem parse_total (toNumber : Text → JsNumber) (fuel : Nat) (text : Text)
    (short : enough .value text ≤ fuel) :
    read toNumber fuel .value text = read toNumber (enough .value text) .value text := by
  induction fuel with
  | zero => exact absurd short (by simp [enough])
  | succ fuel ih =>
      rcases Nat.lt_or_eq_of_le short with less | same
      · rw [← read_steady toNumber fuel .value text (Nat.le_of_lt_succ less)]
        exact ih (Nat.le_of_lt_succ less)
      · rw [← same]

end Fuel

example : parse (fun _ => .finite 2) (units "[1, \x7b\"a\":\"\\u0041\\n\"\x7d]") =
    some (.array [.number (.finite 2), .object [(units "a", .string (units "A\n"))]]) := by
  rfl

end Council.JsonText
