import Council.AskChecks

/-!
The `ask` as bytes: `JSON.stringify` of the message (ECMAScript's well-formed
encoding, over UTF-16 code units), sent as UTF-8, against the read limit of
`ws/session.go`. No code point takes more than the six bytes of a `\u` escape.
-/

namespace Council.AskBytes

open Council.Protocol Council.AskWire Council.AskChecks

/-- `conn.SetReadLimit(maxInboundBytes)`. -/
def maxInboundBytes : Nat := 8 * 1024

def hexDigit (digit : Nat) : UInt16 :=
  if digit < 10 then UInt16.ofNat (0x30 + digit) else UInt16.ofNat (0x61 + (digit - 10))

/-- `UnicodeEscape`: a backslash, a `u` and four lower-case hexadecimal digits. -/
def unicodeEscape (unit : UInt16) : Text :=
  [0x5C, 0x75, hexDigit (unit.toNat / 0x1000), hexDigit (unit.toNat / 0x100 % 0x10),
    hexDigit (unit.toNat / 0x10 % 0x10), hexDigit (unit.toNat % 0x10)]

/-- The single-letter escapes of JSON. -/
def shortEscape (unit : UInt16) : Option UInt16 :=
  if unit = 0x0008 then some 0x62
  else if unit = 0x0009 then some 0x74
  else if unit = 0x000A then some 0x6E
  else if unit = 0x000C then some 0x66
  else if unit = 0x000D then some 0x72
  else if unit = 0x0022 then some 0x22
  else if unit = 0x005C then some 0x5C
  else none

/-- A code point of one unit, as `QuoteJSONString` writes it. -/
def quoteUnit (unit : UInt16) : Text :=
  match shortEscape unit with
  | some letter => [0x5C, letter]
  | none =>
      if unit < 0x0020 || highSurrogate unit || lowSurrogate unit then unicodeEscape unit
      else [unit]

def quoteUnits : Text → Text
  | [] => []
  | [unit] => quoteUnit unit
  | high :: low :: rest =>
      if highSurrogate high && lowSurrogate low then high :: low :: quoteUnits rest
      else quoteUnit high ++ quoteUnits (low :: rest)

def quoteJSONString (text : Text) : Text := [0x22] ++ quoteUnits text ++ [0x22]

example : quoteJSONString [0x000A, 0xD83D, 0xDE00, 0xD83D] =
    [0x22, 0x5C, 0x6E, 0xD83D, 0xDE00] ++ unicodeEscape 0xD83D ++ [0x22] := by decide

/-- A number in JSON. `fraction` writes what is no integer of at most 21 digits. -/
def numberText (fraction : Rat → Text) : JsNumber → Text
  | .finite value =>
      if value.den = 1 ∧ value.num.natAbs < 10 ^ 21 then units (toString value.num)
      else fraction value
  | _ => units "null"

/-- `JSON.stringify(message)`; a property that is undefined is left out. -/
def stringify (fraction : Rat → Text) (message : AskMessage) : Text :=
  units "\x7b\"type\":\"ask\",\"question\":" ++ quoteJSONString message.question ++
    ((message.rounds.map fun rounds =>
      units ",\"rounds\":" ++ numberText fraction rounds).getD [] ++ units "\x7d")

/-- A text frame: the code points of the string as UTF-8, a lone surrogate as
U+FFFD. -/
def utf8 (text : Text) : List UInt8 := (decode text).flatMap String.utf8EncodeChar

theorem utf8_plain {unit : UInt16} (plain : highSurrogate unit = false) (rest : Text) :
    (utf8 (unit :: rest)).length = (single unit).utf8Size + (utf8 rest).length := by
  unfold utf8
  rw [decode_cons plain, List.flatMap_cons, List.length_append, String.length_utf8EncodeChar]

theorem plain_of_ascii {unit : UInt16} (ascii : unit.toNat < 0x80) :
    highSurrogate unit = false ∧ lowSurrogate unit = false := by
  rw [← Bool.not_eq_true, ← Bool.not_eq_true, highSurrogate_iff, lowSurrogate_iff]
  omega

theorem single_of_ascii {unit : UInt16} (ascii : unit.toNat < 0x80) :
    (single unit).utf8Size = 1 := by
  have plain := plain_of_ascii ascii
  have code := single_of_plain plain.1 plain.2
  have small : (single unit).val.toNat = unit.toNat := code
  rw [Char.utf8Size_eq_one_iff, UInt32.le_iff_toNat_le, small]
  exact Nat.le_of_lt_succ ascii

theorem utf8_ascii (text rest : Text) (ascii : ∀ unit ∈ text, unit.toNat < 0x80) :
    (utf8 (text ++ rest)).length = text.length + (utf8 rest).length := by
  induction text with
  | nil => simp
  | cons unit text ih =>
      have first := ascii unit List.mem_cons_self
      have later := ih fun other member => ascii other (List.mem_cons_of_mem unit member)
      rw [List.cons_append, utf8_plain (plain_of_ascii first).1, single_of_ascii first, later,
        List.length_cons]
      omega

theorem hexDigit_ascii (digit : Nat) (small : digit < 16) : (hexDigit digit).toNat < 0x80 := by
  unfold hexDigit
  split
  · simp only [UInt16.toNat_ofNat']
    omega
  · simp only [UInt16.toNat_ofNat']
    omega

theorem unicodeEscape_ascii (unit : UInt16) :
    ∀ escaped ∈ unicodeEscape unit, escaped.toNat < 0x80 := by
  have small := unit.toNat_lt
  intro escaped member
  simp only [unicodeEscape, List.mem_cons, List.not_mem_nil, or_false] at member
  rcases member with rfl | rfl | rfl | rfl | rfl | rfl
  · decide
  · decide
  · exact hexDigit_ascii _ (by omega)
  · exact hexDigit_ascii _ (by omega)
  · exact hexDigit_ascii _ (by omega)
  · exact hexDigit_ascii _ (by omega)

theorem shortEscape_ascii {unit letter : UInt16} (escaped : shortEscape unit = some letter) :
    letter.toNat < 0x80 := by
  unfold shortEscape at escaped
  repeat' split at escaped
  all_goals cases escaped
  all_goals decide

theorem quoteUnit_bytes (unit : UInt16) (rest : Text) :
    (utf8 (quoteUnit unit ++ rest)).length ≤ 6 + (utf8 rest).length := by
  unfold quoteUnit
  split
  next letter escaped =>
    rw [utf8_ascii]
    · simp
    · intro written member
      simp only [List.mem_cons, List.not_mem_nil, or_false] at member
      rcases member with rfl | rfl
      · decide
      · exact shortEscape_ascii escaped
  next plain =>
    split
    · rw [utf8_ascii _ _ (unicodeEscape_ascii unit)]
      exact Nat.le_refl _
    next printed =>
      have high : highSurrogate unit = false := by
        simp only [Bool.or_eq_true, not_or, Bool.not_eq_true] at printed
        exact printed.1.2
      have size := Char.utf8Size_le_four (single unit)
      rw [List.singleton_append, utf8_plain high]
      omega

theorem quoteUnits_bytes (text rest : Text) :
    (utf8 (quoteUnits text ++ rest)).length ≤ 6 * runeCount text + (utf8 rest).length := by
  induction text using quoteUnits.induct with
  | case1 => simp [quoteUnits, runeCount]
  | case2 unit =>
      have bytes := quoteUnit_bytes unit rest
      simpa [quoteUnits, runeCount] using bytes
  | case3 high low tail pair ih =>
      have size := Char.utf8Size_le_four (paired high low)
      have whole : utf8 (high :: low :: (quoteUnits tail ++ rest)) =
          String.utf8EncodeChar (paired high low) ++ utf8 (quoteUnits tail ++ rest) := by
        simp [utf8, decode, pair]
      simp only [quoteUnits, runeCount, pair, if_true, List.cons_append]
      rw [whole, List.length_append, String.length_utf8EncodeChar]
      omega
  | case4 high low tail apart ih =>
      have bytes := quoteUnit_bytes high (quoteUnits (low :: tail) ++ rest)
      rw [quoteUnits, if_neg apart, runeCount, if_neg apart, List.append_assoc]
      omega

theorem units_ascii (literal : String)
    (ascii : literal.toList.all (fun char => decide (char.toNat < 0x80)) = true) :
    ∀ unit ∈ units literal, unit.toNat < 0x80 := by
  intro unit member
  rcases List.mem_flatMap.mp member with ⟨char, inside, written⟩
  have small : char.toNat < 0x80 := by simpa using List.all_eq_true.mp ascii char inside
  rw [if_pos (by omega : char.toNat < 0x10000)] at written
  simp only [List.mem_singleton] at written
  rw [written, UInt16.toNat_ofNat']
  omega

theorem numberText_accepted (fraction : Rat → Text) (rounds : JsNumber)
    (accepted : roundsAccepted rounds = true) :
    (numberText fraction rounds).length = 1 ∧
      ∀ unit ∈ numberText fraction rounds, unit.toNat < 0x80 := by
  cases rounds with
  | nan => cases accepted
  | negInf => cases accepted
  | posInf => cases accepted
  | finite value =>
      have whole : value.den = 1 := by
        simp only [roundsAccepted, Bool.and_eq_true, beq_iff_eq] at accepted
        exact accepted.1.1.1
      have same : JsNumber.finite value = number value.num :=
        congrArg JsNumber.finite (Rat.den_eq_one_iff value |>.mp whole).symm
      have fits := (roundsAccepted_iff value.num).mp (by rw [← same]; exact accepted)
      have bounds : 2 ≤ value.num ∧ value.num ≤ 8 := ⟨fits.1, fits.2.1⟩
      have written : numberText fraction (.finite value) = units (toString value.num) :=
        if_pos ⟨whole, by omega⟩
      rw [written]
      rcases (by omega : value.num = 2 ∨ value.num = 3 ∨ value.num = 4 ∨ value.num = 5 ∨
        value.num = 6 ∨ value.num = 7 ∨ value.num = 8) with
        digit | digit | digit | digit | digit | digit | digit
      all_goals
        rw [digit]
        exact ⟨by decide, units_ascii _ (by decide)⟩

theorem built_inside {question : Text} {rounds : Option JsNumber} {message : AskMessage}
    (built : buildAsk question rounds = .ok message) :
    runeCount message.question ≤ MAX_QUESTION_RUNES ∧
      ∀ given, message.rounds = some given → roundsAccepted given = true := by
  unfold buildAsk at built
  simp only at built
  split at built
  · cases built
  split at built
  · cases built
  next short =>
    split at built
    · cases built
    next fine =>
      cases built
      constructor
      · exact Nat.le_of_not_gt short
      · rintro given same
        have given_ : rounds = some given := same
        subst given_
        simpa using fine

theorem opening_ascii :
    ∀ unit ∈ units "\x7b\"type\":\"ask\",\"question\":", unit.toNat < 0x80 :=
  units_ascii _ (by decide)

theorem closing_bytes (fraction : Rat → Text) (rounds : Option JsNumber)
    (accepted : ∀ given, rounds = some given → roundsAccepted given = true) :
    (utf8 ((rounds.map fun given =>
      units ",\"rounds\":" ++ numberText fraction given).getD [] ++ units "\x7d")).length ≤
        12 := by
  have brace : (utf8 (units "\x7d")).length ≤ 1 := by decide
  have comma : ∀ unit ∈ units ",\"rounds\":", unit.toNat < 0x80 := units_ascii _ (by decide)
  have comma_length : (units ",\"rounds\":").length = 10 := by decide
  cases rounds with
  | none => exact Nat.le_trans brace (by decide)
  | some given =>
      have written := numberText_accepted fraction given (accepted given rfl)
      simp only [Option.map_some, Option.getD_some, List.append_assoc]
      rw [utf8_ascii _ _ comma, utf8_ascii _ _ written.2, written.1, comma_length]
      omega

/-- Every message `buildAsk` accepts fits the server's read limit, whatever the
question is made of. -/
theorem ask_within_read_limit (fraction : Rat → Text) (question : Text)
    (rounds : Option JsNumber) (message : AskMessage)
    (built : buildAsk question rounds = .ok message) :
    (utf8 (stringify fraction message)).length ≤ maxInboundBytes := by
  rcases built_inside built with ⟨short, accepted⟩
  have closing := closing_bytes fraction message.rounds accepted
  have opening : (units "\x7b\"type\":\"ask\",\"question\":").length = 25 := by decide
  have quote : ∀ unit ∈ ([0x22] : Text), unit.toNat < 0x80 := by
    intro unit member
    rw [List.mem_singleton.mp member]
    decide
  unfold stringify quoteJSONString
  simp only [List.append_assoc]
  rw [utf8_ascii _ _ opening_ascii, opening, utf8_ascii _ _ quote]
  have body := quoteUnits_bytes message.question
    ([0x22] ++ ((message.rounds.map fun rounds =>
      units ",\"rounds\":" ++ numberText fraction rounds).getD [] ++ units "\x7d"))
  rw [utf8_ascii _ _ quote] at body
  simp only [MAX_QUESTION_RUNES] at short
  simp only [List.length_singleton, maxInboundBytes] at body ⊢
  omega

/-- A lone surrogate and a control character, six bytes each. -/
theorem ask_within_read_limit_escaped :
    (utf8 (stringify (fun _ => []) ⟨[0xD800, 0x0001], some (.finite 2)⟩)).length ≤
      maxInboundBytes :=
  ask_within_read_limit (fun _ => []) [0xD800, 0x0001] (some (.finite 2)) _ (by decide)

end Council.AskBytes
