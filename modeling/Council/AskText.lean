import Council.AskBytes
import Council.EventText

/-!
The text of the `ask` and how the server reads it: `wsjson.Read` into
`ClientMessage`, with the read limit of the connection, the field names of the
struct's tags and the type of each field. `encoding/json` and `JSON.parse` have
one grammar; a text frame is UTF-8, so it is a list of runes here.
-/

namespace Council.AskText

open Council.Protocol
open Council.ServerProtocol
open Council.AskWire
open Council.AskBytes
open Council.EventWire
open Council.JsonText
open Council.JsonWriting
open Council.EventText

section Unmarshal

/-- `foldRune`, where it matters for a name of ASCII letters. -/
def foldRune (rune : Char) : Char :=
  if rune = Char.ofNat 0x017F then 'S'
  else if rune = Char.ofNat 0x212A then 'K'
  else rune.toUpper

/-- The fields of `ClientMessage` by their tags. -/
def fieldNames : List String := ["type", "question", "rounds"]

/-- `foldName`. -/
def foldName (key : List Char) : List Char := key.map foldRune

/-- The field a key names: exactly, or else whatever the case. -/
def fieldOf (key : List Char) : Option String :=
  (fieldNames.find? fun name => name.toList = key).or
    (fieldNames.find? fun name => foldName name.toList = foldName key)

example : fieldOf "QUE\u017FTION".toList = some "question" ∧ fieldOf "q".toList = none := by decide

/-- An `int` as `ParseInt` reads it; every other literal is a type error, which
is told apart by NaN. -/
def parseInt (literal : Text) : JsNumber :=
  let negative := literal.head? == some 0x2D
  let digits := if negative then literal.tail else literal
  let value : Int := (Nat.ofDigitChars 10 (decode digits) 0 : Nat)
  let signed := if negative then -value else value
  if digits.all isDigit && (-2 ^ 63 ≤ signed && signed < 2 ^ 63) then .finite signed else .nan

/-- A value stored into a field, if it has the field's type. `null` stores
nothing. -/
def store (message : ClientMessage) (name : String) : Json → Option ClientMessage
  | .null => some message
  | .string text =>
      if name = "type" then some { message with type := String.ofList (decode text) }
      else if name = "question" then some { message with question := String.ofList (decode text) }
      else none
  | .number (.finite value) =>
      if name = "rounds" then some { message with rounds := value.num } else none
  | _ => none

/-- The fields of an object in their order; a key the struct does not know is
skipped. -/
def storeFields (message : ClientMessage) : List (Text × Json) → Option ClientMessage
  | [] => some message
  | (key, value) :: rest =>
      match fieldOf (decode key) with
      | none => storeFields message rest
      | some name => (store message name value).bind fun stored => storeFields stored rest

/-- `json.Unmarshal` into a `ClientMessage`. -/
def unmarshal (frame : List Char) : Option ClientMessage :=
  match parse parseInt (frame.flatMap charUnits) with
  | some (.object fields) => storeFields ⟨"", "", 0⟩ fields
  | some .null => some ⟨"", "", 0⟩
  | _ => none

/-- `wsjson.Read` of a text frame. -/
def readMessage (frame : List Char) : Option ClientMessage :=
  if (frame.flatMap String.utf8EncodeChar).length ≤ maxInboundBytes then unmarshal frame
  else none

end Unmarshal

section Runes

/-- The runes of the text have its code units, wherever it stands. -/
def Faithful (text : Text) : Prop :=
  ∀ rest, (decode (text ++ rest)).flatMap charUnits = text ++ (decode rest).flatMap charUnits

theorem faithful_nil : Faithful [] := fun _ => rfl

theorem Faithful.append {first second : Text} (one : Faithful first) (other : Faithful second) :
    Faithful (first ++ second) := by
  intro rest
  rw [List.append_assoc, one, other, List.append_assoc]

theorem faithful_single {unit : UInt16} (high : highSurrogate unit = false)
    (low : lowSurrogate unit = false) : Faithful [unit] := by
  intro rest
  have code := single_of_plain high low
  have small : (single unit).toNat < 0x10000 := by
    have := unit.toNat_lt
    omega
  have back : charUnits (single unit) = [unit] := by
    unfold charUnits
    simp only
    rw [if_pos small, code, UInt16.ofNat_toNat]
  rw [List.singleton_append, decode_cons high, List.flatMap_cons, back]

theorem faithful_pair {high low : UInt16} (first : highSurrogate high = true)
    (second : lowSurrogate low = true) : Faithful [high, low] := by
  intro rest
  have large := toNat_paired first second
  rw [highSurrogate_iff] at first
  rw [lowSurrogate_iff] at second
  have valid : (0x10000 + (high.toNat - 0xD800) * 0x400 + (low.toNat - 0xDC00)).isValidChar := by
    simp only [Nat.isValidChar]
    omega
  have code : (paired high low).toNat =
      0x10000 + (high.toNat - 0xD800) * 0x400 + (low.toNat - 0xDC00) := toNat_ofNat valid
  have back : charUnits (paired high low) = [high, low] := by
    unfold charUnits
    simp only
    rw [if_neg (by omega), code]
    have one : 0xD800 + (0x10000 + (high.toNat - 0xD800) * 0x400 + (low.toNat - 0xDC00) -
        0x10000) / 0x400 = high.toNat := by omega
    have other : 0xDC00 + (0x10000 + (high.toNat - 0xD800) * 0x400 + (low.toNat - 0xDC00) -
        0x10000) % 0x400 = low.toNat := by omega
    rw [one, other, UInt16.ofNat_toNat, UInt16.ofNat_toNat]
  have pair : (highSurrogate high && lowSurrogate low) = true := by
    rw [Bool.and_eq_true, highSurrogate_iff, lowSurrogate_iff]
    exact ⟨first, second⟩
  change (decode (high :: low :: rest)).flatMap charUnits = _
  rw [decode, if_pos pair, List.flatMap_cons, back]

theorem faithful_ascii (text : Text) (ascii : ∀ unit ∈ text, unit.toNat < 0x80) :
    Faithful text := by
  induction text with
  | nil => exact faithful_nil
  | cons unit rest ih =>
      have plain := plain_of_ascii (ascii unit List.mem_cons_self)
      have later := ih fun other member => ascii other (List.mem_cons_of_mem unit member)
      exact (faithful_single plain.1 plain.2).append later

theorem Faithful.back {text : Text} (faithful : Faithful text) :
    (decode text).flatMap charUnits = text := by
  have whole := faithful []
  simpa [decode] using whole

end Runes

section Question

theorem spells_plain_text (text : Text) (plain : ∀ unit ∈ text, Plain unit) :
    Spells text text := by
  induction text with
  | nil => exact spells_nil
  | cons unit rest ih =>
      have later := ih fun other member => plain other (List.mem_cons_of_mem unit member)
      exact (spells_plain (plain unit List.mem_cons_self)).append later

theorem unicode_escape_back (unit : UInt16) : Spells (unicodeEscape unit) [unit] := by
  have small := unit.toNat_lt
  apply spells_unicode
  unfold hexUnit
  rw [hex_digit_back _ (by omega), hex_digit_back _ (by omega), hex_digit_back _ (by omega),
    hex_digit_back _ (by omega)]
  refine congrArg some (UInt16.toNat_inj.mp ?_)
  simp only [UInt16.toNat_ofNat']
  omega

theorem short_escape_back {unit letter : UInt16} (known : shortEscape unit = some letter) :
    letter ≠ 0x75 ∧ escaped letter = some unit := by
  unfold shortEscape at known
  repeat' split at known
  all_goals cases known
  all_goals
    rename_i same
    subst same
    decide

theorem quote_unit_back (unit : UInt16) :
    Spells (quoteUnit unit) [unit] ∧ Faithful (quoteUnit unit) := by
  unfold quoteUnit
  split
  next letter known =>
    have back := short_escape_back known
    refine ⟨spells_short back.1 back.2, faithful_ascii _ ?_⟩
    intro written member
    simp only [List.mem_cons, List.not_mem_nil, or_false] at member
    rcases member with rfl | rfl
    · decide
    · exact shortEscape_ascii known
  next long =>
    split
    · exact ⟨unicode_escape_back unit, faithful_ascii _ (unicodeEscape_ascii unit)⟩
    next printed =>
      simp only [Bool.or_eq_true, decide_eq_true_eq, not_or, Bool.not_eq_true] at printed
      refine ⟨spells_plain ⟨?_, ?_, printed.1.1⟩, faithful_single printed.1.2 printed.2⟩
      · rintro rfl
        cases long
      · rintro rfl
        cases long

theorem quote_units_back (text : Text) :
    Spells (quoteUnits text) text ∧ Faithful (quoteUnits text) := by
  induction text using quoteUnits.induct with
  | case1 => exact ⟨spells_nil, faithful_nil⟩
  | case2 unit => exact quote_unit_back unit
  | case3 high low rest pair ih =>
      have halves := Bool.and_eq_true_iff.mp pair
      have first := (highSurrogate_iff high).mp halves.1
      have second := (lowSurrogate_iff low).mp halves.2
      rw [quoteUnits, if_pos pair]
      constructor
      · exact (spells_plain (plain_of_code (by omega) (by omega) (by omega))).append
          ((spells_plain (plain_of_code (by omega) (by omega) (by omega))).append ih.1)
      · exact (faithful_pair halves.1 halves.2).append ih.2
  | case4 high low rest apart ih =>
      rw [quoteUnits, if_neg apart]
      have first := quote_unit_back high
      exact ⟨first.1.append ih.1, first.2.append ih.2⟩

end Question

section Message

/-- The object of an `ask`. -/
def askFields (message : AskMessage) : List (Text × Json) :=
  [(units "type", .string (units "ask")), (units "question", .string message.question)] ++
    (message.rounds.map fun rounds => (units "rounds", Json.number rounds)).toList

theorem parse_int_decimals : Decimals parseInt := by
  intro value small
  have all := digits_nat value
  have unsigned : ((units (toString value)).head? == some 0x2D) = false := by
    cases spelt : units (toString value) with
    | nil => rfl
    | cons first rest =>
        have digit := all first (by rw [spelt]; exact List.mem_cons_self)
        rw [List.head?_cons, beq_eq_false_iff_ne]
        rintro same
        cases same
        exact absurd digit (by decide)
  have range : (-2 ^ 63 : Int) ≤ (value : Int) ∧ (value : Int) < 2 ^ 63 := by omega
  unfold parseInt
  simp only [unsigned, Bool.false_eq_true, if_false, digits_value]
  rw [if_pos]
  · norm_cast
  · simp only [Bool.and_eq_true, List.all_eq_true, decide_eq_true_eq]
    exact ⟨all, range⟩

theorem accepted_small {rounds : JsNumber} (accepted : roundsAccepted rounds = true) :
    ∃ value : Nat, rounds = .finite (value : Int) ∧ 2 ≤ value ∧ value ≤ 8 := by
  cases rounds with
  | nan => cases accepted
  | negInf => cases accepted
  | posInf => cases accepted
  | finite value =>
      have whole : value.den = 1 := by
        simp only [roundsAccepted, Bool.and_eq_true, beq_iff_eq] at accepted
        exact accepted.1.1.1
      have same : JsNumber.finite value = number value.num :=
        congrArg JsNumber.finite (Rat.den_eq_one_iff value |>.mp whole).symm
      have fits := (AskChecks.roundsAccepted_iff value.num).mp (by rw [← same]; exact accepted)
      have bounds : 2 ≤ value.num ∧ value.num ≤ 8 := ⟨fits.1, fits.2.1⟩
      refine ⟨value.num.toNat, ?_, by omega, by omega⟩
      rw [same, number, Int.toNat_of_nonneg (by omega)]

theorem number_text_nat (fraction : Rat → Text) (value : Nat) (small : value ≤ 8) :
    numberText fraction (.finite (value : Int)) = units (toString value) := by
  have written : numberText fraction (.finite (value : Int)) =
      units (toString ((value : Int) : Rat).num) := by
    refine if_pos ⟨rfl, ?_⟩
    rw [Rat.num_intCast]
    omega
  rw [written, Rat.num_intCast]
  rfl

theorem spells_key (key : String)
    (plain : key.toList.all (fun rune => decide (0x40 ≤ rune.toNat ∧ rune.toNat < 0x5C ∨
      0x60 < rune.toNat ∧ rune.toNat < 0x80)) = true) : Spells (units key) (units key) := by
  apply spells_plain_text
  intro unit member
  rcases List.mem_flatMap.mp member with ⟨rune, inside, written⟩
  have range := List.all_eq_true.mp plain rune inside
  simp only [decide_eq_true_eq] at range
  rw [if_pos (by omega : rune.toNat < 0x10000)] at written
  rw [List.mem_singleton.mp written]
  have code : (UInt16.ofNat rune.toNat).toNat = rune.toNat :=
    UInt16.toNat_ofNat_of_lt' (by simp only [UInt16.size]; omega)
  exact plain_of_code (by omega) (by omega) (by omega)

def fieldTexts (fraction : Rat → Text) (message : AskMessage) : List (Text × Text) :=
  [(0x22 :: (units "type" ++ [0x22]) ++ [0x3A], 0x22 :: (units "ask" ++ [0x22])),
    (0x22 :: (units "question" ++ [0x22]) ++ [0x3A],
      0x22 :: (quoteUnits message.question ++ [0x22]))] ++
    (message.rounds.map fun rounds =>
      (0x22 :: (units "rounds" ++ [0x22]) ++ [0x3A], numberText fraction rounds)).toList

theorem stringify_object (fraction : Rat → Text) (message : AskMessage) :
    stringify fraction message = objectText (fieldTexts fraction message) := by
  have opening : units "\x7b\"type\":\"ask\",\"question\":" =
      0x7B :: (0x22 :: (units "type" ++ [0x22]) ++ [0x3A] ++ (0x22 :: (units "ask" ++ [0x22])) ++
        0x2C :: (0x22 :: (units "question" ++ [0x22]) ++ [0x3A])) := by decide
  have between : units ",\"rounds\":" = 0x2C :: (0x22 :: (units "rounds" ++ [0x22]) ++ [0x3A]) := by
    decide
  have closing : units "\x7d" = [0x7D] := by decide
  rw [stringify, opening, between, closing, quoteJSONString]
  cases rounds : message.rounds with
  | none => simp [objectText, fieldsText, fieldTexts, rounds]
  | some given => simp [objectText, fieldsText, fieldTexts, rounds]

variable {toNumber : Text → JsNumber}

theorem written_fields (decimals : Decimals toNumber) (fraction : Rat → Text)
    (message : AskMessage)
    (accepted : ∀ rounds, message.rounds = some rounds → roundsAccepted rounds = true) :
    List.Forall₂ (Written toNumber) (fieldTexts fraction message) (askFields message) := by
  have type : Spells (units "type") (units "type") := spells_key "type" (by decide)
  have ask_ : Spells (units "ask") (units "ask") := spells_key "ask" (by decide)
  have question : Spells (units "question") (units "question") := spells_key "question" (by decide)
  have rounds_ : Spells (units "rounds") (units "rounds") := spells_key "rounds" (by decide)
  refine .cons ⟨⟨_, rfl, type⟩, writes_string ask_⟩
    (.cons ⟨⟨_, rfl, question⟩, writes_string (quote_units_back message.question).1⟩ ?_)
  cases given : message.rounds with
  | none => exact .nil
  | some rounds =>
      rcases accepted_small (accepted rounds given) with ⟨value, same, low, high⟩
      have digits : Writes toNumber _ _ := writes_decimal (decimal_nat value (by omega))
      rw [decimals value (by omega)] at digits
      refine .cons ⟨⟨_, rfl, rounds_⟩, ?_⟩ .nil
      rw [same]
      simp only
      rw [number_text_nat fraction value high]
      exact_mod_cast digits

theorem store_fields_ask (message : AskMessage)
    (accepted : ∀ rounds, message.rounds = some rounds → roundsAccepted rounds = true) :
    storeFields ⟨"", "", 0⟩ (askFields message) = received message := by
  have type : fieldOf (decode (units "type")) = some "type" := by
    rw [decode_units]
    decide
  have question : fieldOf (decode (units "question")) = some "question" := by
    rw [decode_units]
    decide
  have rounds_ : fieldOf (decode (units "rounds")) = some "rounds" := by
    rw [decode_units]
    decide
  have ask_ : String.ofList (decode (units "ask")) = "ask" := by
    rw [decode_units, String.ofList_toList]
  cases given : message.rounds with
  | none =>
      simp [askFields, given, storeFields, type, question, store, ask_, received, receivedRounds]
  | some rounds =>
      rcases accepted_small (accepted rounds given) with ⟨value, same, _, _⟩
      simp [askFields, given, same, storeFields, type, question, rounds_, store, ask_, received,
        receivedRounds]

theorem faithful_number (fraction : Rat → Text) (rounds : JsNumber)
    (accepted : roundsAccepted rounds = true) : Faithful (numberText fraction rounds) :=
  faithful_ascii _ (numberText_accepted fraction rounds accepted).2

theorem faithful_stringify (fraction : Rat → Text) (message : AskMessage)
    (accepted : ∀ rounds, message.rounds = some rounds → roundsAccepted rounds = true) :
    Faithful (stringify fraction message) := by
  have ascii : ∀ literal : String,
      literal.toList.all (fun char => decide (char.toNat < 0x80)) = true →
        Faithful (units literal) :=
    fun literal small => faithful_ascii _ (units_ascii literal small)
  have quote : Faithful [0x22] := faithful_single (by decide) (by decide)
  have body := (quote.append (quote_units_back message.question).2).append quote
  have opening := ascii "\x7b\"type\":\"ask\",\"question\":" (by decide)
  have closing := ascii "\x7d" (by decide)
  unfold stringify
  apply (opening.append body).append
  apply Faithful.append _ closing
  cases given : message.rounds with
  | none => exact faithful_nil
  | some rounds =>
      have between := ascii ",\"rounds\":" (by decide)
      exact between.append (faithful_number fraction rounds (accepted rounds given))

theorem stringify_bytes (fraction : Rat → Text) (message : AskMessage)
    (accepted : ∀ given, message.rounds = some given → roundsAccepted given = true) :
    (utf8 (stringify fraction message)).length ≤ 6 * runeCount message.question + 39 := by
  have closing := closing_bytes fraction message.rounds accepted
  have quote : ∀ unit ∈ ([0x22] : Text), unit.toNat < 0x80 := by
    intro unit member
    rw [List.mem_singleton.mp member]
    decide
  have opening : (units "\x7b\"type\":\"ask\",\"question\":" ++ [0x22]).length = 26 := by
    decide
  have body := quoteUnits_bytes message.question
    ([0x22] ++ ((message.rounds.map fun rounds =>
      units ",\"rounds\":" ++ numberText fraction rounds).getD [] ++ units "\x7d"))
  rw [utf8_ascii _ _ quote, List.length_singleton] at body
  have ascii : ∀ unit ∈ units "\x7b\"type\":\"ask\",\"question\":" ++ [0x22],
      unit.toNat < 0x80 := by
    intro unit member
    exact (List.mem_append.mp member).elim (opening_ascii unit) (quote unit)
  have same : stringify fraction message =
      (units "\x7b\"type\":\"ask\",\"question\":" ++ [0x22]) ++
        (quoteUnits message.question ++ ([0x22] ++ ((message.rounds.map fun rounds =>
          units ",\"rounds\":" ++ numberText fraction rounds).getD [] ++ units "\x7d"))) := by
    simp only [stringify, quoteJSONString, List.append_assoc]
  rw [same, utf8_ascii _ _ ascii, opening]
  omega

theorem read_of_built (fraction : Rat → Text) {question : Text} {rounds : Option JsNumber}
    {message : AskMessage} (built : buildAsk question rounds = .ok message) :
    readMessage (decode (stringify fraction message)) = received message := by
  have inside := built_inside built
  have written : Writes parseInt (stringify fraction message) (.object (askFields message)) := by
    rw [stringify_object]
    exact writes_object (written_fields parse_int_decimals fraction message inside.2)
  have parsed := parse_writes written [] nofun
  rw [List.append_nil] at parsed
  have short : ((decode (stringify fraction message)).flatMap String.utf8EncodeChar).length ≤
      maxInboundBytes := by
    have bytes := stringify_bytes fraction message inside.2
    have runes := inside.1
    simp only [utf8, MAX_QUESTION_RUNES, maxInboundBytes] at bytes runes ⊢
    omega
  rw [readMessage, if_pos short, unmarshal,
    (faithful_stringify fraction message inside.2).back, parsed]
  exact store_fields_ask message inside.2

/-- What the server reads from the text of an accepted ask, within the read
limit of its connection: the trimmed question rune for rune, a lone surrogate
as U+FFFD, and the rounds, 0 where there are none. -/
theorem ask_read_as_built (fraction : Rat → Text) (question : Text) (rounds : Option JsNumber)
    (message : AskMessage) (built : buildAsk question rounds = .ok message) :
    readMessage (decode (stringify fraction message)) = received message ∧
      ∃ client : ClientMessage, received message = some client ∧ client.type = "ask" ∧
        client.question = String.ofList (decode (trim question)) ∧
        (rounds = none → client.rounds = 0) ∧
        ∀ given, rounds = some given → given = .finite client.rounds := by
  have inside := built_inside built
  constructor
  · exact read_of_built fraction built
  · have parts : message.question = trim question ∧ message.rounds = rounds := by
      unfold buildAsk at built
      simp only at built
      split at built
      · cases built
      split at built
      · cases built
      split at built
      · cases built
      · cases built
        exact ⟨rfl, rfl⟩
    cases given : rounds with
    | none =>
        rw [given] at parts
        refine ⟨_, by rw [received, parts.2]; rfl, rfl, by rw [parts.1], fun _ => rfl, ?_⟩
        rintro _ ⟨⟩
    | some number =>
        rw [given] at parts
        rcases accepted_small (inside.2 number parts.2) with ⟨value, same, _, _⟩
        refine ⟨_, by rw [received, parts.2, same]; rfl, rfl, by rw [parts.1], ?_, ?_⟩
        · rintro ⟨⟩
        · intro other equal
          cases equal
          rw [same, Rat.num_intCast]

/-- A lone surrogate, a quotation mark and white space to trim. -/
theorem ask_read_as_built_escaped :
    readMessage (decode (stringify (fun _ => []) ⟨[0xD800, 0x0022], some (.finite 4)⟩)) =
      some ⟨"ask", "\uFFFD\"", 4⟩ := by
  have built : buildAsk [0x0020, 0xD800, 0x0022, 0x000A] (some (.finite 4)) =
      .ok ⟨[0xD800, 0x0022], some (.finite 4)⟩ := by decide
  rw [(ask_read_as_built (fun _ => []) _ _ _ built).1]
  decide

end Message

end Council.AskText
