import Council.AskBytes
import Council.EventAgreement
import Council.JsonWriting

/-!
The text of an event: what `wsjson.Write` makes of `protocol.Event`, the
`encoding/json` encoder with its HTML escapes and the newline after the value.
`JSON.parse` reads the object of the struct's tags back from it, whatever is in
the strings.
-/

namespace Council.EventText

open Council.Machines
open Council.Protocol
open Council.ServerProtocol
open Council.HandleSession
open Council.AskWire
open Council.EventWire
open Council.EventAgreement
open Council.JsonText
open Council.JsonWriting

section Encode

/-- `htmlSafeSet`. -/
def htmlSafe (rune : Char) : Bool :=
  0x20 ≤ rune.toNat && rune.toNat < 0x80 &&
    !(rune == '"' || rune == '\\' || rune == '<' || rune == '>' || rune == '&')

/-- One rune of `appendString` with `escapeHTML`. -/
def appendRune (rune : Char) : Text :=
  let code := rune.toNat
  let unit := UInt16.ofNat code
  if code < 0x80 then
    if htmlSafe rune then [unit]
    else if rune = '\\' ∨ rune = '"' then [0x5C, unit]
    else if code = 0x08 then [0x5C, 0x62]
    else if code = 0x0C then [0x5C, 0x66]
    else if code = 0x0A then [0x5C, 0x6E]
    else if code = 0x0D then [0x5C, 0x72]
    else if code = 0x09 then [0x5C, 0x74]
    else [0x5C, 0x75, 0x30, 0x30, AskBytes.hexDigit (code / 16), AskBytes.hexDigit (code % 16)]
  else if code = 0x2028 ∨ code = 0x2029 then
    [0x5C, 0x75, 0x32, 0x30, 0x32, AskBytes.hexDigit (code % 16)]
  else charUnits rune

def appendString (source : String) : Text :=
  0x22 :: (source.toList.flatMap appendRune ++ [0x22])

def fieldName (key : String) : Text := appendString key ++ [0x3A]

/-- A string field with `omitempty`: its name and the text of its value. -/
def stringText (key value : String) : List (Text × Text) :=
  if value = "" then [] else [(fieldName key, appendString value)]

/-- An `int` field with `omitempty`. -/
def intText (key : String) (value : Nat) : List (Text × Text) :=
  if value = 0 then [] else [(fieldName key, units (toString value))]

/-- `structEncoder.encode` from the byte `next` on: a brace before the first
field, a comma before every other. -/
def structText (next : UInt16) : List (Text × Text) → Text
  | [] => if next = 0x7B then [0x7B, 0x7D] else [0x7D]
  | (name, value) :: rest => next :: (name ++ value ++ structText 0x2C rest)

/-- The fields that are written, in the order of the struct. -/
def fieldTexts (event : Event) : List (Text × Text) :=
  (fieldName "type", appendString (tag event.type)) ::
    (stringText "persona" event.persona ++ (intText "round" event.round ++
      (stringText "delta" event.delta ++ (stringText "error" event.errMessage ++
        stringText "verdict" event.verdict))))

/-- `Encoder.Encode`. -/
def encode (event : Event) : Text := structText 0x7B (fieldTexts event) ++ [0x0A]

example : encode (Token "skeptic" 1 "<\n\u2028") =
    units "\x7b\"type\":\"token\",\"persona\":\"skeptic\",\"round\":1," ++
      units "\"delta\":\"\\u003c\\n\\u2028\"\x7d\n" := by
  decide +kernel

end Encode

section Strings

theorem hex_digit_back (digit : Nat) (small : digit < 16) :
    hexDigit (AskBytes.hexDigit digit) = some digit := by
  have all : ∀ digit < 16, hexDigit (AskBytes.hexDigit digit) = some digit := by decide
  exact all digit small

theorem hex_digits_back (high low : Nat) (first : high < 16) (second : low < 16)
    (lead other : UInt16) (leading : Nat)
    (known : hexUnit lead other 0x30 0x30 = some (UInt16.ofNat (leading * 0x100))) :
    hexUnit lead other (AskBytes.hexDigit high) (AskBytes.hexDigit low) =
      some (UInt16.ofNat (leading * 0x100 + high * 16 + low)) := by
  have zero : hexDigit 0x30 = some 0 := by decide
  unfold hexUnit at known ⊢
  rw [hex_digit_back high first, hex_digit_back low second]
  cases begins : hexDigit lead with
  | none => rw [begins] at known; cases known
  | some top =>
      cases goes : hexDigit other with
      | none => rw [begins, goes] at known; cases known
      | some next =>
          rw [begins, goes, zero] at known
          have same := Option.some.inj known
          have codes := congrArg UInt16.toNat same
          simp only [UInt16.toNat_ofNat'] at codes
          refine congrArg some (UInt16.toNat_inj.mp ?_)
          simp only [UInt16.toNat_ofNat']
          omega

theorem plain_of_code {unit : UInt16} (printed : 0x20 ≤ unit.toNat) (quote : unit.toNat ≠ 0x22)
    (slash : unit.toNat ≠ 0x5C) : Plain unit := by
  refine ⟨?_, ?_, ?_⟩
  · rintro rfl
    exact quote rfl
  · rintro rfl
    exact slash rfl
  · rw [UInt16.lt_iff_toNat_lt]
    exact Nat.not_lt.mpr printed

theorem char_code (rune other : Char) : rune = other ↔ rune.toNat = other.toNat := by
  constructor
  · exact congrArg Char.toNat
  · intro same
    rw [← Char.ofNat_toNat rune, same, Char.ofNat_toNat]

theorem spells_units {rune : Char} (large : 0x80 ≤ rune.toNat) :
    Spells (charUnits rune) (charUnits rune) := by
  have valid : rune.toNat < 0xD800 ∨ 0xDFFF < rune.toNat ∧ rune.toNat < 0x110000 := rune.valid
  unfold charUnits
  simp only
  split
  · apply spells_plain
    have code : (UInt16.ofNat rune.toNat).toNat = rune.toNat :=
      UInt16.toNat_ofNat_of_lt' (by assumption)
    exact plain_of_code (by omega) (by omega) (by omega)
  · have first : (UInt16.ofNat (0xD800 + (rune.toNat - 0x10000) / 0x400)).toNat =
        0xD800 + (rune.toNat - 0x10000) / 0x400 :=
      UInt16.toNat_ofNat_of_lt' (by simp only [UInt16.size]; omega)
    have second : (UInt16.ofNat (0xDC00 + (rune.toNat - 0x10000) % 0x400)).toNat =
        0xDC00 + (rune.toNat - 0x10000) % 0x400 :=
      UInt16.toNat_ofNat_of_lt' (by simp only [UInt16.size]; omega)
    exact (spells_plain (plain_of_code (by omega) (by omega) (by omega))).append
      (spells_plain (plain_of_code (by omega) (by omega) (by omega)))

theorem spells_rune (rune : Char) : Spells (appendRune rune) (charUnits rune) := by
  unfold appendRune
  simp only
  split
  next ascii =>
    have code : (UInt16.ofNat rune.toNat).toNat = rune.toNat :=
      UInt16.toNat_ofNat_of_lt' (by simp only [UInt16.size]; omega)
    have units_ : charUnits rune = [UInt16.ofNat rune.toNat] := by
      unfold charUnits
      simp only
      rw [if_pos (by omega)]
    rw [units_]
    split
    next safe =>
      simp only [htmlSafe, Bool.and_eq_true, decide_eq_true_eq, Bool.not_eq_true',
        Bool.or_eq_false_iff, beq_eq_false_iff_ne, ne_eq, char_code] at safe
      apply spells_plain
      exact plain_of_code (by omega) (by rw [code]; exact safe.2.1.1.1.1)
        (by rw [code]; exact safe.2.1.1.1.2)
    split
    next special =>
      rcases special with rfl | rfl
      · exact spells_short (by decide) (by decide)
      · exact spells_short (by decide) (by decide)
    split
    next known => rw [known]; exact spells_short (by decide) (by decide)
    split
    next known => rw [known]; exact spells_short (by decide) (by decide)
    split
    next known => rw [known]; exact spells_short (by decide) (by decide)
    split
    next known => rw [known]; exact spells_short (by decide) (by decide)
    split
    next known => rw [known]; exact spells_short (by decide) (by decide)
    · have digits := hex_digits_back (rune.toNat / 16) (rune.toNat % 16)
        (by omega) (by omega) 0x30 0x30 0 (by decide)
      have same : 0 * 0x100 + rune.toNat / 16 * 16 + rune.toNat % 16 = rune.toNat := by omega
      rw [same] at digits
      exact spells_unicode digits
  split
  next separator =>
    rcases separator with known | known
    · rw [charUnits]
      simp only [known]
      exact spells_unicode (by decide)
    · rw [charUnits]
      simp only [known]
      exact spells_unicode (by decide)
  next large _ => exact spells_units (by omega)

theorem spells_string (source : String) :
    Spells (source.toList.flatMap appendRune) (units source) := by
  rw [units_eq]
  induction source.toList with
  | nil => exact spells_nil
  | cons rune rest ih =>
      rw [List.flatMap_cons, List.flatMap_cons]
      exact (spells_rune rune).append ih

end Strings

section Numbers

theorem units_digits (runes : List Char) (digits : ∀ rune ∈ runes, rune.isDigit = true) :
    runes.flatMap charUnits = runes.map fun rune => UInt16.ofNat rune.toNat := by
  induction runes with
  | nil => rfl
  | cons rune rest ih =>
      have digit : 48 ≤ rune.toNat ∧ rune.toNat ≤ 57 :=
        Char.isDigit_iff_toNat.mp (digits rune List.mem_cons_self)
      have first : charUnits rune = [UInt16.ofNat rune.toNat] := by
        unfold charUnits
        simp only
        rw [if_pos (by omega)]
      have later := ih fun other member => digits other (List.mem_cons_of_mem rune member)
      rw [List.flatMap_cons, List.map_cons, first, later]
      rfl

theorem digits_lead (value : Nat) (positive : 0 < value) :
    ∃ first rest, Nat.toDigits 10 value = first :: rest ∧ first.isDigit = true ∧ first ≠ '0' := by
  induction value using Nat.strong_induction_on with
  | _ value ih =>
      by_cases small : value < 10
      · have all : ∀ value < 10, 0 < value →
            (Nat.digitChar value).isDigit = true ∧ Nat.digitChar value ≠ '0' := by decide
        rw [Nat.toDigits_of_lt_base small]
        exact ⟨_, _, rfl, all value small positive⟩
      · rcases ih (value / 10) (by omega) (by omega) with ⟨first, rest, same, nonzero⟩
        rw [Nat.toDigits_of_base_le (by decide) (by omega), same]
        exact ⟨first, _, rfl, nonzero⟩

theorem units_nat (value : Nat) :
    units (toString value) =
      (Nat.toDigits 10 value).map fun rune => UInt16.ofNat rune.toNat := by
  have runes : (toString value).toList = Nat.toDigits 10 value := Nat.toList_repr
  rw [units_eq, runes, units_digits]
  exact fun rune member => Nat.isDigit_of_mem_toDigits (by decide) (by decide) member

theorem digits_nat (value : Nat) : ∀ unit ∈ units (toString value), isDigit unit = true := by
  rw [units_nat]
  intro unit member
  rcases List.mem_map.mp member with ⟨rune, inside, rfl⟩
  have digit : 48 ≤ rune.toNat ∧ rune.toNat ≤ 57 := Char.isDigit_iff_toNat.mp
    (Nat.isDigit_of_mem_toDigits (by decide) (by decide) inside)
  have code : (UInt16.ofNat rune.toNat).toNat = rune.toNat :=
    UInt16.toNat_ofNat_of_lt' (by simp only [UInt16.size]; omega)
  simp only [isDigit, Bool.and_eq_true, decide_eq_true_eq, UInt16.le_iff_toNat_le, code]
  exact digit

theorem decimal_nat (value : Nat) (positive : 0 < value) :
    Decimal (units (toString value)) where
  digits := digits_nat value
  leads := by
    rcases digits_lead value positive with ⟨first, rest, same, digit, nonzero⟩
    refine ⟨UInt16.ofNat first.toNat, rest.map fun rune => UInt16.ofNat rune.toNat, ?_, ?_⟩
    · rw [units_nat, same, List.map_cons]
    · have bounds : 48 ≤ first.toNat ∧ first.toNat ≤ 57 := Char.isDigit_iff_toNat.mp digit
      intro zero
      have code := congrArg UInt16.toNat zero
      rw [UInt16.toNat_ofNat_of_lt' (by simp only [UInt16.size]; omega)] at code
      exact nonzero ((char_code first '0').mpr code)

/-- The literal of a number up to 2^53 is exact. -/
def Decimals (toNumber : Text → JsNumber) : Prop :=
  ∀ value : Nat, value ≤ 2 ^ 53 → toNumber (units (toString value)) = .finite value

def decimal (text : Text) : JsNumber := .finite (Nat.ofDigitChars 10 (decode text) 0 : Nat)

theorem digits_value (value : Nat) :
    Nat.ofDigitChars 10 (decode (units (toString value))) 0 = value := by
  have runes : (toString value).toList = Nat.toDigits 10 value := Nat.toList_repr
  rw [decode_units, runes, Nat.ofDigitChars_ten_toDigits]

theorem decimals_decimal : Decimals decimal := by
  intro value _
  rw [decimal, digits_value]

end Numbers

section Fields

variable {toNumber : Text → JsNumber}

theorem written_name (key : String) :
    ∃ written, fieldName key = 0x22 :: (written ++ [0x22]) ++ [0x3A] ∧
      Spells written (units key) :=
  ⟨_, rfl, spells_string key⟩

theorem written_string (key value : String) :
    Written toNumber (fieldName key, appendString value) (units key, .string (units value)) where
  name := written_name key
  value := writes_string (spells_string value)

theorem written_string_field (key value : String) :
    List.Forall₂ (Written toNumber) (stringText key value) (stringField key value) := by
  unfold stringText stringField
  split
  · exact .nil
  · exact .cons (written_string key value) .nil

theorem written_int_field (decimals : Decimals toNumber) (key : String) (value : Nat)
    (exact_ : value ≤ 2 ^ 53) :
    List.Forall₂ (Written toNumber) (intText key value) (intField key value) := by
  unfold intText intField
  split
  · exact .nil
  next nonzero =>
    have digits : Writes toNumber _ _ :=
      writes_decimal (decimal_nat value (Nat.pos_of_ne_zero nonzero))
    rw [decimals value exact_] at digits
    exact .cons ⟨written_name key, digits⟩ .nil

theorem written_fields (decimals : Decimals toNumber) (event : Event)
    (exact_ : event.round ≤ 2 ^ 53) :
    List.Forall₂ (Written toNumber) (fieldTexts event) (eventFields event) := by
  refine .cons (written_string _ _) ?_
  refine List.rel_append (written_string_field _ _) ?_
  refine List.rel_append (written_int_field decimals _ _ exact_) ?_
  refine List.rel_append (written_string_field _ _) ?_
  exact List.rel_append (written_string_field _ _) (written_string_field _ _)

theorem struct_text_comma (texts : List (Text × Text)) :
    structText 0x2C texts = fieldsText texts := by
  induction texts with
  | nil => rfl
  | cons text rest ih => rw [structText, fieldsText, ih]

theorem struct_text_brace (texts : List (Text × Text)) :
    structText 0x7B texts = objectText texts := by
  cases texts with
  | nil => rfl
  | cons text rest => rw [structText, objectText, struct_text_comma]

theorem parse_encode (decimals : Decimals toNumber) (event : Event)
    (exact_ : event.round ≤ 2 ^ 53) : parse toNumber (encode event) = some (marshal event) := by
  rw [encode, struct_text_brace]
  apply parse_writes (writes_object (written_fields decimals event exact_))
  intro unit member
  rw [List.mem_singleton.mp member]
  decide

end Fields

section Distinct

theorem tag_inj {first second : EventType} (same : tag first = tag second) : first = second := by
  cases first <;> cases second <;> first | rfl | exact absurd same (by decide)

theorem sent_string_inj {first second : String} (same : sentString first = sentString second) :
    first = second := by
  unfold sentString at same
  split at same
  next empty =>
    split at same
    next also => rw [empty, also]
    · cases same
  · split at same
    · cases same
    · simpa using same

theorem sent_int_inj {first second : Nat} (same : sentInt first = sentInt second) :
    first = second := by
  unfold sentInt at same
  split at same
  next zero =>
    split at same
    next also => rw [zero, also]
    · cases same
  · split at same
    · cases same
    · simpa using same

theorem marshal_inj {first second : Event} (same : marshal first = marshal second) :
    first = second := by
  have fields : eventFields first = eventFields second := by injection same
  have one := eventFields_readable first
  have other := eventFields_readable second
  rw [fields] at one
  have type := one.type.symm.trans other.type
  simp only [Option.some.injEq, Json.string.injEq, units_inj] at type
  have types := tag_inj type
  have persona := sent_string_inj (one.persona.symm.trans other.persona)
  have round := sent_int_inj (one.round.symm.trans other.round)
  have delta := sent_string_inj (one.delta.symm.trans other.delta)
  have error := sent_string_inj (one.error.symm.trans other.error)
  have verdict := sent_string_inj (one.verdict.symm.trans other.verdict)
  cases first
  cases second
  simp_all

end Distinct

section Length

theorem rune_length (rune : Char) : (appendRune rune).length ≤ 6 := by
  unfold appendRune charUnits
  simp only
  repeat' split
  all_goals simp

theorem string_length (source : String) :
    (appendString source).length ≤ 6 * source.length + 2 := by
  have runes : ∀ text : List Char, (text.flatMap appendRune).length ≤ 6 * text.length := by
    intro text
    induction text with
    | nil => exact Nat.le_refl _
    | cons rune rest ih =>
        have first := rune_length rune
        rw [List.flatMap_cons, List.length_append, List.length_cons]
        omega
  have bound := runes source.toList
  rw [String.length_toList] at bound
  rw [appendString, List.length_cons, List.length_append, List.length_singleton]
  omega

/-- The units of the fields and of what stands between them. -/
def weight (texts : List (Text × Text)) : Nat :=
  (texts.map fun text => text.1.length + text.2.length + 1).sum

theorem struct_length (next : UInt16) (texts : List (Text × Text)) :
    (structText next texts).length ≤ weight texts + 2 := by
  induction texts generalizing next with
  | nil =>
      unfold structText
      split
      · exact Nat.le_refl _
      · exact Nat.le_succ _
  | cons text rest ih =>
      have later := ih 0x2C
      simp only [structText, weight, List.length_cons, List.length_append, List.map_cons,
        List.sum_cons] at later ⊢
      omega

theorem string_weight (key value : String) (short : key.length ≤ 7) :
    weight (stringText key value) ≤ 6 * value.length + 48 := by
  unfold stringText
  split
  · simp [weight]
  · have name := string_length key
    have text := string_length value
    simp only [weight, fieldName, List.map_cons, List.map_nil, List.sum_cons, List.sum_nil,
      List.length_append, List.length_singleton]
    omega

theorem int_weight (value : Nat) (small : value < 10) : weight (intText "round" value) ≤ 36 := by
  have all : ∀ value < 10, weight (intText "round" value) ≤ 36 := by decide +kernel
  exact all value small

theorem tag_length (type : EventType) : (tag type).length ≤ 14 := by
  cases type <;> decide

/-- The text of an event with a short round is at most six units for each rune
of its strings and a constant more. -/
theorem encode_length (event : Event) (small : event.round < 10) :
    (encode event).length ≤
      6 * (event.persona.length + event.delta.length + event.errMessage.length +
        event.verdict.length) + 400 := by
  have whole := struct_length 0x7B (fieldTexts event)
  have persona := string_weight "persona" event.persona (by decide)
  have round := int_weight event.round small
  have delta := string_weight "delta" event.delta (by decide)
  have error := string_weight "error" event.errMessage (by decide)
  have verdict := string_weight "verdict" event.verdict (by decide)
  have type := string_length (tag event.type)
  have short := tag_length event.type
  have name : (fieldName "type").length ≤ 7 := by decide +kernel
  have split : weight (fieldTexts event) =
      (fieldName "type").length + (appendString (tag event.type)).length + 1 +
        (weight (stringText "persona" event.persona) + (weight (intText "round" event.round) +
          (weight (stringText "delta" event.delta) +
            (weight (stringText "error" event.errMessage) +
              weight (stringText "verdict" event.verdict))))) := by
    simp [weight, fieldTexts]
  rw [encode, List.length_append, List.length_singleton]
  omega

end Length

section Sessions

variable {toNumber : Text → JsNumber}

theorem writable_short {rounds : Nat} (accepted : Accepted rounds) {event : Event}
    (writable : Writable rounds event) : event.round < 10 ∧ event.persona.length ≤ 10 := by
  have bound := accepted_le accepted
  have known : ∀ persona ∈ Moderator :: DefaultPanel, persona.id.length ≤ 10 := by
    decide +kernel
  cases writable with
  | token seated low high delta => exact ⟨by simp only [Token]; omega, known _ (.tail _ seated)⟩
  | synthesis delta => exact ⟨by simp only [Token]; omega, known _ (.head _)⟩
  | done seated low high => exact ⟨by simp only [PersonaDone]; omega, known _ (.tail _ seated)⟩
  | complete low high => exact ⟨by simp only [RoundComplete]; omega, Nat.zero_le _⟩
  | verdict text => exact ⟨Nat.zero_lt_succ _, Nat.zero_le _⟩
  | failed listed reason => exact ⟨Nat.zero_lt_succ _, known _ listed⟩
  | refused reason => exact ⟨Nat.zero_lt_succ _, Nat.zero_le _⟩

/-- The text of an event gives back the event alone, whatever its strings are;
and the client takes what a session with the panel writes, up to 43 000 runes
an event, for what it is. -/
theorem events_read_as_written (decimals : Decimals toNumber) (issue : Json → Text) :
    (∀ event : Event, event.round ≤ 2 ^ 53 →
      parse toNumber (encode event) = some (marshal event)) ∧
    (∀ first second : Event, first.round ≤ 2 ^ 53 → second.round ≤ 2 ^ 53 →
      encode first = encode second → first = second) ∧
    ∀ handler : Handler 4, handler.personas = panel → ∀ session,
      Reaches (HandleSession.step handler) always {} session → ∀ event ∈ session.written,
        event.delta.length + event.errMessage.length + event.verdict.length ≤ 43000 →
          ∃ read, Reads event read ∧ ∀ player,
            UseDebate.onMessage (parseEvent (parse toNumber) issue) player (.text (encode event)) =
              DebatePlayer.feed player read := by
  refine ⟨parse_encode decimals, ?_, ?_⟩
  · intro first second exact_ also same
    have one := parse_encode decimals first exact_
    rw [same, parse_encode decimals second also] at one
    exact marshal_inj (Option.some.inj one).symm
  · intro handler seats session reached event written short
    rcases written_writable seats reached written with ⟨rounds, accepted, writable⟩
    have small := writable_short accepted writable
    have bound : (encode event).length ≤ UseDebate.MAX_FRAME_CHARS := by
      have whole := encode_length event small.1
      simp only [UseDebate.MAX_FRAME_CHARS]
      omega
    have agree := parse_encode decimals event (by omega)
    rcases parseEvent_marshal (parse toNumber) issue accepted writable agree with
      ⟨read, parsed, reads⟩
    refine ⟨read, reads, fun player => ?_⟩
    rw [UseDebate.onMessage, if_neg (Nat.not_lt.mpr bound), parsed]

/-- With the numbers that decimal digits denote. -/
theorem events_read_as_written_decimal :
    parse decimal (encode (Token "expert" 3 "<b>")) =
        some (marshal (Token "expert" 3 "<b>")) ∧
      encode (Token "expert" 3 "a") ≠ encode (Token "expert" 3 "b") := by
  have facts := events_read_as_written decimals_decimal (fun _ => [])
  refine ⟨facts.1 _ (by decide), fun same => ?_⟩
  have equal := facts.2.1 _ _ (by decide) (by decide) same
  simp [Token] at equal

end Sessions

end Council.EventText
