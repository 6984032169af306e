import Council.AskWire
import Council.UseDebate

/-!
An event on its way from `protocol.Event` (`backend/internal/protocol/event.go`)
to `debateEventSchema` (`frontend/src/lib/protocol.ts`): the JSON object that
the struct's tags produce, and what the schema reads from a JSON value. The
text of that object, `JSON.parse` and the texts of the schema's issues are
parameters.
-/

namespace Council.EventWire

open Council.Protocol Council.ServerProtocol Council.AskWire

/-- A JSON value as the client sees it. -/
inductive Json where
  | null
  | bool (value : Bool)
  | number (value : JsNumber)
  | string (value : Text)
  | array (items : List Json)
  | object (fields : List (Text × Json))

/-- The value of an `EventType`. -/
def tag : EventType → String
  | .token => "token"
  | .personaDone => "persona_done"
  | .roundComplete => "round_complete"
  | .error => "error"
  | .verdict => "verdict"

section Marshal

/-- A string field with `omitempty`. -/
def stringField (key value : String) : List (Text × Json) :=
  if value = "" then [] else [(units key, .string (units value))]

/-- An `int` field with `omitempty`. -/
def intField (key : String) (value : Nat) : List (Text × Json) :=
  if value = 0 then [] else [(units key, .number (.finite value))]

/-- The fields in the order of the struct. -/
def eventFields (event : Event) : List (Text × Json) :=
  (units "type", .string (units (tag event.type))) ::
    (stringField "persona" event.persona ++ (intField "round" event.round ++
      (stringField "delta" event.delta ++ (stringField "error" event.errMessage ++
        stringField "verdict" event.verdict))))

def marshal (event : Event) : Json := .object (eventFields event)

end Marshal

section Schema

/-- A property of a parsed object: of a key given twice the last one counts. -/
def property (fields : List (Text × Json)) (key : String) : Option Json :=
  (fields.reverse.find? fun field => field.1 = units key).map Prod.snd

/-- A persona's identifier on the wire. -/
def name : PersonaId → String
  | .skeptic => "skeptic"
  | .optimist => "optimist"
  | .expert => "expert"
  | .contrarian => "contrarian"
  | .moderator => "moderator"

def PERSONA_IDS : List PersonaId :=
  [.skeptic, .optimist, .expert, .contrarian, .moderator]

/-- `z.enum(PERSONA_IDS)`. -/
def personaIdSchema : Option Json → Option PersonaId
  | some (.string text) => PERSONA_IDS.find? fun persona => units (name persona) = text
  | _ => none

/-- `personaIdSchema.optional()`. -/
def optionalPersona : Option Json → Option (Option PersonaId)
  | none => some none
  | present => (personaIdSchema present).map some

/-- `z.number().int()` within the bounds of `roundSchema`. -/
def wireRound : Option Json → Option Nat
  | some (.number (.finite value)) =>
      if value.den = 1 && roundSchema value.num.toNat then some value.num.toNat else none
  | _ => none

/-- `z.string().default("")`. -/
def textSchema : Option Json → Option Text
  | none => some []
  | some (.string text) => some text
  | _ => none

def tokenSchema (fields : List (Text × Json)) : Option DebateEvent := do
  let persona ← personaIdSchema (property fields "persona")
  let round ← wireRound (property fields "round")
  let delta ← textSchema (property fields "delta")
  some (.token persona round delta)

def personaDoneSchema (fields : List (Text × Json)) : Option DebateEvent := do
  let persona ← personaIdSchema (property fields "persona")
  let round ← wireRound (property fields "round")
  some (.personaDone persona round)

def roundCompleteSchema (fields : List (Text × Json)) : Option DebateEvent := do
  let round ← wireRound (property fields "round")
  some (.roundComplete round)

def verdictSchema (fields : List (Text × Json)) : Option DebateEvent := do
  let verdict ← textSchema (property fields "verdict")
  some (.verdict verdict)

def errorSchema (fields : List (Text × Json)) : Option DebateEvent := do
  let error ← textSchema (property fields "error")
  let persona ← optionalPersona (property fields "persona")
  some (.error ⟨persona, error⟩)

/-- The union of the five schemas, told apart by `type`. -/
def eventSchema : Json → Option DebateEvent
  | .object fields =>
      match property fields "type" with
      | some (.string type) =>
          if type = units "token" then tokenSchema fields
          else if type = units "persona_done" then personaDoneSchema fields
          else if type = units "round_complete" then roundCompleteSchema fields
          else if type = units "verdict" then verdictSchema fields
          else if type = units "error" then errorSchema fields
          else none
      | _ => none
  | _ => none

def parseEvent (parse : Text → Option Json) (issue : Json → Text) (raw : Text) :
    Except Text DebateEvent :=
  match parse raw with
  | none => .error (units "frame is not valid JSON")
  | some json =>
      match eventSchema json with
      | none => .error (issue json)
      | some event => .ok event

theorem wireRound_valid {json : Option Json} {round : Nat}
    (read : wireRound json = some round) : roundSchema round = true := by
  unfold wireRound at read
  split at read
  · split at read
    · rename_i valid
      cases read
      exact (Bool.and_eq_true_iff.mp valid).2
    · cases read
  · cases read

section Accepted
variable {fields : List (Text × Json)} {event : DebateEvent}

theorem tokenSchema_valid (accepted : tokenSchema fields = some event) :
    debateEventSchema event = true := by
  obtain ⟨persona, _, accepted⟩ := Option.bind_eq_some_iff.mp accepted
  obtain ⟨round, read, accepted⟩ := Option.bind_eq_some_iff.mp accepted
  obtain ⟨delta, _, same⟩ := Option.bind_eq_some_iff.mp accepted
  cases same
  exact wireRound_valid read

theorem personaDoneSchema_valid (accepted : personaDoneSchema fields = some event) :
    debateEventSchema event = true := by
  obtain ⟨persona, _, accepted⟩ := Option.bind_eq_some_iff.mp accepted
  obtain ⟨round, read, same⟩ := Option.bind_eq_some_iff.mp accepted
  cases same
  exact wireRound_valid read

theorem roundCompleteSchema_valid (accepted : roundCompleteSchema fields = some event) :
    debateEventSchema event = true := by
  obtain ⟨round, read, same⟩ := Option.bind_eq_some_iff.mp accepted
  cases same
  exact wireRound_valid read

theorem verdictSchema_valid (accepted : verdictSchema fields = some event) :
    debateEventSchema event = true := by
  obtain ⟨verdict, _, same⟩ := Option.bind_eq_some_iff.mp accepted
  cases same
  rfl

theorem errorSchema_valid (accepted : errorSchema fields = some event) :
    debateEventSchema event = true := by
  obtain ⟨error, _, accepted⟩ := Option.bind_eq_some_iff.mp accepted
  obtain ⟨persona, _, same⟩ := Option.bind_eq_some_iff.mp accepted
  cases same
  rfl

theorem eventSchema_valid {json : Json} (accepted : eventSchema json = some event) :
    debateEventSchema event = true := by
  unfold eventSchema at accepted
  split at accepted
  · split at accepted
    · split_ifs at accepted
      · exact tokenSchema_valid accepted
      · exact personaDoneSchema_valid accepted
      · exact roundCompleteSchema_valid accepted
      · exact verdictSchema_valid accepted
      · exact errorSchema_valid accepted
    · cases accepted
  · cases accepted

end Accepted

end Schema

section Units

def charUnits (char : Char) : Text :=
  let code := char.toNat
  if code < 0x10000 then [UInt16.ofNat code]
  else [UInt16.ofNat (0xD800 + (code - 0x10000) / 0x400),
    UInt16.ofNat (0xDC00 + (code - 0x10000) % 0x400)]

theorem units_eq (literal : String) : units literal = literal.toList.flatMap charUnits := rfl

theorem decode_charUnits (char : Char) (rest : Text) :
    decode (charUnits char ++ rest) = char :: decode rest := by
  have valid : char.toNat < 0xD800 ∨ 0xDFFF < char.toNat ∧ char.toNat < 0x110000 := char.valid
  have same : Char.ofNat char.toNat = char := Char.ofNat_toNat char
  rw [charUnits]
  by_cases small : char.toNat < 0x10000
  · have code : (UInt16.ofNat char.toNat).toNat = char.toNat :=
      UInt16.toNat_ofNat_of_lt' small
    have high : highSurrogate (UInt16.ofNat char.toNat) = false := by
      rw [← Bool.not_eq_true, highSurrogate_iff, code]
      omega
    have low : lowSurrogate (UInt16.ofNat char.toNat) = false := by
      rw [← Bool.not_eq_true, lowSurrogate_iff, code]
      omega
    rw [if_pos small, List.singleton_append, decode_cons high, single, high, low, code]
    rw [Bool.or_self, if_neg Bool.false_ne_true, same]
  · have first : (UInt16.ofNat (0xD800 + (char.toNat - 0x10000) / 0x400)).toNat =
        0xD800 + (char.toNat - 0x10000) / 0x400 :=
      UInt16.toNat_ofNat_of_lt' (by simp only [UInt16.size]; omega)
    have second : (UInt16.ofNat (0xDC00 + (char.toNat - 0x10000) % 0x400)).toNat =
        0xDC00 + (char.toNat - 0x10000) % 0x400 :=
      UInt16.toNat_ofNat_of_lt' (by simp only [UInt16.size]; omega)
    have high : highSurrogate (UInt16.ofNat (0xD800 + (char.toNat - 0x10000) / 0x400)) =
        true := by
      rw [highSurrogate_iff, first]
      omega
    have low : lowSurrogate (UInt16.ofNat (0xDC00 + (char.toNat - 0x10000) % 0x400)) =
        true := by
      rw [lowSurrogate_iff, second]
      omega
    rw [if_neg small, List.cons_append, List.singleton_append, decode, high, low,
      Bool.and_self, if_pos rfl, paired, first, second]
    have back : 0x10000 + (0xD800 + (char.toNat - 0x10000) / 0x400 - 0xD800) * 0x400 +
        (0xDC00 + (char.toNat - 0x10000) % 0x400 - 0xDC00) = char.toNat := by
      omega
    rw [back, same]

theorem decode_units (literal : String) : decode (units literal) = literal.toList := by
  rw [units_eq]
  induction literal.toList with
  | nil => rfl
  | cons char rest ih => rw [List.flatMap_cons, decode_charUnits, ih]

@[simp]
theorem units_inj {first second : String} : units first = units second ↔ first = second := by
  constructor
  · intro same
    have runes := congrArg decode same
    rw [decode_units, decode_units] at runes
    exact String.toList_inj.mp runes
  · exact congrArg units

end Units

section Properties
variable {fields first second : List (Text × Json)} {key other value : String}

@[simp] theorem property_nil : property [] key = none := rfl

@[simp] theorem property_append :
    property (first ++ second) key = (property second key).or (property first key) := by
  rw [property, List.reverse_append, List.find?_append, Option.map_or]
  rfl

@[simp] theorem property_cons (json : Json) :
    property ((units other, json) :: fields) key =
      (property fields key).or (if other = key then some json else none) := by
  have split : (units other, json) :: fields = [(units other, json)] ++ fields := rfl
  rw [split, property_append]
  congr 1
  by_cases same : other = key
  · simp [property, same]
  · simp [property, same]

theorem property_stringField :
    property (stringField other value) key =
      if other = key ∧ value ≠ "" then some (.string (units value)) else none := by
  rw [stringField]
  by_cases empty : value = ""
  · simp [empty]
  · simp [empty]

theorem property_intField (number : Nat) :
    property (intField other number) key =
      if other = key ∧ number ≠ 0 then some (.number (.finite number)) else none := by
  rw [intField]
  by_cases zero : number = 0
  · simp [zero]
  · simp [zero]

end Properties

/-- A string property after `omitempty`. -/
def sentString (value : String) : Option Json :=
  if value = "" then none else some (.string (units value))

/-- A number property after `omitempty`. -/
def sentInt (value : Nat) : Option Json :=
  if value = 0 then none else some (.number (.finite value))

/-- What the client reads back from each of the struct's keys. -/
structure Readable (event : Event) (fields : List (Text × Json)) : Prop where
  type : property fields "type" = some (.string (units (tag event.type)))
  persona : property fields "persona" = sentString event.persona
  round : property fields "round" = sentInt event.round
  delta : property fields "delta" = sentString event.delta
  error : property fields "error" = sentString event.errMessage
  verdict : property fields "verdict" = sentString event.verdict

theorem eventFields_readable (event : Event) : Readable event (eventFields event) := by
  constructor
  all_goals simp [eventFields, property_stringField, property_intField, sentString, sentInt]

/-- A text comes back as it was, and an omitted one as "". -/
@[simp] theorem textSchema_sent (value : String) :
    textSchema (sentString value) = some (units value) := by
  rw [sentString]
  by_cases empty : value = ""
  · subst empty
    rfl
  · rw [if_neg empty]
    rfl

/-- A round within the client's bound comes back. -/
theorem wireRound_sent {round : Nat} (positive : 0 < round) (bounded : round ≤ MAX_WIRE_ROUND) :
    wireRound (sentInt round) = some round := by
  have fits : roundSchema round = true := by simp [roundSchema, positive, bounded]
  rw [sentInt, if_neg (Nat.pos_iff_ne_zero.mp positive)]
  simp [wireRound, fits]

theorem eventSchema_eq (event : Event) :
    eventSchema (marshal event) =
      match event.type with
      | .token =>
          (personaIdSchema (sentString event.persona)).bind fun persona =>
            (wireRound (sentInt event.round)).map fun round =>
              .token persona round (units event.delta)
      | .personaDone =>
          (personaIdSchema (sentString event.persona)).bind fun persona =>
            (wireRound (sentInt event.round)).map fun round => .personaDone persona round
      | .roundComplete => (wireRound (sentInt event.round)).map fun round => .roundComplete round
      | .verdict => some (.verdict (units event.verdict))
      | .error =>
          (optionalPersona (sentString event.persona)).map fun persona =>
            .error ⟨persona, units event.errMessage⟩ := by
  have fields := eventFields_readable event
  rw [marshal, eventSchema]
  simp only [fields.type, units_inj]
  cases event.type with
  | token =>
      simp [tag, tokenSchema, fields.persona, fields.round, fields.delta, Option.map_eq_bind]
  | personaDone =>
      simp [tag, personaDoneSchema, fields.persona, fields.round, Option.map_eq_bind]
  | roundComplete =>
      simp [tag, roundCompleteSchema, fields.round, Option.map_eq_bind]
  | verdict => simp [tag, verdictSchema, fields.verdict]
  | error =>
      simp [tag, errorSchema, fields.error, fields.persona, Option.map_eq_bind]

end Council.EventWire
