/-!
The client side of the wire protocol (`frontend/src/lib/protocol.ts`): persona
identifiers, the validated events, and the outbound `ask` check. A JavaScript
string is its list of UTF-16 code units; a JavaScript number is an exact
rational, an infinity or NaN. Rounding of binary fractions is not modelled:
nothing below divides by anything but a playback rate.
-/

namespace Council.Protocol

abbrev Text := List UInt16

def units (literal : String) : Text :=
  literal.toList.flatMap fun char =>
    let code := char.toNat
    if code < 0x10000 then [UInt16.ofNat code]
    else [UInt16.ofNat (0xD800 + (code - 0x10000) / 0x400),
      UInt16.ofNat (0xDC00 + (code - 0x10000) % 0x400)]

inductive JsNumber where
  | nan
  | negInf
  | posInf
  | finite (value : Rat)
  deriving DecidableEq, Repr

/-- `Math.max` of two numbers; NaN wins over everything. -/
def mathMax : JsNumber → JsNumber → JsNumber
  | .nan, _ => .nan
  | _, .nan => .nan
  | .posInf, _ => .posInf
  | _, .posInf => .posInf
  | .negInf, other => other
  | other, .negInf => other
  | .finite left, .finite right => .finite (if left ≤ right then right else left)

def mathMin : JsNumber → JsNumber → JsNumber
  | .nan, _ => .nan
  | _, .nan => .nan
  | .negInf, _ => .negInf
  | _, .negInf => .negInf
  | .posInf, other => other
  | other, .posInf => other
  | .finite left, .finite right => .finite (if left ≤ right then left else right)

inductive PersonaId where
  | skeptic
  | optimist
  | expert
  | contrarian
  | moderator
  deriving DecidableEq, Repr

/-- `PANELISTS` of the persona registry, in seating order. -/
def PANELISTS : List PersonaId :=
  [.skeptic, .optimist, .expert, .contrarian]

def MODERATOR_ID : PersonaId := .moderator

/-- An index into the four `PANELISTS`; an empty seat cannot be built. -/
abbrev Seat := Fin 4

def panelist (seat : Seat) : PersonaId := PANELISTS.get seat

theorem panelist_ne_moderator (seat : Seat) : panelist seat ≠ MODERATOR_ID := by
  revert seat
  decide

theorem panelist_injective (left right : Seat)
    (same : panelist left = panelist right) : left = right := by
  revert left right
  decide

theorem seat_of_panelist (persona : PersonaId) (seated : persona ≠ MODERATOR_ID) :
    ∃ seat, panelist seat = persona := by
  cases persona with
  | skeptic => exact ⟨0, rfl⟩
  | optimist => exact ⟨1, rfl⟩
  | expert => exact ⟨2, rfl⟩
  | contrarian => exact ⟨3, rfl⟩
  | moderator => exact absurd rfl seated

structure ErrorEvent where
  persona : Option PersonaId
  error : Text
  deriving DecidableEq, Repr

/-- A session error or a moderator failure ends the debate; any other
persona's failure does not. -/
def ErrorEvent.terminal (event : ErrorEvent) : Bool :=
  event.persona == none || event.persona == some MODERATOR_ID

inductive DebateEvent where
  | token (persona : PersonaId) (round : Nat) (delta : Text)
  | personaDone (persona : PersonaId) (round : Nat)
  | roundComplete (round : Nat)
  | verdict (verdict : Text)
  | error (event : ErrorEvent)
  deriving DecidableEq, Repr

def MIN_ROUNDS : Nat := 2
def MAX_ROUNDS : Nat := 8
def MAX_WIRE_ROUND : Nat := MAX_ROUNDS + 1
def MAX_QUESTION_RUNES : Nat := 1000

/-- `roundSchema`: a positive integer of at most `MAX_WIRE_ROUND`. -/
def roundSchema (round : Nat) : Bool :=
  0 < round && round ≤ MAX_WIRE_ROUND

/-- What `debateEventSchema` checks beyond the shape of the event type. -/
def debateEventSchema : DebateEvent → Bool
  | .token _ round _ => roundSchema round
  | .personaDone _ round => roundSchema round
  | .roundComplete round => roundSchema round
  | .verdict _ => true
  | .error _ => true

structure AskMessage where
  question : Text
  rounds : Option JsNumber
  deriving DecidableEq, Repr

/-- The ECMAScript WhiteSpace and LineTerminator code units `trim` strips. -/
def trimmable (unit : UInt16) : Bool :=
  (0x0009 ≤ unit && unit ≤ 0x000D) || unit == 0x0020 || unit == 0x00A0 ||
    unit == 0x1680 || (0x2000 ≤ unit && unit ≤ 0x200A) || unit == 0x2028 ||
    unit == 0x2029 || unit == 0x202F || unit == 0x205F || unit == 0x3000 ||
    unit == 0xFEFF

def trim (text : Text) : Text :=
  ((text.dropWhile trimmable).reverse.dropWhile trimmable).reverse

def highSurrogate (unit : UInt16) : Bool := 0xD800 ≤ unit && unit ≤ 0xDBFF
def lowSurrogate (unit : UInt16) : Bool := 0xDC00 ≤ unit && unit ≤ 0xDFFF

/-- `[...s].length`: a surrogate pair is one code point, a lone surrogate is
one as well. -/
def runeCount : Text → Nat
  | [] => 0
  | [_] => 1
  | high :: low :: rest =>
      if highSurrogate high && lowSurrogate low then runeCount rest + 1
      else runeCount (low :: rest) + 1

/-- The negation of the rejection test on `rounds` in `buildAsk`. -/
def roundsAccepted : JsNumber → Bool
  | .finite value =>
      value.den == 1 && !(value < MIN_ROUNDS) && !(value > MAX_ROUNDS) &&
        value.num.tmod 2 == 0
  | _ => false

def buildAsk (question : Text) (rounds : Option JsNumber) : Except Text AskMessage :=
  let trimmed := trim question
  if trimmed = [] then
    .error (units "Ask a question to convene the council.")
  else if runeCount trimmed > MAX_QUESTION_RUNES then
    .error (units "Question must be 1000 characters or fewer.")
  else if rounds.any fun given => !roundsAccepted given then
    .error (units "Rounds must be an even number between 2 and 8.")
  else
    .ok { question := trimmed, rounds := rounds }

example : (buildAsk (units " why? ") (some (.finite 4))).toOption =
    some ⟨units "why?", some (.finite 4)⟩ := by decide

end Council.Protocol
