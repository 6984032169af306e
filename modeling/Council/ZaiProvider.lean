import Council.Orchestration

/-!
`ZaiProvider` (`provider/zai.go`): the request it sends upstream and the loop
that turns the answer into stream events. The body is its lines as bytes, in
order, what follows the last newline, and the error that cut its reading short,
if one did; the JSON decoder of a chunk is a parameter that yields the contents
of its choices.
-/

namespace Council.ZaiProvider

open Council.Provider
open Council.Orchestration

abbrev Line := List UInt8

def bytes (text : String) : Line := text.toUTF8.toList

structure WireMessage where
  role : String
  content : String
  deriving DecidableEq, Repr

structure WireRequest where
  model : String
  messages : List WireMessage
  stream : Bool
  thinking : String
  deriving DecidableEq, Repr

def roleName : Role → String
  | .system => "system"
  | .user => "user"
  | .assistant => "assistant"

/-- The body `Stream` posts; `model` is the provider's own. -/
def wireRequest (model : String) (request : Request) : WireRequest where
  model := if request.model = "" then model else request.model
  messages :=
    (if request.systemPrompt ≠ "" then [⟨"system", request.systemPrompt⟩] else []) ++
      request.messageHistory.map fun turn => ⟨roleName turn.role, turn.message⟩
  stream := true
  thinking := "disabled"

structure Response where
  status : Nat
  /-- The first 2 KiB of a refusal's body. -/
  snippet : String
  /-- Each ended by a newline. -/
  lines : List Line
  /-- What follows the last newline. -/
  tail : Line
  broken : Option String
  /-- The end of the body, or the error, is read along with its last bytes. -/
  together : Bool
  deriving DecidableEq, Repr

/-- The most the scanner's buffer grows to. -/
def maxTokenSize : Nat := 1024 * 1024

/-- A line as the scanner comes to it. -/
structure Piece where
  raw : Line
  /-- The end of the body is known with the line. -/
  final : Bool
  deriving DecidableEq, Repr

def Response.pieces (response : Response) : List Piece :=
  response.lines.map (⟨·, false⟩) ++
    if response.tail = [] then [] else [⟨response.tail, response.together⟩]

/-- The buffer holds the line, and its newline or the room to read on. -/
def Fits (piece : Piece) : Prop :=
  if piece.final then piece.raw.length ≤ maxTokenSize else piece.raw.length < maxTokenSize

instance (piece : Piece) : Decidable (Fits piece) :=
  inferInstanceAs (Decidable (if piece.final then _ else _))

/-- `bufio.ScanLines` drops a trailing carriage return. -/
def dropCR (raw : Line) : Line :=
  if raw.getLast? = some 13 then raw.dropLast else raw

def dataPrefix : Line := bytes "data: "
def doneLine : Line := bytes "data: [DONE]"

/-- The choices' contents of a chunk, if the data decodes to one. -/
abbrev Decoder := Line → Option (List String)

def lineContent (decode : Decoder) (text : Line) : Option String :=
  if text = [] ∨ ¬ dataPrefix.isPrefixOf text then none
  else
    match decode (text.drop dataPrefix.length) with
    | some (content :: _) => if content = "" then none else some content
    | _ => none

/-- The scan loop of `streamResponse`, as the script its goroutine plays. -/
def scan (decode : Decoder) : List Piece → Option String → Script
  | [], broken => ⟨[], broken⟩
  | piece :: rest, broken =>
      if ¬ Fits piece then ⟨[], some "bufio.Scanner: token too long"⟩
      else if dropCR piece.raw = doneLine then ⟨[], none⟩
      else
        match lineContent decode (dropCR piece.raw) with
        | none => scan decode rest broken
        | some content =>
            let later := scan decode rest broken
            { later with deltas := content :: later.deltas }

/-- `streamResponse`, with the error of `httpClient.Do` on the left. -/
def streamResponse (decode : Decoder) : Except String Response → Script
  | .error err => ⟨[], some err⟩
  | .ok response =>
      if response.status ≠ 200 then
        ⟨[], some ("zai: status " ++ toString response.status ++ ": " ++ response.snippet)⟩
      else scan decode response.pieces response.broken

/-- A terminator line is read: it comes before any line that is too long. -/
def reachesDone : List Piece → Bool
  | [] => false
  | piece :: rest =>
      if ¬ Fits piece then false
      else if dropCR piece.raw = doneLine then true
      else reachesDone rest

/-- What the world upstream answers to each request. -/
abbrev Upstream (count : Nat) := Call count → WireRequest → Except String Response

/-- The debate over `ZaiProvider`; `Stream` itself cannot fail on a request
whose URL is a constant. -/
def overZai {count : Nat} (debate : Debate count) (model : String) (decode : Decoder)
    (upstream : Upstream count) : Debate count :=
  { debate with
    provider := fun call request =>
      .ok (streamResponse decode (upstream call (wireRequest model request))) }

/-- The body is not cut off silently: it has a terminator, or its reading ends
with an error. -/
def Delimited (pieces : List Piece) (broken : Option String) : Prop :=
  reachesDone pieces = true ∨ broken.isSome = true ∨ ∃ piece ∈ pieces, ¬ Fits piece

/-- The stream ends without an error at a terminator, or where the body just
ends. -/
theorem scan_clean_iff (decode : Decoder) (pieces : List Piece) (broken : Option String) :
    (scan decode pieces broken).failure = none ↔
      reachesDone pieces = true ∨ broken = none ∧ ∀ piece ∈ pieces, Fits piece := by
  induction pieces with
  | nil => simp [scan, reachesDone]
  | cons piece rest ih =>
      by_cases fits : Fits piece
      · by_cases done : dropCR piece.raw = doneLine
        · simp [scan, reachesDone, fits, done]
        have passed : (scan decode (piece :: rest) broken).failure =
            (scan decode rest broken).failure := by
          simp only [scan, if_neg (not_not.mpr fits), if_neg done]
          split <;> rfl
        have later : reachesDone (piece :: rest) = reachesDone rest := by
          simp only [reachesDone, if_neg (not_not.mpr fits), if_neg done]
        rw [passed, later, ih]
        simp [fits]
      · simp [scan, reachesDone, fits]

example : streamResponse (fun data => if data = bytes "x" then some ["hi"] else none)
    (.ok ⟨200, "", [bytes "", bytes "data: x\r", bytes "event: ping"], bytes "data: [DONE]",
      some "unexpected EOF", true⟩) = ⟨["hi"], none⟩ := by decide +kernel

end Council.ZaiProvider
