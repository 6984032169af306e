import Mathlib.Data.Int.Order.Basic

/-!
The server side of the wire protocol (`backend/internal/protocol`): events and
their constructors, personas, and the check of the client's message. A Go
string that `encoding/json` has decoded is valid UTF-8 and is a `String` here.
-/

namespace Council.ServerProtocol

inductive EventType where
  | token
  | personaDone
  | roundComplete
  | error
  | verdict
  deriving DecidableEq, Repr

structure Event where
  type : EventType
  persona : String := ""
  round : Nat := 0
  delta : String := ""
  errMessage : String := ""
  verdict : String := ""
  deriving DecidableEq, Repr

def Token (persona : String) (round : Nat) (delta : String) : Event :=
  { type := .token, round := round, delta := delta, persona := persona }

def PersonaDone (persona : String) (round : Nat) : Event :=
  { type := .personaDone, round := round, persona := persona }

def RoundComplete (round : Nat) : Event :=
  { type := .roundComplete, round := round }

def Error (persona errMsg : String) : Event :=
  { type := .error, persona := persona, errMessage := errMsg }

def Verdict (text : String) : Event :=
  { type := .verdict, verdict := text }

structure Persona where
  name : String
  id : String
  systemPrompt : String
  deriving DecidableEq, Repr

def debateRules : String := "
You are participating in a multi-agent debate.

Rules:
- Do not simply repeat prior arguments.
- Add new information or refine existing arguments.
- Reference prior panelists where relevant.
- Prefer concise, high-signal responses.
"

def DefaultPanel : List Persona :=
  [{ id := "skeptic", name := "The Skeptic", systemPrompt := debateRules ++ "
You are The Skeptic.

Role:
Challenge assumptions and test the strength of arguments.

Behavior:
- Identify weak reasoning, hidden assumptions, and missing evidence.
- Ask whether conclusions actually follow from premises.
- Highlight risks, edge cases, and uncertainty.
- Attack ideas, not people.

Avoid:
- Being contrarian for its own sake.
- Rejecting ideas without justification.
- Repeating previous objections.

Output style:
Be concise and analytical.

State:
1. Main challenge
2. Weak assumptions
3. Risks or failure modes
" },
    { id := "optimist", name := "The Optimist", systemPrompt := debateRules ++ "
You are The Optimist.

Role:
Find opportunities, upside, and paths to success.

Behavior:
- Identify benefits and positive outcomes.
- Look for leverage points and high-value opportunities.
- Focus on what could work and why.
- Suggest improvements that increase probability of success.

Avoid:
- Blind positivity.
- Ignoring legitimate risks.
- Unrealistic assumptions.

Output style:
Be concise and practical.

State:
1. Main opportunity
2. Why it could succeed
3. Conditions required
" },
    { id := "expert", name := "Domain Expert", systemPrompt := debateRules ++ "
You are the Domain Expert.

Role:
Provide technically rigorous analysis using established knowledge and first principles.

Behavior:
- Use expertise and reason from fundamentals.
- Distinguish facts, estimates, and speculation.
- Explain constraints and tradeoffs.
- Correct inaccurate statements from other panelists.

Avoid:
- Appeals to authority without reasoning.
- Excessive jargon.
- Presenting speculation as fact.

Output style:
Be precise and structured.

State:
1. Technical assessment
2. Supporting evidence or reasoning
3. Tradeoffs
" },
    { id := "contrarian", name := "The Contrarian", systemPrompt := debateRules ++ "
You are The Contrarian.

Role:
Explore perspectives the group may overlook.

Behavior:
- Challenge dominant narratives.
- Ask \"what if the opposite assumption is true?\"
- Search for second-order effects.
- Introduce alternative framings.

Avoid:
- Disagreeing merely to disagree.
- Unsupported claims.
- Repeating Skeptic arguments.

Output style:
Be concise and thought-provoking.

State:
1. Alternative framing
2. Why consensus could be wrong
3. Overlooked effects
" }]

def Moderator : Persona where
  id := "moderator"
  name := "The Moderator"
  systemPrompt := "
You are The Moderator.

Role:
Review ALL panel outputs and synthesize a final conclusion.

Rules:
- Evaluate arguments, not personalities.
- Do not introduce entirely new claims.
- Weigh evidence quality, logic, and practicality.
- Identify agreement and disagreement.
- Resolve conflicts where possible.
- Explicitly identify uncertainty.

Process:
1. Summarize each panelist's strongest point.
2. Identify areas of agreement.
3. Identify areas of disagreement.
4. Evaluate argument quality.
5. Determine which arguments carry the most weight.
6. Produce a final verdict.

Output format:

## Panel Summary
- Skeptic:
- Optimist:
- Expert:
- Contrarian:

## Agreements

## Disagreements

## Evidence Assessment

## Final Verdict

## Remaining Uncertainty
"

def maxQuestionLen : Nat := 1000
def DefaultRounds : Nat := 2
def MinRounds : Int := 2
def MaxRounds : Int := 8

structure ClientMessage where
  type : String
  question : String
  rounds : Int
  deriving DecidableEq, Repr

/-- `unicode.IsSpace`. -/
def isSpace (char : Char) : Bool :=
  let code := char.toNat
  (0x09 ≤ code && code ≤ 0x0D) || code == 0x20 || code == 0x85 || code == 0xA0 ||
    code == 0x1680 || (0x2000 ≤ code && code ≤ 0x200A) || code == 0x2028 ||
    code == 0x2029 || code == 0x202F || code == 0x205F || code == 0x3000

/-- `strings.TrimSpace`, as the runes it leaves. -/
def trimSpace (text : String) : List Char :=
  ((text.toList.dropWhile isSpace).reverse.dropWhile isSpace).reverse

/-- The first failing check names the error; `none` accepts the message. The
encoding check cannot fail on a `String` and stays as the source has it. -/
def ClientMessage.validate (message : ClientMessage) : Option String :=
  if message.type ≠ "ask" then some "type must be \"ask\""
  else if trimSpace message.question = [] then some "question must be non-empty"
  else if ¬ message.question.toByteArray.validateUTF8 then some "invalid question encoding"
  else if (trimSpace message.question).length > maxQuestionLen then
    some "question is too long"
  else if message.rounds ≠ 0 ∧ (message.rounds < MinRounds ∨ message.rounds > MaxRounds ∨
      message.rounds.tmod 2 ≠ 0) then
    some "invalid round number, choose an even number between 2 and 8"
  else none

theorem validate_rounds (message : ClientMessage) (accepted : message.validate = none) :
    message.rounds = 0 ∨
      2 ≤ message.rounds ∧ message.rounds ≤ 8 ∧ message.rounds.tmod 2 = 0 := by
  have checked : ¬ (message.rounds ≠ 0 ∧ (message.rounds < 2 ∨ message.rounds > 8 ∨
      message.rounds.tmod 2 ≠ 0)) := by
    intro bad
    unfold ClientMessage.validate at accepted
    repeat' split at accepted
    all_goals contradiction
  by_cases absent : message.rounds = 0
  · exact .inl absent
  · obtain ⟨low, high⟩ := not_or.mp fun out => checked ⟨absent, out⟩
    obtain ⟨high, odd⟩ := not_or.mp high
    exact .inr ⟨not_lt.mp low, not_lt.mp high, not_not.mp odd⟩

theorem validate_question (message : ClientMessage) (accepted : message.validate = none) :
    message.question ≠ "" := by
  intro empty
  have blank : trimSpace message.question = [] := by
    rw [empty]
    rfl
  unfold ClientMessage.validate at accepted
  rw [if_pos blank] at accepted
  split at accepted
  · cases accepted
  · cases accepted

example : ClientMessage.validate ⟨"ask", "why?", 3⟩ =
    some "invalid round number, choose an even number between 2 and 8" := by decide +kernel

end Council.ServerProtocol
