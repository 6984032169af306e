import Mathlib.Data.List.FinRange

/-!
What the panel has said so far (`orchestrator/transcript.go`, `round.go`) and
how it is shown to the next speakers.
-/

namespace Council.Transcripts

structure PersonaAnswer where
  personaID : String
  name : String
  text : String
  deriving DecidableEq, Repr

structure Round where
  number : Nat
  answers : List PersonaAnswer
  deriving DecidableEq, Repr

structure Transcript where
  rounds : List Round := []
  deriving DecidableEq, Repr

/-- `Append` copies the rounds and adds one. -/
def Transcript.append (transcript : Transcript) (round : Round) : Transcript :=
  { rounds := transcript.rounds ++ [round] }

def Transcript.othersFor (transcript : Transcript) (personaID : String) :
    List PersonaAnswer :=
  match transcript.rounds.getLast? with
  | none => []
  | some latest => latest.answers.filter fun answer => answer.personaID ≠ personaID

def Transcript.ownLatest (transcript : Transcript) (personaID : String) :
    Option PersonaAnswer :=
  match transcript.rounds.getLast? with
  | none => none
  | some latest => latest.answers.find? fun answer => answer.personaID = personaID

/-- An empty answer is skipped. -/
def renderAnswers : List PersonaAnswer → String
  | [] => ""
  | answer :: rest =>
      if answer.text = "" then renderAnswers rest
      else "[" ++ answer.name ++ "]: " ++ answer.text ++ "\n\n" ++ renderAnswers rest

def Transcript.render (transcript : Transcript) : String :=
  String.join (transcript.rounds.map fun round => renderAnswers round.answers)

inductive RoundKind where
  | statement
  | rebuttal
  deriving DecidableEq, Repr

def kindOfRound (number : Nat) : RoundKind :=
  if number % 2 = 1 then .statement else .rebuttal

@[simp] theorem rounds_append (transcript : Transcript) (round : Round) :
    (transcript.append round).rounds = transcript.rounds ++ [round] := rfl

theorem othersFor_append (transcript : Transcript) (round : Round) (personaID : String) :
    (transcript.append round).othersFor personaID =
      round.answers.filter fun answer => answer.personaID ≠ personaID := by
  simp [Transcript.othersFor, Transcript.append]

theorem ownLatest_append (transcript : Transcript) (round : Round) (personaID : String) :
    (transcript.append round).ownLatest personaID =
      round.answers.find? fun answer => answer.personaID = personaID := by
  simp [Transcript.ownLatest, Transcript.append]

theorem render_append (transcript : Transcript) (round : Round) :
    (transcript.append round).render = transcript.render ++ renderAnswers round.answers := by
  simp [Transcript.render, String.join_append]

/-- One answer as the next speakers read it. -/
def rendered (answer : PersonaAnswer) : String :=
  "[" ++ answer.name ++ "]: " ++ answer.text ++ "\n\n"

theorem renderAnswers_eq (answers : List PersonaAnswer) :
    renderAnswers answers =
      String.join ((answers.filter fun answer => answer.text ≠ "").map rendered) := by
  induction answers with
  | nil => rfl
  | cons answer rest ih =>
      by_cases empty : answer.text = ""
      · simp [renderAnswers, empty, ih]
      · simp [renderAnswers, empty, ih, rendered, String.append_assoc]

example : renderAnswers [⟨"a", "Ann", "yes"⟩, ⟨"b", "Bob", ""⟩, ⟨"c", "Cid", "no"⟩] =
    "[Ann]: yes\n\n[Cid]: no\n\n" := by decide +kernel

end Council.Transcripts
