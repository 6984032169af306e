import Council.EventText
import Council.SessionGrammar

/-!
The debate as the client hears it: the events a session with `DefaultPanel`
writes, each read as the client reads it, are a stream that carries the debate
of the provider's answers, the panelists of a round interleaved.
-/

namespace Council.Broadcast

open Council.Machines
open Council.Protocol
open Council.Provider
open Council.ServerProtocol
open Council.Orchestration
open Council.StreamWords
open Council.RoundGrammar
open Council.Interleavings
open Council.UseDebate
open Council.EventWire
open Council.EventAgreement

/-- What the client takes an event for. -/
def heardAs (event : Event) : DebateEvent :=
  (eventSchema (marshal event)).getD (.roundComplete 0)

def deltasOf : Provider.Outcome → List Text
  | .error _ => []
  | .ok script => script.deltas.map units

/-- What the client is told of an answer that failed. -/
def failureOf : Provider.Outcome → Option Text
  | .error _ => some (units "stream failed")
  | .ok script => script.failure.map fun _ => units "stream failed"

def broadcast (debate : Orchestration.Debate 4) : WireStream.Debate where
  rounds := debate.rounds
  contribution := fun round seat =>
    { deltas := deltasOf (answer debate ⟨round, some seat⟩)
      failure := failureOf (answer debate ⟨round, some seat⟩) }
  synthesis := deltasOf (answer debate ⟨debate.rounds + 1, none⟩)
  outcome :=
    match failureOf (answer debate ⟨debate.rounds + 1, none⟩) with
    | some message => .failure message
    | none => .verdict (deltasOf (answer debate ⟨debate.rounds + 1, none⟩)).flatten

section Reading

theorem panel_known (seat : Fin 4) :
    personaIdSchema (sentString (panel seat).id) = some (panelist seat) := by
  have all : ∀ seat : Fin 4,
      personaIdSchema (sentString (panel seat).id) = some (panelist seat) := by
    decide +kernel
  exact all seat

theorem moderator_known :
    personaIdSchema (sentString Moderator.id) = some MODERATOR_ID := by
  decide +kernel

theorem heard_token {id : String} {persona : PersonaId}
    (known : personaIdSchema (sentString id) = some persona) {round : Nat} (low : 1 ≤ round)
    (high : round ≤ MAX_WIRE_ROUND) (delta : String) :
    heardAs (Token id round delta) = .token persona round (units delta) := by
  simp [heardAs, eventSchema_eq, Token, known, wireRound_sent low high]

theorem heard_done {id : String} {persona : PersonaId}
    (known : personaIdSchema (sentString id) = some persona) {round : Nat} (low : 1 ≤ round)
    (high : round ≤ MAX_WIRE_ROUND) :
    heardAs (PersonaDone id round) = .personaDone persona round := by
  simp [heardAs, eventSchema_eq, PersonaDone, known, wireRound_sent low high]

theorem heard_complete {round : Nat} (low : 1 ≤ round) (high : round ≤ MAX_WIRE_ROUND) :
    heardAs (RoundComplete round) = .roundComplete round := by
  simp [heardAs, eventSchema_eq, RoundComplete, wireRound_sent low high]

theorem heard_verdict (text : String) : heardAs (Verdict text) = .verdict (units text) := by
  simp [heardAs, eventSchema_eq, Verdict]

theorem heard_error {id : String} {persona : PersonaId}
    (known : personaIdSchema (sentString id) = some persona) (reason : String) :
    heardAs (Error id reason) = .error ⟨some persona, units reason⟩ := by
  simp [heardAs, eventSchema_eq, Error, optionalPersona_known known]

theorem units_join (texts : List String) :
    units (String.join texts) = (texts.map units).flatten := by
  induction texts with
  | nil => rfl
  | cons text rest ih =>
      have joined : (String.join (text :: rest)).toList =
          text.toList ++ (String.join rest).toList := by
        rw [String.toList_join, String.toList_join]
        rfl
      rw [units_eq, joined, List.flatMap_append, ← units_eq, ← units_eq, ih]
      rfl

end Reading

section Words

variable {debate : Orchestration.Debate 4} (seats : debate.personas = panel)
  (bound : debate.rounds ≤ 8)

include seats

theorem persona_known (seat : Fin 4) :
    personaIdSchema (sentString (debate.personas seat).id) = some (panelist seat) := by
  rw [seats]
  exact panel_known seat

theorem heard_lane (round : Nat) (low : 1 ≤ round) (high : round ≤ MAX_WIRE_ROUND)
    (seat : Fin 4) :
    (panelWords debate round seat).map heardAs = (broadcast debate).lane round seat := by
  have known := persona_known seats seat
  rw [panelWords, word, WireStream.Debate.lane, WireStream.Contribution.ending]
  simp only [broadcast]
  generalize answer debate ⟨round, some seat⟩ = outcome
  cases outcome with
  | error reason => simp [streamWord, deltasOf, failureOf, Debate.failure, Debate.persona,
      heard_error known]
  | ok script =>
      have tokens : (script.deltas.map (Token (debate.personas seat).id round)).map heardAs =
          (script.deltas.map units).map fun delta => .token (panelist seat) round delta := by
        simp [heard_token known low high]
      rw [streamWord, List.map_append]
      simp only [Debate.persona, tokens, deltasOf]
      congr 1
      cases failed : script.failure with
      | some reason => simp [failureOf, failed, Debate.failure, Debate.persona, heard_error known]
      | none => simp [failureOf, failed, Debate.ending, heard_done known low high]

omit seats in
theorem heard_closing (bound : debate.rounds ≤ 8) :
    (word debate ⟨debate.rounds + 1, none⟩).map heardAs = (broadcast debate).closing := by
  have known := moderator_known
  have high : debate.rounds + 1 ≤ MAX_WIRE_ROUND := Nat.succ_le_succ bound
  rw [word, WireStream.Debate.closing]
  simp only [broadcast]
  generalize answer debate ⟨debate.rounds + 1, none⟩ = outcome
  cases outcome with
  | error reason => simp [streamWord, deltasOf, failureOf, Debate.failure, Debate.persona,
      heard_error known, WireStream.Outcome.event]
  | ok script =>
      have tokens : (script.deltas.map (Token Moderator.id (debate.rounds + 1))).map heardAs =
          (script.deltas.map units).map fun delta =>
            .token MODERATOR_ID (debate.rounds + 1) delta := by
        simp [heard_token known (Nat.succ_pos _) high]
      rw [streamWord, List.map_append]
      simp only [Debate.persona, tokens, deltasOf]
      congr 1
      cases failed : script.failure with
      | some reason =>
          simp [failureOf, failed, Debate.failure, Debate.persona, heard_error known,
            WireStream.Outcome.event]
      | none =>
          simp [failureOf, failed, Debate.ending, heard_verdict, WireStream.Outcome.event,
            units_join]

include bound

theorem heard_conformant {events : List Event} (session : SessionWord debate events) :
    WireStream.Conformant (broadcast debate) (events.map heardAs) := by
  rcases session with ⟨rounds, words, rfl⟩
  refine ⟨rounds.map heardAs, ?_, ?_⟩
  · refine words.map heardAs _ _ (fun round seat low high => ?_) fun round low high => ?_
    · exact heard_lane seats round low (by simp only [MAX_WIRE_ROUND, MAX_ROUNDS]; omega) seat
    · exact heard_complete low (by simp only [MAX_WIRE_ROUND, MAX_ROUNDS]; omega)
  · rw [List.map_append, heard_closing bound]

end Words

end Council.Broadcast
