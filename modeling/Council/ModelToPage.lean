import Council.RequestText
import Council.SseReader
import Council.WholeSite

/-!
From the model to the page. The handlers' orchestrator asks the model over
`ZaiProvider`; what it asks is built of the question in the docket and of what
the model has said before, and what the model says is what comes to the page.
-/

namespace Council.ModelToPage

open Council.Machines
open Council.Protocol
open Council.Provider
open Council.ServerProtocol
open Council.DebateReducer
open Council.DebateShape
open Council.DebateContent
open Council.StreamWords
open Council.RoundGrammar
open Council.Playbill
open Council.ZaiProvider
open Council.SseReader
open Council.UseDebate
open Council.EventWire
open Council.EventAgreement
open Council.EventText
open Council.HandleSession
open Council.Broadcast
open Council.WholeSystem
open Council.WholeSite

/-- The text of an answer: the contents of the lines that are heard, if it is
no refusal. -/
def words (decoder : Decoder) : Except String Response → String
  | .error _ => ""
  | .ok response =>
      if response.status = 200 then String.join (contents decoder (heard response.pieces)) else ""

/-- The handler's provider is `ZaiProvider`. -/
def OverZai (handler : Handler 4) (model : String) (decoder : Decoder) (upstream : Upstream 4) :
    Prop :=
  ∀ call request, handler.provider call request =
    .ok (streamResponse decoder (upstream call (wireRequest model request)))

section Answers
variable (model : String) (decoder : Decoder) (upstream : Upstream 4)

def modelSays (debate : Orchestration.Debate 4) (call : Orchestration.Call 4) : String :=
  words decoder (upstream call (wireRequest model (sequentialRequest debate call)))

/-- What the debate asks: the question alone at first, then the question, what
was answered last and what the others answered, and at the end everything. -/
structure Asks (debate : Orchestration.Debate 4) (question : String)
    (said : Orchestration.Call 4 → String) : Prop where
  first : ∀ seat, (sequentialRequest debate ⟨1, some seat⟩).messageHistory = [⟨.user, question⟩]
  later : ∀ seat round, (sequentialRequest debate ⟨round + 2, some seat⟩).messageHistory =
    [⟨.user, question⟩, ⟨.assistant, said ⟨round + 1, some seat⟩⟩,
      ⟨.user, instruction (round + 2) ++ "\n\n" ++
        readOut debate (fun other => said ⟨round + 1, some other⟩) fun other => other ≠ seat⟩]
  last : (sequentialRequest debate ⟨debate.rounds + 1, none⟩).messageHistory =
    [⟨.user, question ++ "\n\n" ++ String.join ((List.range debate.rounds).map fun earlier =>
      readOut debate (fun seat => said ⟨earlier + 1, some seat⟩) fun _ => true)⟩]

/-- The page is the beginning of what was said that ends in the turn `place`. -/
structure Reads (said : Orchestration.Call 4 → String) (rounds : Nat) (state : DebateState)
    (place : Nat) : Prop where
  inside : place ≤ 4 * rounds
  told : ∀ earlier, earlier < place → Screen.turnCell state earlier =
    (units (said ⟨roundAt earlier, some (seatAt earlier)⟩)).take MAX_CELL_CHARS
  telling : Screen.turnCell state place <+:
    (units (said ⟨roundAt place, some (seatAt place)⟩)).take MAX_CELL_CHARS
  untold : ∀ later, place < later ∨ 4 * rounds ≤ later → Screen.turnCell state later = []
  closing : ∀ round, cell state.transcript MODERATOR_ID round ≠ [] →
    round = rounds + 1 ∧ place = 4 * rounds
  summing : cell state.transcript MODERATOR_ID (rounds + 1) <+:
    (units (said ⟨rounds + 1, none⟩)).take MAX_CELL_CHARS
  verdict : state.phase = .done → place = 4 * rounds ∧
    state.verdict = units (said ⟨rounds + 1, none⟩)

variable {model decoder upstream} {handler : Handler 4} {debate : Orchestration.Debate 4}

theorem words_eq (answer : Except String Response) :
    String.join (streamResponse decoder answer).deltas = words decoder answer := by
  cases answer with
  | error err => rfl
  | ok response =>
      unfold streamResponse words
      dsimp only
      by_cases answered : response.status = 200
      · rw [if_neg (not_not.mpr answered), if_pos answered, scan_eq]
        rfl
      · rw [if_pos answered, if_neg answered]
        rfl

theorem answer_over (zai : OverZai handler model decoder upstream) (asked : ClientMessage)
    (call : Orchestration.Call 4) :
    answer (handler.debate asked) call = .ok (streamResponse decoder
      (upstream call (wireRequest model (sequentialRequest (handler.debate asked) call)))) :=
  zai call _

theorem text_over (zai : OverZai handler model decoder upstream) (asked : ClientMessage)
    (call : Orchestration.Call 4) :
    sequentialText (handler.debate asked) call =
      modelSays model decoder upstream (handler.debate asked) call := by
  have answered := answer_over zai asked call
  rw [answer] at answered
  rw [sequentialText, answered]
  exact words_eq _

theorem deltas_over (zai : OverZai handler model decoder upstream) (asked : ClientMessage)
    (call : Orchestration.Call 4) :
    (deltasOf (answer (handler.debate asked) call)).flatten =
      units (modelSays model decoder upstream (handler.debate asked) call) := by
  rw [answer_over zai asked call, modelSays, ← words_eq, units_join]
  rfl

theorem panel_distinct : Function.Injective fun seat => (panel seat).id := by
  decide +kernel

theorem asks_over (zai : OverZai handler model decoder upstream)
    (seats : handler.personas = panel) (asked : ClientMessage) :
    Asks (handler.debate asked) asked.question
      (modelSays model decoder upstream (handler.debate asked)) := by
  have distinct : Function.Injective fun seat => ((handler.debate asked).personas seat).id := by
    change Function.Injective fun seat => (handler.personas seat).id
    rw [seats]
    exact panel_distinct
  have said : sequentialText (handler.debate asked) =
      modelSays model decoder upstream (handler.debate asked) :=
    funext (text_over zai asked)
  constructor
  · intro seat
    rfl
  · intro seat round
    have history := buildRequest_history (handler.debate asked) distinct
      (fun other => sequentialText (handler.debate asked) ⟨round + 1, some other⟩)
      (sequential (handler.debate asked) round) (round + 1) (round + 2) seat (by omega)
    rw [← said]
    exact history
  · rw [← said, ← sequential_render]
    rfl

theorem reads_of_shows (zai : OverZai handler model decoder upstream) (asked : ClientMessage)
    {state : DebateState} {place : Nat}
    (shows_ : Screen.Shows (broadcast (handler.debate asked)) state place) :
    Reads (modelSays model decoder upstream (handler.debate asked))
      (handler.debate asked).rounds state place := by
  have turns : ∀ place, Screen.turnText (broadcast (handler.debate asked)) place =
      (units (modelSays model decoder upstream (handler.debate asked)
        ⟨roundAt place, some (seatAt place)⟩)).take MAX_CELL_CHARS := by
    intro place
    rw [← deltas_over zai asked]
    rfl
  have closing := deltas_over zai asked ⟨(handler.debate asked).rounds + 1, none⟩
  refine ⟨shows_.inside, ?_, ?_, shows_.untold, shows_.closing, ?_, ?_⟩
  · intro earlier before
    rw [← turns]
    exact shows_.told earlier before
  · rw [← turns]
    exact shows_.telling
  · rw [← closing]
    exact shows_.summing
  · intro done
    rcases shows_.verdict done with ⟨whole, outcome, _⟩
    refine ⟨whole, ?_⟩
    rw [← closing]
    simp only [broadcast] at outcome
    split at outcome
    · cases outcome
    · exact (WireStream.Outcome.verdict.inj outcome).symm

end Answers

section Runs
variable {setting : Setting} {site : Site} {model : String} {decoder : Decoder}
  {upstream : Upstream 4}

/-- From the docket to the model and back to the page. Whatever the user, the
browser, the network and the handlers do, the debate the server holds for the
last question asks the model about exactly the question in the docket, each
later request being built of what the model has said before, and what is
rendered is a beginning of what the model says: every turn before some place
capped but otherwise in full, a beginning of the one in that place, nothing
after it, and a verdict only if it is all the moderator has been given. -/
theorem page_reads_model (decimals : Decimals setting.toNumber)
    (seats : setting.handler.personas = panel)
    (closed : ∀ event, setting.handler.closedTakes event = false)
    (zai : OverZai setting.handler model decoder upstream)
    {reducedMotion stageFirst soundEnabled : Bool}
    (reached : Reaches (WholeSite.step setting) permits
      (.start reducedMotion stageFirst soundEnabled) site)
    (current : Nat) (last : site.app.hook.clients.length = current + 1)
    (debate : Orchestration.Debate 4) (run : Orchestration.State 4)
    (runs : (site.server current).run = some (debate, run)) :
    Asks debate (String.ofList (AskWire.decode site.app.question))
      (modelSays model decoder upstream debate) ∧
    (run.cancelled = false → ∀ call request, (run.calls call).request = some request →
      request = sequentialRequest debate call) ∧
    AskWire.number debate.rounds = site.app.rounds ∧
    ∃ place, Reads (modelSays model decoder upstream debate) debate.rounds site.app.state place := by
  have connected := (ReadAsSaid.tuned_reachable decimals seats (world_reached reached)).1
  have serves := connected.sessions current
  have named := debate_of_docket closed reached connected current last runs
  have pictures := pictured decimals seats closed reached current last
  have reachable := (SessionRuns.sound_reachable serves).runs _ runs
  rcases (heeds_reachable closed serves).runs debate run runs with ⟨asked, _, _, rfl⟩
  refine ⟨?_, ?_, named.2, ?_⟩
  · have question : asked.question = String.ofList (AskWire.decode site.app.question) := by
      rw [← named.1]
      exact String.ofList_toList.symm
    rw [← question]
    exact asks_over zai seats asked
  · intro uncancelled call request made
    exact asked_sequential reachable.2 uncancelled call request made
  · rcases pictures.shown _ run runs with ⟨place, shows_⟩
    exact ⟨place, reads_of_shows zai asked shows_⟩

end Runs

/-- Whatever it is asked, the model says one word. -/
def terse : Upstream 4 := fun _ _ =>
  .ok ⟨200, "", [bytes "data: x", bytes "", bytes "data: [DONE]"], [], none, true⟩

def yes : Decoder := fun data => if data = bytes "x" then some ["yes"] else none

def terse_setting : Setting where
  handler :=
    { toOrchestrator := Orchestration.New
        (fun call request => .ok (streamResponse yes (terse call (wireRequest "glm" request))))
        "glm" 4
      personas := panel
      closedTakes := fun _ => false }
  fraction := fun _ => []
  toNumber := decimal
  issue := fun _ => []

/-- A panelist's part of the first round, each event written and delivered. -/
def terse_call (seat : Fin 4) : List WholeSystem.Act :=
  let stream : Orchestration.StreamAction → WholeSystem.Act := fun action =>
    .serve 0 (.run (.stream ⟨1, some seat⟩ action))
  let told : List WholeSystem.Act := [stream .send, .serve 0 (.write true), .deliver 0]
  [.serve 0 (.run .spawn), stream .start, stream .produce, stream .pass] ++ told ++
    [stream .produce, stream .drain] ++ told

def terse_round : List WholeSystem.Act :=
  [.opened 0, .serve 0 (.accept true), .serve 0 .read, .serve 0 .validate] ++
    (List.finRange 4).flatMap terse_call ++
    [.serve 0 (.run .wait), .serve 0 (.run .announce), .serve 0 (.write true), .deliver 0]

/-- The question is asked, the first round comes to the browser and is
rendered. -/
def terse_visit : List WholeSite.Act :=
  [.page (.input (units "Why?")), .page .submit] ++ terse_round.map .network ++ [.page .render]

theorem page_reads_model_terse :
    ∃ site, perform (WholeSite.step terse_setting) permits (.start true true false) terse_visit =
        some site ∧
      Screen.turnCell site.app.state 0 = units "yes" ∧
      ∃ debate place, Asks debate (String.ofList (AskWire.decode (units "Why?")))
          (modelSays "glm" yes terse debate) ∧
        Reads (modelSays "glm" yes terse debate) debate.rounds site.app.state place := by
  have run : (perform (WholeSite.step terse_setting) permits (.start true true false) terse_visit).map
      (fun site => (Screen.turnCell site.app.state 0, (site.server 0).run.isSome,
        site.app.hook.clients.length, site.app.question)) =
          some (units "yes", true, 1, units "Why?") := by
    decide +kernel
  rcases Option.map_eq_some_iff.mp run with ⟨site, performed, facts⟩
  have shown := congrArg (fun fact => fact.1) facts
  have runs := congrArg (fun fact => fact.2.1) facts
  have last := congrArg (fun fact => fact.2.2.1) facts
  have question := congrArg (fun fact => fact.2.2.2) facts
  rcases Option.isSome_iff_exists.mp runs with ⟨⟨debate, state⟩, running⟩
  rcases page_reads_model decimals_decimal rfl (fun _ => rfl)
    (show OverZai terse_setting.handler "glm" yes terse from fun _ _ => rfl)
    (perform_reaches _ _ _ performed) 0 last debate state running with
    ⟨asks, _, _, place, reads⟩
  simp only at question
  rw [question] at asks
  exact ⟨site, performed, shown, debate, place, asks, reads⟩

end Council.ModelToPage
