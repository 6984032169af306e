import Council.EventWire
import Council.SessionRuns

/-!
Encoder and decoder of the event protocol agree: every event a session with
`DefaultPanel` can write is accepted by the client and read back field by
field, and no two events are read as one.
-/

namespace Council.EventAgreement

open Council.Machines
open Council.Protocol
open Council.ServerProtocol
open Council.Orchestration
open Council.DebateShape
open Council.HandleSession
open Council.SessionRuns
open Council.UseDebate
open Council.EventWire

/-- The events of a session with `DefaultPanel` and so many rounds. -/
inductive Writable (rounds : Nat) : Event → Prop where
  | token {persona : Persona} (seated : persona ∈ DefaultPanel) {round : Nat}
      (low : 1 ≤ round) (high : round ≤ rounds) (delta : String) :
      Writable rounds (Token persona.id round delta)
  | synthesis (delta : String) : Writable rounds (Token Moderator.id (rounds + 1) delta)
  | done {persona : Persona} (seated : persona ∈ DefaultPanel) {round : Nat}
      (low : 1 ≤ round) (high : round ≤ rounds) :
      Writable rounds (PersonaDone persona.id round)
  | complete {round : Nat} (low : 1 ≤ round) (high : round ≤ rounds) :
      Writable rounds (RoundComplete round)
  | verdict (text : String) : Writable rounds (Verdict text)
  | failed {persona : Persona} (known : persona ∈ Moderator :: DefaultPanel)
      (reason : String) : Writable rounds (Error persona.id reason)
  | refused (reason : String) : Writable rounds (Error "" reason)

/-- The rounds of a debate whose ask `Validate` accepts. -/
def Accepted (rounds : Nat) : Prop :=
  ∃ message : ClientMessage, message.validate = none ∧
    rounds = if message.rounds = 0 then DefaultRounds else message.rounds.toNat

theorem accepted_le {rounds : Nat} (accepted : Accepted rounds) : rounds ≤ 8 := by
  obtain ⟨message, valid, rfl⟩ := accepted
  rcases validate_rounds message valid with absent | ⟨low, high, _⟩
  · rw [if_pos absent]
    decide
  · split
    · decide
    · omega

section Events

def kind : DebateEvent → EventType
  | .token _ _ _ => .token
  | .personaDone _ _ => .personaDone
  | .roundComplete _ => .roundComplete
  | .verdict _ => .verdict
  | .error _ => .error

/-- The `persona` of a validated event, if it has one. -/
def speaker : DebateEvent → Option PersonaId
  | .token persona _ _ => some persona
  | .personaDone persona _ => some persona
  | .error event => event.persona
  | _ => none

def roundOf : DebateEvent → Option Nat
  | .token _ round _ => some round
  | .personaDone _ round => some round
  | .roundComplete round => some round
  | _ => none

def deltaOf : DebateEvent → Text
  | .token _ _ delta => delta
  | _ => []

def errorOf : DebateEvent → Text
  | .error event => event.error
  | _ => []

def verdictOf : DebateEvent → Text
  | .verdict verdict => verdict
  | _ => []

end Events

/-- The client's event has the server's type and fields; what the server left
out is undefined or "". -/
structure Reads (event : Event) (read : DebateEvent) : Prop where
  type : kind read = event.type
  persona : ((speaker read).map name).getD "" = event.persona
  round : (roundOf read).getD 0 = event.round
  delta : deltaOf read = units event.delta
  error : errorOf read = units event.errMessage
  verdict : verdictOf read = units event.verdict

theorem reads_inj {first second : Event} {read : DebateEvent} (one : Reads first read)
    (other : Reads second read) : first = second := by
  have type := one.type.symm.trans other.type
  have persona := one.persona.symm.trans other.persona
  have round := one.round.symm.trans other.round
  have delta := units_inj.mp (one.delta.symm.trans other.delta)
  have error := units_inj.mp (one.error.symm.trans other.error)
  have verdict := units_inj.mp (one.verdict.symm.trans other.verdict)
  cases first
  cases second
  simp_all

theorem persona_known {persona : Persona} (known : persona ∈ Moderator :: DefaultPanel) :
    ∃ id, personaIdSchema (sentString persona.id) = some id ∧ name id = persona.id := by
  have all : ∀ persona ∈ Moderator :: DefaultPanel,
      (personaIdSchema (sentString persona.id)).map name = some persona.id := by
    decide +kernel
  obtain ⟨id, here, same⟩ := Option.map_eq_some_iff.mp (all persona known)
  exact ⟨id, here, same⟩

theorem optionalPersona_known {present : Option Json} {id : PersonaId}
    (known : personaIdSchema present = some id) : optionalPersona present = some (some id) := by
  cases present with
  | none => cases known
  | some json => simp [optionalPersona, known]

theorem eventSchema_marshal {rounds : Nat} (accepted : Accepted rounds) {event : Event}
    (writable : Writable rounds event) :
    ∃ read, eventSchema (marshal event) = some read ∧ Reads event read := by
  have bound : rounds + 1 ≤ MAX_WIRE_ROUND := Nat.succ_le_succ (accepted_le accepted)
  rw [eventSchema_eq]
  cases writable with
  | @token persona seated round low high delta =>
      obtain ⟨id, known, same⟩ := persona_known (List.mem_cons_of_mem _ seated)
      refine ⟨.token id round (units delta), ?_, ⟨rfl, same, rfl, rfl, rfl, rfl⟩⟩
      simp [Token, known, wireRound_sent low (by omega : round ≤ MAX_WIRE_ROUND)]
  | synthesis delta =>
      obtain ⟨id, known, same⟩ := persona_known List.mem_cons_self
      refine ⟨.token id (rounds + 1) (units delta), ?_, ⟨rfl, same, rfl, rfl, rfl, rfl⟩⟩
      simp [Token, known, wireRound_sent (Nat.succ_pos rounds) bound]
  | @done persona seated round low high =>
      obtain ⟨id, known, same⟩ := persona_known (List.mem_cons_of_mem _ seated)
      refine ⟨.personaDone id round, ?_, ⟨rfl, same, rfl, rfl, rfl, rfl⟩⟩
      simp [PersonaDone, known, wireRound_sent low (by omega : round ≤ MAX_WIRE_ROUND)]
  | @complete round low high =>
      refine ⟨.roundComplete round, ?_, ⟨rfl, rfl, rfl, rfl, rfl, rfl⟩⟩
      simp [RoundComplete, wireRound_sent low (by omega : round ≤ MAX_WIRE_ROUND)]
  | verdict text => exact ⟨.verdict (units text), rfl, ⟨rfl, rfl, rfl, rfl, rfl, rfl⟩⟩
  | @failed persona listed reason =>
      obtain ⟨id, known, same⟩ := persona_known listed
      refine ⟨.error ⟨some id, units reason⟩, ?_, ⟨rfl, same, rfl, rfl, rfl, rfl⟩⟩
      simp [Error, optionalPersona_known known]
  | refused reason =>
      exact ⟨.error ⟨none, units reason⟩, rfl, ⟨rfl, rfl, rfl, rfl, rfl, rfl⟩⟩

section Sessions
variable {count : Nat}

/-- The events `Run` can put on `out`. -/
inductive Spoken (debate : Debate count) : Event → Prop where
  | token {call : Call count} (made : Makes debate call) (delta : String) :
      Spoken debate (ServerProtocol.Token (debate.persona call.speaker).id call.round delta)
  | failure {call : Call count} (made : Makes debate call) : Spoken debate (debate.failure call)
  | ending {call : Call count} (made : Makes debate call) (text : String) :
      Spoken debate (debate.ending call text)
  | mark {round : Nat} (low : 1 ≤ round) (high : round ≤ debate.rounds) :
      Spoken debate (RoundComplete round)

/-- Every event at a send is one `Run` can put on `out`. -/
def Ready (debate : Debate count) (state : State count) : Prop :=
  ∀ call event more, (state.calls call).pc = .emitting event more → Spoken debate event

theorem ready_step {debate : Debate count} {before after : State count}
    {action : Orchestration.Action count}
    (taken : Orchestration.step debate before action = some after) (shape : Shape debate before)
    (ready : Ready debate before) : Ready debate after := by
  -- a call just made sends nothing yet
  have calling : ∀ moved : Call count, ∀ call event more,
      (Function.update before.calls moved { pc := .calling } call).pc = .emitting event more →
        Spoken debate event := by
    intro moved call event more emits
    by_cases here : call = moved
    · subst here
      rw [Function.update_self] at emits
      cases emits
    · rw [Function.update_of_ne here] at emits
      exact ready call event more emits
  cases Orchestration.moves_of_step debate before after action taken with
  | spawn seat at_ room => exact calling _
  | last at_ over_ => exact calling _
  | @stream moved action stream events advanced =>
      intro call event more emits
      have made : Makes debate moved :=
        shape.ranged moved (begun_of_advanced advanced (shape.coherent moved))
      by_cases here : call = moved
      · subst here
        dsimp only at emits
        rw [Function.update_self] at emits
        cases advanced with
        | refused calls answer => cases emits; exact .failure made
        | started calls answer => cases emits
        | produced moved => exact ready call event more emits
        | lost done moved => exact ready call event more emits
        | aborted done moved => exact ready call event more emits
        | failed receives offered error => cases emits; exact .failure made
        | spoke receives offered delta => cases emits; exact .token made _
        | drained receives ended => cases emits; exact .ending made _
        | @sent event more emits_ =>
            dsimp only at emits
            split at emits
            · cases emits
            · cases emits
        | dropped done emits_ => cases emits
      · dsimp only at emits
        rw [Function.update_of_ne here] at emits
        exact ready call event more emits
  | _ => exact ready

theorem ready_reachable {debate : Debate count} {state : State count}
    (reachable : Reachable debate state) : Ready debate state := by
  obtain ⟨cancelled, reached⟩ := reachable
  refine reached.invariant (Ready debate) ?_ fun before action after earlier _ taken ready =>
    ready_step taken (shape_reachable ⟨cancelled, earlier⟩) ready
  intro call event more emits
  unfold State.initial State.enter at emits
  split at emits
  · cases emits
  · by_cases here : call = ⟨debate.rounds + 1, none⟩
    · subst here
      dsimp only at emits
      rw [Function.update_self] at emits
      cases emits
    · dsimp only at emits
      rw [Function.update_of_ne here] at emits
      cases emits

theorem spoken_offered {debate : Debate count} {state : State count}
    {action : Orchestration.Action count} {event : Event} (reachable : Reachable debate state)
    (offers : offered state action = some event) : Spoken debate event := by
  have bounded := (shape_reachable reachable).bounded
  unfold offered at offers
  split at offers
  · split at offers
    · rename_i round at_
      cases offers
      rw [at_] at bounded
      exact .mark bounded.1 bounded.2
    · cases offers
  · split at offers
    · rename_i emits
      cases offers
      exact ready_reachable reachable _ _ _ emits
    · cases offers
  · cases offers

/-- The session's debate can say the event. -/
def Says (session : Session count) (event : Event) : Prop :=
  ∃ run, session.run = some run ∧ Spoken run.1 event

structure Speaks (session : Session count) : Prop where
  written : ∀ event ∈ session.written, event = refusal ∨ Says session event
  writing : ∀ event late, session.phase = .writing event late → Says session event

theorem speaks_step {handler : Handler count} {session after : Session count}
    {action : HandleSession.Action count}
    (taken : HandleSession.step handler session action = some after)
    (sound : Sound handler session) (speaks : Speaks session) : Speaks after := by
  have written := speaks.written
  -- a step that keeps the debate keeps what it can say
  have kept : ∀ {debate : Debate count} {state next : State count} {later : Session count},
      session.run = some (debate, state) → later.run = some (debate, next) →
      ∀ event, Says session event → Says later event := by
    rintro debate state next later runs now event ⟨run, here, spoken⟩
    rw [runs] at here
    cases here
    exact ⟨_, now, spoken⟩
  cases HandleSession.moves_of_step handler session after action taken with
  | send frame present => exact ⟨written, speaks.writing⟩
  | leave present => exact ⟨written, speaks.writing⟩
  | accept at_ succeeds =>
      refine ⟨written, fun event late at_ => ?_⟩
      cases succeeds <;> cases at_
  | read at_ first => exact ⟨written, by simp⟩
  | garbled at_ first => exact ⟨written, by simp⟩
  | interrupt at_ gone => exact ⟨written, by simp⟩
  | invalid at_ wrong => exact ⟨written, by simp⟩
  | valid at_ accepted =>
      refine ⟨fun event member => ?_, by simp⟩
      rcases written event member with refused | ⟨run, runs, _⟩
      · exact .inl refused
      · rw [sound.early (by rw [at_]; trivial)] at runs
        cases runs
  | refuse at_ succeeds =>
      refine ⟨fun event member => ?_, by simp⟩
      cases succeeds with
      | false => exact written event member
      | true =>
          rcases List.mem_append.mp member with earlier | last
          · exact written event earlier
          · exact .inl (List.mem_singleton.mp last)
  | inner runs inside moved silent =>
      exact ⟨fun event member => (written event member).imp_right (kept runs rfl event),
        fun event late at_ => kept runs rfl event (speaks.writing event late at_)⟩
  | receive at_ runs inside moved offers =>
      refine ⟨fun event member => (written event member).imp_right (kept runs rfl event), ?_⟩
      intro event late writes
      cases writes
      exact ⟨_, rfl, spoken_offered (sound.runs _ runs).2 offers⟩
  | drained at_ runs closed =>
      exact ⟨fun event member => (written event member).imp_right (kept runs rfl event), by simp⟩
  | @wrote event late at_ took =>
      refine ⟨fun other member => ?_, by simp⟩
      rcases List.mem_append.mp member with earlier | last
      · exact written other earlier
      · rw [List.mem_singleton.mp last]
        exact .inr (speaks.writing event late at_)
  | failed at_ =>
      refine ⟨fun event member => (written event member).imp_right ?_, by simp⟩
      rintro ⟨⟨debate, state⟩, runs, spoken⟩
      exact ⟨cancel (debate, state), by rw [runs]; rfl, spoken⟩
  | disconnect runs cause fresh =>
      exact ⟨fun event member => (written event member).imp_right (kept runs rfl event),
        fun event late at_ => kept runs rfl event (speaks.writing event late at_)⟩

theorem speaks_reachable {handler : Handler count} {session : Session count}
    (reached : Reaches (HandleSession.step handler) always {} session) : Speaks session := by
  refine reached.invariant Speaks ⟨fun event member => (by cases member), by simp⟩ ?_
  intro before action after earlier _ taken speaks
  exact speaks_step taken (sound_reachable earlier) speaks

end Sessions

def panel (seat : Fin 4) : Persona := DefaultPanel.get seat

theorem writable_of_spoken {debate : Debate 4} (seats : debate.personas = panel)
    {event : Event} (spoken : Spoken debate event) : Writable debate.rounds event := by
  have seated : ∀ seat, debate.personas seat ∈ DefaultPanel := by
    intro seat
    rw [seats]
    exact List.get_mem _ _
  have known : ∀ speaker, debate.persona speaker ∈ Moderator :: DefaultPanel := by
    intro speaker
    cases speaker with
    | none => exact List.mem_cons_self
    | some seat => exact List.mem_cons_of_mem _ (seated seat)
  cases spoken with
  | @token call made delta =>
      obtain ⟨round, speaker⟩ := call
      cases speaker with
      | none =>
          have last : round = debate.rounds + 1 := made
          subst last
          exact .synthesis delta
      | some seat => exact .token (seated seat) made.1 made.2 delta
  | failure made => exact .failed (known _) _
  | @ending call made text =>
      obtain ⟨round, speaker⟩ := call
      cases speaker with
      | none => exact .verdict text
      | some seat => exact .done (seated seat) made.1 made.2
  | mark low high => exact .complete low high

theorem written_writable {handler : Handler 4} (seats : handler.personas = panel)
    {session : Session 4} (reached : Reaches (HandleSession.step handler) always {} session)
    {event : Event} (written : event ∈ session.written) :
    ∃ rounds, Accepted rounds ∧ Writable rounds event := by
  rcases (speaks_reachable reached).written event written with refused | ⟨run, runs, spoken⟩
  -- the refusal is writable whatever was asked
  · subst refused
    exact ⟨2, ⟨⟨"ask", "why?", 2⟩, by decide +kernel, rfl⟩, .refused _⟩
  · obtain ⟨message, valid, same⟩ := ((sound_reachable reached).runs run runs).1
    rw [same] at spoken
    exact ⟨(handler.debate message).rounds, ⟨message, valid, rfl⟩, writable_of_spoken seats spoken⟩

section Wire
variable (parse : Text → Option Json) (issue : Json → Text)

theorem parseEvent_marshal {rounds : Nat} (accepted : Accepted rounds) {event : Event}
    (writable : Writable rounds event) {text : Text} (agree : parse text = some (marshal event)) :
    ∃ read, EventWire.parseEvent parse issue text = .ok read ∧ Reads event read := by
  obtain ⟨read, known, reads⟩ := eventSchema_marshal accepted writable
  exact ⟨read, by rw [EventWire.parseEvent, agree]; dsimp only; rw [known], reads⟩

/-- Where `JSON.parse` reads from a frame the object the server marshalled, the
client takes every event a session with `DefaultPanel` can write, with all its
fields, and takes no two of them for one. -/
theorem events_survive_wire :
    (∀ rounds, Accepted rounds → ∀ event, Writable rounds event → ∀ text,
      parse text = some (marshal event) → text.length ≤ MAX_FRAME_CHARS →
        ∃ read, Reads event read ∧ EventWire.parseEvent parse issue text = .ok read ∧
          ∀ player, onMessage (EventWire.parseEvent parse issue) player (.text text) =
            DebatePlayer.feed player read) ∧
    (∀ rounds others, Accepted rounds → Accepted others →
      ∀ first second, Writable rounds first → Writable others second → ∀ text other,
        parse text = some (marshal first) → parse other = some (marshal second) →
        EventWire.parseEvent parse issue text = EventWire.parseEvent parse issue other →
        first = second) ∧
    ∀ handler : Handler 4, handler.personas = panel → ∀ session,
      Reaches (HandleSession.step handler) always {} session → ∀ event ∈ session.written,
        ∃ rounds, Accepted rounds ∧ Writable rounds event := by
  refine ⟨?_, ?_, fun handler seats session reached event written =>
    written_writable seats reached written⟩
  · intro rounds accepted event writable text agree short
    obtain ⟨read, parsed, reads⟩ := parseEvent_marshal parse issue accepted writable agree
    refine ⟨read, reads, parsed, fun player => ?_⟩
    rw [onMessage, if_neg (Nat.not_lt.mpr short), parsed]
  -- two events read alike have the same fields
  · intro rounds others accepted also first second one two text other agree again same
    obtain ⟨read, parsed, reads⟩ := parseEvent_marshal parse issue accepted one agree
    obtain ⟨reread, reparsed, rereads⟩ := parseEvent_marshal parse issue also two again
    rw [parsed, reparsed] at same
    cases same
    exact reads_inj reads rereads

end Wire

/-- The frame of a token without a delta. -/
def sparse : Text :=
  units "\x7b\"type\":\"token\",\"persona\":\"skeptic\",\"round\":1\x7d\n"

/-- `JSON.parse` on that frame. -/
def parseSparse (text : Text) : Option Json :=
  if text = sparse then
    some (.object [(units "type", .string (units "token")),
      (units "persona", .string (units "skeptic")), (units "round", .number (.finite 1))])
  else none

theorem events_survive_wire_sparse :
    ∃ read, Reads (Token "skeptic" 1 "") read ∧
      EventWire.parseEvent parseSparse (fun _ => []) sparse = .ok read := by
  have accepted : Accepted 2 := ⟨⟨"ask", "why?", 0⟩, by decide +kernel, rfl⟩
  have seated : panel ⟨0, Nat.zero_lt_succ 3⟩ ∈ DefaultPanel := List.get_mem _ _
  have agree : parseSparse sparse = some (marshal (Token "skeptic" 1 "")) := by
    rw [parseSparse, if_pos rfl]
    rfl
  obtain ⟨read, reads, parsed, _⟩ :=
    (events_survive_wire parseSparse fun _ => []).1 2 accepted _
      (.token seated (le_refl 1) (by decide) "") sparse agree (by decide +kernel)
  exact ⟨read, reads, parsed⟩

end Council.EventAgreement
