import Council.Interleavings
import Council.Spoken
import Council.TurnOrder

/-!
The streams a server sends: rounds of four concurrent panelists, each round
closed by its `round_complete`, then the moderator. What playback relies on is
only the order of the arrivals, which any cut of such a stream keeps.
-/

namespace Council.WireStream
open Protocol DebateReducer DebatePlayer PlayerRuns Playbill TurnOrder Spoken Interleavings

/-- One panelist's part of a round. -/
structure Contribution where
  deltas : List Text
  failure : Option Text

inductive Outcome where
  | verdict (verdict : Text)
  | failure (message : Text)

structure Debate where
  rounds : Nat
  contribution : Nat → Seat → Contribution
  synthesis : List Text
  outcome : Outcome

def Contribution.ending (contribution : Contribution) (round : Nat) (seat : Seat) :
    DebateEvent :=
  match contribution.failure with
  | none => .personaDone (panelist seat) round
  | some message => .error ⟨some (panelist seat), message⟩

/-- `token*` and then `persona_done` or `error`. -/
def Debate.lane (debate : Debate) (round : Nat) (seat : Seat) : List DebateEvent :=
  ((debate.contribution round seat).deltas.map fun delta =>
    .token (panelist seat) round delta) ++
      [(debate.contribution round seat).ending round seat]

def Outcome.event : Outcome → DebateEvent
  | .verdict text => .verdict text
  | .failure message => .error ⟨some MODERATOR_ID, message⟩

def Debate.closing (debate : Debate) : List DebateEvent :=
  (debate.synthesis.map fun delta => .token MODERATOR_ID (debate.rounds + 1) delta) ++
    [debate.outcome.event]

/-- A stream that carries a debate, the panelists of each round interleaved. -/
def Conformant (debate : Debate) (stream : List DebateEvent) : Prop :=
  ∃ body, Rounds debate.lane .roundComplete 1 debate.rounds body ∧
    stream = body ++ debate.closing

def seatFor : PersonaId → Seat
  | .optimist => ⟨1, by decide⟩
  | .expert => ⟨2, by decide⟩
  | .contrarian => ⟨3, by decide⟩
  | _ => ⟨0, by decide⟩

/-- The lane of a round that an event belongs to. -/
def seatOf : DebateEvent → Seat
  | .token persona _ _ => seatFor persona
  | .personaDone persona _ => seatFor persona
  | .error error => (error.persona.map seatFor).getD ⟨0, by decide⟩
  | _ => ⟨0, by decide⟩

theorem lane_cases (debate : Debate) (round : Nat) (seat : Seat) (event : DebateEvent)
    (member : event ∈ debate.lane round seat) :
    (∃ delta, event = .token (panelist seat) round delta) ∨
      event = .personaDone (panelist seat) round ∨
        ∃ message, event = .error ⟨some (panelist seat), message⟩ := by
  rcases List.mem_append.mp member with token | last
  · obtain ⟨delta, _, rfl⟩ := List.mem_map.mp token
    exact .inl ⟨delta, rfl⟩
  · rw [List.mem_singleton.mp last, Contribution.ending]
    cases (debate.contribution round seat).failure with
    | none => exact .inr (.inl rfl)
    | some message => exact .inr (.inr ⟨message, rfl⟩)

theorem closing_cases (debate : Debate) (event : DebateEvent)
    (member : event ∈ debate.closing) :
    (∃ delta, event = .token MODERATOR_ID (debate.rounds + 1) delta) ∨
      event = debate.outcome.event := by
  rcases List.mem_append.mp member with token | last
  · obtain ⟨delta, _, rfl⟩ := List.mem_map.mp token
    exact .inl ⟨delta, rfl⟩
  · exact .inr (List.mem_singleton.mp last)

def roundOf : Arrival → Option Nat
  | .event (.token _ round _) => some round
  | .event (.personaDone _ round) => some round
  | .event (.roundComplete round) => some round
  | _ => none

def IsLast (arrival : Arrival) : Bool := IsEnding (asInput arrival)

/-- Nothing follows the close, only the close follows an ending, and only
later rounds follow a completed one. -/
structure Precedes (earlier later : Arrival) : Prop where
  unclosed : earlier ≠ .close
  ended : IsLast earlier = true → later = .close
  completed : ∀ round next, earlier = .event (.roundComplete round) →
    roundOf later = some next → round < next

theorem precedes_free (event : DebateEvent) (later : Arrival)
    (survivable : IsLast (.event event) = false)
    (speech : ∀ round, event ≠ .roundComplete round) : Precedes (.event event) later where
  unclosed := fun same => by cases same
  ended := fun ends => by rw [survivable] at ends; cases ends
  completed := fun round _ same => by cases same; exact absurd rfl (speech round)

theorem precedes_round (round : Nat) (later : Arrival)
    (after : ∀ next, roundOf later = some next → round < next) :
    Precedes (.event (.roundComplete round)) later where
  unclosed := fun same => by cases same
  ended := fun ends => by cases ends
  completed := fun _ next same heard => by cases same; exact after next heard

/-- What playback needs of the stream: its order, the moderator in the round
`final` only, and no completed round without the earlier ones. -/
structure Orderly (final : Nat) (whole : List Arrival) : Prop where
  ordered : whole.Pairwise Precedes
  synthesis : ∀ round delta, .event (.token MODERATOR_ID round delta) ∈ whole → round = final
  rounds : ∀ round, .event (.roundComplete round) ∈ whole →
    0 < round ∧ ∀ earlier, 0 < earlier → earlier < round →
      .event (.roundComplete earlier) ∈ whole

theorem lane_free (debate : Debate) (round : Nat) (seat : Seat) (event : DebateEvent)
    (member : event ∈ debate.lane round seat) (later : Arrival) :
    Precedes (.event event) later := by
  rcases lane_cases debate round seat event member with ⟨delta, rfl⟩ | rfl | ⟨message, rfl⟩
  · exact precedes_free _ later rfl (fun _ same => by cases same)
  · exact precedes_free _ later rfl (fun _ same => by cases same)
  · have survivable : IsLast (.event (.error ⟨some (panelist seat), message⟩)) = false := by
      simp [IsLast, asInput, IsEnding, ErrorEvent.terminal, panelist_ne_moderator seat]
    exact precedes_free _ later survivable (fun _ same => by cases same)

theorem lane_round (debate : Debate) (round : Nat) (seat : Seat) (event : DebateEvent)
    (member : event ∈ debate.lane round seat) (next : Nat)
    (known : roundOf (.event event) = some next) : next = round := by
  rcases lane_cases debate round seat event member with ⟨delta, rfl⟩ | rfl | ⟨message, rfl⟩
  · exact (Option.some.inj known).symm
  · exact (Option.some.inj known).symm
  · cases known

theorem outcome_round (outcome : Outcome) : roundOf (.event outcome.event) = none := by
  cases outcome <;> rfl

section Streams
variable {debate : Debate} {stream : List DebateEvent}

theorem conformant_ordered (conformant : Conformant debate stream) :
    stream.Pairwise fun earlier later => Precedes (.event earlier) (.event later) := by
  obtain ⟨body, rounds, rfl⟩ := conformant
  have inBody : body.Pairwise fun earlier later => Precedes (.event earlier) (.event later) := by
    apply rounds.pairwise
    · exact fun round seat event member later => lane_free debate round seat event member _
    · intro round other seat below event member
      refine precedes_round round _ fun next known => ?_
      rw [lane_round debate other seat event member next known]
      exact below
    · intro round other below
      exact precedes_round round _ fun next known => by cases known; exact below
  have token_free : ∀ delta later,
      Precedes (.event (.token MODERATOR_ID (debate.rounds + 1) delta)) later :=
    fun delta later => precedes_free _ later rfl (fun _ same => by cases same)
  have inClosing : debate.closing.Pairwise fun earlier later =>
      Precedes (.event earlier) (.event later) := by
    refine List.pairwise_append.mpr ⟨?_, List.pairwise_singleton _ _, ?_⟩
    · exact List.pairwise_map.mpr (List.pairwise_of_forall fun _ _ => token_free _ _)
    · intro event member later _
      obtain ⟨delta, _, rfl⟩ := List.mem_map.mp member
      exact token_free delta _
  refine List.pairwise_append.mpr ⟨inBody, inClosing, ?_⟩
  intro event member later last
  obtain ⟨round, low, high, rfl | ⟨seat, inside⟩⟩ := rounds.mem event member
  · refine precedes_round round _ fun next known => ?_
    rcases closing_cases debate later last with ⟨delta, rfl⟩ | rfl
    · cases known
      omega
    · rw [outcome_round] at known
      cases known
  · exact lane_free debate round seat event inside _

theorem conformant_synthesis (conformant : Conformant debate stream) (round : Nat)
    (delta : Text) (member : .token MODERATOR_ID round delta ∈ stream) :
    round = debate.rounds + 1 := by
  obtain ⟨body, rounds, rfl⟩ := conformant
  rcases List.mem_append.mp member with inBody | last
  · obtain ⟨_, _, _, marked | ⟨seat, inside⟩⟩ := rounds.mem _ inBody
    · cases marked
    · rcases lane_cases _ _ _ _ inside with ⟨_, same⟩ | same | ⟨_, same⟩
      · injection same with who
        exact absurd who.symm (panelist_ne_moderator seat)
      · cases same
      · cases same
  · rcases closing_cases debate _ last with ⟨_, same⟩ | same
    · injection same
    · cases outcome : debate.outcome <;> rw [outcome] at same <;> cases same

theorem conformant_rounds (conformant : Conformant debate stream) (round : Nat) :
    .roundComplete round ∈ stream ↔ 0 < round ∧ round ≤ debate.rounds := by
  obtain ⟨body, rounds, rfl⟩ := conformant
  constructor
  · intro member
    rcases List.mem_append.mp member with inBody | last
    · obtain ⟨other, low, high, marked | ⟨seat, inside⟩⟩ := rounds.mem _ inBody
      · cases marked
        omega
      · rcases lane_cases _ _ _ _ inside with ⟨_, same⟩ | same | ⟨_, same⟩ <;> cases same
    · rcases closing_cases debate _ last with ⟨_, same⟩ | same
      · cases same
      · cases outcome : debate.outcome <;> rw [outcome] at same <;> cases same
  · rintro ⟨low, high⟩
    exact List.mem_append_left _ (rounds.mark_mem round (by omega) (by omega))

theorem conformant_verdict (conformant : Conformant debate stream) (verdict : Text)
    (member : .verdict verdict ∈ stream) : debate.outcome.event = .verdict verdict := by
  obtain ⟨body, rounds, rfl⟩ := conformant
  rcases List.mem_append.mp member with inBody | last
  · obtain ⟨_, _, _, marked | ⟨seat, inside⟩⟩ := rounds.mem _ inBody
    · cases marked
    · rcases lane_cases _ _ _ _ inside with ⟨_, same⟩ | same | ⟨_, same⟩ <;> cases same
  · rcases closing_cases debate _ last with ⟨_, same⟩ | same
    · cases same
    · exact same.symm

theorem lane_deltas (debate : Debate) (round : Nat) (seat : Seat) :
    (debate.lane round seat).filterMap (fun event =>
      deltaOf (panelist seat) round (.event event)) = (debate.contribution round seat).deltas := by
  have silent : deltaOf (panelist seat) round
      (.event ((debate.contribution round seat).ending round seat)) = none := by
    unfold Contribution.ending
    cases (debate.contribution round seat).failure <;> rfl
  rw [Debate.lane, List.filterMap_append, List.filterMap_map]
  simp [silent]

theorem lane_apart (debate : Debate) (persona : PersonaId) (round other : Nat) (seat : Seat)
    (apart : ¬ (panelist seat = persona ∧ other = round)) (event : DebateEvent)
    (member : event ∈ debate.lane other seat) :
    deltaOf persona round (.event event) = none := by
  rcases lane_cases debate other seat event member with ⟨delta, rfl⟩ | rfl | ⟨message, rfl⟩
  · exact if_neg apart
  · rfl
  · rfl

theorem conformant_contribution (conformant : Conformant debate stream) (round : Nat)
    (low : 0 < round) (high : round ≤ debate.rounds) (seat : Seat) :
    deltas (panelist seat) round (stream.map .event) =
      (debate.contribution round seat).deltas := by
  obtain ⟨body, rounds, rfl⟩ := conformant
  have inBody := rounds.filter_map
    (fun event => deltaOf (panelist seat) round (.event event)) round seat (by omega) (by omega)
    (fun other otherSeat apart event member =>
      lane_apart debate (panelist seat) round other otherSeat
        (fun same => apart ⟨same.2, panelist_injective _ _ same.1⟩) event member)
    (fun _ => rfl)
  have silent : debate.closing.filterMap
      (fun event => deltaOf (panelist seat) round (.event event)) = [] := by
    refine List.filterMap_eq_nil_iff.mpr fun event member => ?_
    rcases closing_cases debate event member with ⟨delta, rfl⟩ | rfl
    · exact if_neg fun same => panelist_ne_moderator seat same.1.symm
    · cases debate.outcome <;> rfl
  have whole := inBody.trans (lane_deltas debate round seat)
  simpa [deltas, List.filterMap_map, Function.comp_def, silent] using whole

theorem conformant_closing (conformant : Conformant debate stream) :
    deltas MODERATOR_ID (debate.rounds + 1) (stream.map .event) = debate.synthesis := by
  obtain ⟨body, rounds, rfl⟩ := conformant
  have inBody : body.filterMap
      (fun event => deltaOf MODERATOR_ID (debate.rounds + 1) (.event event)) = [] := by
    refine List.filterMap_eq_nil_iff.mpr fun event member => ?_
    obtain ⟨round, _, _, rfl | ⟨seat, inside⟩⟩ := rounds.mem event member
    · rfl
    · exact lane_apart debate _ _ round seat
        (fun same => panelist_ne_moderator seat same.1) event inside
  have silent : deltaOf MODERATOR_ID (debate.rounds + 1) (.event debate.outcome.event) = none := by
    cases debate.outcome <;> rfl
  rw [deltas, List.filterMap_map, Debate.closing]
  simp [inBody, silent]

theorem conformant_orderly (conformant : Conformant debate stream)
    {received : List DebateEvent} (cut : received <+: stream) :
    Orderly (debate.rounds + 1) (received.map .event ++ [.close]) := by
  obtain ⟨rest, rfl⟩ := cut
  have ordered := List.pairwise_append.mp (conformant_ordered conformant)
  have known : ∀ event, Arrival.event event ∈ received.map Arrival.event ++ [.close] →
      event ∈ received := by
    intro event member
    simpa using member
  have listed : ∀ event, event ∈ received →
      Arrival.event event ∈ received.map Arrival.event ++ [.close] := by
    intro event member
    simpa using member
  constructor
  · refine List.pairwise_append.mpr
      ⟨List.pairwise_map.mpr ordered.1, List.pairwise_singleton _ _, ?_⟩
    intro earlier member later last
    obtain ⟨event, _, rfl⟩ := List.mem_map.mp member
    rw [List.mem_singleton.mp last]
    exact ⟨(nomatch ·), fun _ => rfl, fun _ _ _ known => nomatch known⟩
  · intro round delta member
    exact conformant_synthesis conformant round delta
      (List.mem_append_left _ (known _ member))
  · intro round member
    have whole := List.mem_append_left rest (known _ member)
    have range := (conformant_rounds conformant round).mp whole
    refine ⟨range.1, fun earlier low below => listed _ ?_⟩
    have inStream := (conformant_rounds conformant earlier).mpr ⟨low, by omega⟩
    rcases List.mem_append.mp inStream with early | late
    · exact early
    · have after := (ordered.2.2 _ (known _ member) _ late).completed round earlier rfl rfl
      omega

end Streams

section Cuts
variable {final : Nat} {whole arrived : List Arrival}

theorem orderly_precedes (orderly : Orderly final whole) {rest : List Arrival}
    (split : arrived ++ rest = whole) (earlier later : Arrival)
    (old : earlier ∈ arrived) (new : later ∈ rest) : Precedes earlier later := by
  subst split
  exact (List.pairwise_append.mp orderly.ordered).2.2 earlier old later new

theorem orderly_ended (orderly : Orderly final whole) (begun : arrived <+: whole)
    (ending : Arrival) (member : ending ∈ arrived) (last : IsLast ending = true)
    (event : DebateEvent) (inWhole : .event event ∈ whole) : .event event ∈ arrived := by
  obtain ⟨rest, split⟩ := begun
  rw [← split] at inWhole
  rcases List.mem_append.mp inWhole with early | late
  · exact early
  · cases (orderly_precedes orderly split ending _ member late).ended last

/-- Once a round is complete, or the debate has ended, nothing is added to
what was said in it. -/
theorem spoken_cut (begun : arrived <+: whole) (persona : PersonaId) (round : Nat)
    (finished : ∀ rest delta, arrived ++ rest = whole →
      .event (.token persona round delta) ∉ rest) :
    spoken persona round (arrived.map asInput) = spoken persona round (whole.map asInput) := by
  obtain ⟨rest, split⟩ := begun
  have silent : deltas persona round (rest.map asInput) = [] := by
    rw [deltas, List.filterMap_map, List.filterMap_eq_nil_iff]
    intro arrival member
    cases said : (deltaOf persona round ∘ asInput) arrival with
    | none => rfl
    | some delta =>
        cases arrival with
        | close => cases said
        | event event =>
            cases event with
            | token speaker spokenIn text =>
                by_cases here : speaker = persona ∧ spokenIn = round
                · obtain ⟨rfl, rfl⟩ := here
                  exact absurd member (finished rest text split)
                · simp [asInput, deltaOf, here] at said
            | _ => cases said
  rw [← split, List.map_append, spoken_append, spoken.eq_def persona round (rest.map asInput),
    silent, List.flatten_nil, List.append_nil]

theorem spoken_of_round (orderly : Orderly final whole) (begun : arrived <+: whole)
    (persona : PersonaId) (round : Nat)
    (complete : .event (.roundComplete round) ∈ arrived) :
    spoken persona round (arrived.map asInput) = spoken persona round (whole.map asInput) := by
  refine spoken_cut begun persona round fun rest delta split late => ?_
  have after := (orderly_precedes orderly split _ _ complete late).completed round round rfl rfl
  omega

theorem spoken_of_ending (orderly : Orderly final whole) (begun : arrived <+: whole)
    (persona : PersonaId) (round : Nat) (ending : Arrival) (member : ending ∈ arrived)
    (last : IsLast ending = true) :
    spoken persona round (arrived.map asInput) = spoken persona round (whole.map asInput) := by
  refine spoken_cut begun persona round fun rest delta split late => ?_
  cases (orderly_precedes orderly split _ _ member late).ended last

end Cuts

end Council.WireStream
