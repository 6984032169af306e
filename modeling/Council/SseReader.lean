import Council.ZaiProvider
import Council.StreamWords
import Council.Unwinding

/-!
What `streamResponse` makes of a response body. The scan loop keeps nothing
from one line to the next, so its deltas are those of the lines before the
first terminator, each line by itself; a body is followed by at most one error,
and the goroutine behind the stream delivers just that to a consumer that keeps
receiving.
-/

namespace Council.SseReader

open Council.Machines
open Council.Provider
open Council.ZaiProvider

/-- The line is data that decodes to a chunk whose first choice says `content`. -/
def Speaks (decode : Decoder) (text : Line) (content : String) : Prop :=
  ∃ data choices, text = dataPrefix ++ data ∧ decode data = some (content :: choices) ∧
    content ≠ ""

/-- The ways a line says nothing: it is blank, a comment or anything else that
is not data, or its data is malformed, has no choices or no content. -/
def Silent (decode : Decoder) (text : Line) : Prop :=
  text = [] ∨ ¬ dataPrefix.isPrefixOf text ∨
    ∃ data, text = dataPrefix ++ data ∧ text ≠ doneLine ∧
      (decode data = none ∨ decode data = some [] ∨
        ∃ choices, decode data = some ("" :: choices))

/-- The lines the loop goes through: those before the first terminator and
before the first line that is too long. -/
def heard (pieces : List Piece) : List Piece :=
  pieces.takeWhile fun piece => decide (Fits piece) && decide (dropCR piece.raw ≠ doneLine)

/-- How the stream ends after the lines heard: at a terminator, at a line that
is too long, or where the body does. -/
def ending (broken : Option String) : List Piece → Option String
  | [] => broken
  | piece :: _ => if ¬ Fits piece then some "bufio.Scanner: token too long" else none

/-- Two bodies that differ by silent lines put in or left out before the
terminator, and by anything after it. The last line of one may be followed by
another in the other, where the scanner can hold it in both or in neither. -/
inductive SameSpeech (decode : Decoder) :
    List Piece → Option String → List Piece → Option String → Prop where
  | ended (broken : Option String) : SameSpeech decode [] broken [] broken
  | kept {piece same : Piece} (raw : piece.raw = same.raw) (room : Fits piece ↔ Fits same)
      {pieces others : List Piece} {broken other : Option String}
      (rest : SameSpeech decode pieces broken others other) :
      SameSpeech decode (piece :: pieces) broken (same :: others) other
  | inserted {piece : Piece} (fits : Fits piece) (silent : Silent decode (dropCR piece.raw))
      {pieces others : List Piece} {broken other : Option String}
      (rest : SameSpeech decode pieces broken others other) :
      SameSpeech decode (piece :: pieces) broken others other
  | deleted {piece : Piece} (fits : Fits piece) (silent : Silent decode (dropCR piece.raw))
      {pieces others : List Piece} {broken other : Option String}
      (rest : SameSpeech decode pieces broken others other) :
      SameSpeech decode pieces broken (piece :: others) other
  | finished {piece same : Piece} (done : dropCR piece.raw = doneLine)
      (also : dropCR same.raw = doneLine) (pieces others : List Piece)
      (broken other : Option String) :
      SameSpeech decode (piece :: pieces) broken (same :: others) other

section Lines

variable {decode : Decoder}

theorem line_content_iff (text : Line) (content : String) :
    lineContent decode text = some content ↔ Speaks decode text content := by
  constructor
  · intro found
    unfold lineContent at found
    split at found
    · cases found
    next isData =>
      have starts : dataPrefix <+: text := by
        simpa using (not_or.mp isData).2
      rcases starts with ⟨data, rfl⟩
      rw [List.drop_left] at found
      split at found
      next first choices decoded =>
        split at found
        · cases found
        next said =>
          cases found
          exact ⟨data, choices, rfl, decoded, said⟩
      · cases found
  · rintro ⟨data, choices, rfl, decoded, said⟩
    have isData : ¬ (dataPrefix ++ data = [] ∨ ¬ dataPrefix.isPrefixOf (dataPrefix ++ data)) := by
      rintro (empty | foreign)
      · exact absurd (List.append_eq_nil_iff.mp empty).1 (by decide +kernel)
      · exact foreign (by simp)
    unfold lineContent
    rw [if_neg isData, List.drop_left, decoded]
    exact if_neg said

theorem silent_says_nothing {text : Line} (silent : Silent decode text) :
    lineContent decode text = none ∧ text ≠ doneLine := by
  rcases silent with rfl | foreign | ⟨data, rfl, more, nothing⟩
  · exact ⟨rfl, by decide +kernel⟩
  · constructor
    · exact if_pos (.inr foreign)
    · rintro rfl
      exact foreign (by decide +kernel)
  · refine ⟨?_, more⟩
    cases said : lineContent decode (dataPrefix ++ data) with
    | none => rfl
    | some content =>
        rcases (line_content_iff _ _).mp said with ⟨same, choices, split_, decoded, full⟩
        cases List.append_cancel_left split_
        rcases nothing with bad | empty | ⟨others, blank⟩
        · rw [bad] at decoded
          cases decoded
        · rw [empty] at decoded
          cases decoded
        · rw [blank] at decoded
          cases decoded
          exact absurd rfl full

/-- A terminator fits the scanner, so no terminator is too long. -/
theorem done_fits {piece : Piece} (done : dropCR piece.raw = doneLine) : Fits piece := by
  have short : doneLine.length = 12 := by decide +kernel
  have near : piece.raw.length ≤ (dropCR piece.raw).length + 1 := by
    unfold dropCR
    split
    · rw [List.length_dropLast]
      omega
    · exact Nat.le_succ _
  rw [done, short] at near
  unfold Fits maxTokenSize
  split <;> omega

theorem scan_long {piece : Piece} (long : ¬ Fits piece) (rest : List Piece)
    (broken : Option String) :
    scan decode (piece :: rest) broken = ⟨[], some "bufio.Scanner: token too long"⟩ :=
  if_pos long

theorem scan_done {piece : Piece} (done : dropCR piece.raw = doneLine) (rest : List Piece)
    (broken : Option String) : scan decode (piece :: rest) broken = ⟨[], none⟩ := by
  unfold scan
  rw [if_neg (not_not.mpr (done_fits done)), if_pos done]

/-- One turn of the loop: what the line says, and then what the rest does. -/
theorem scan_heard {piece : Piece} (fits : Fits piece) (more : dropCR piece.raw ≠ doneLine)
    (rest : List Piece) (broken : Option String) :
    scan decode (piece :: rest) broken =
      ⟨(lineContent decode (dropCR piece.raw)).toList ++ (scan decode rest broken).deltas,
        (scan decode rest broken).failure⟩ := by
  rw [scan, if_neg (not_not.mpr fits), if_neg more]
  split
  next silent => rw [silent]; rfl
  next content said => rw [said]; rfl

theorem scan_silent {piece : Piece} (fits : Fits piece)
    (silent : Silent decode (dropCR piece.raw)) (rest : List Piece) (broken : Option String) :
    scan decode (piece :: rest) broken = scan decode rest broken := by
  rcases silent_says_nothing silent with ⟨nothing, more⟩
  rw [scan_heard fits more, nothing]
  rfl

theorem heard_cons {piece : Piece} (fits : Fits piece) (more : dropCR piece.raw ≠ doneLine)
    (rest : List Piece) : heard (piece :: rest) = piece :: heard rest := by
  unfold heard
  exact List.takeWhile_cons_of_pos (by simpa using ⟨fits, more⟩)

theorem heard_stops {piece : Piece} (stops : ¬ Fits piece ∨ dropCR piece.raw = doneLine)
    (rest : List Piece) : heard (piece :: rest) = [] := by
  unfold heard
  apply List.takeWhile_cons_of_neg
  rcases stops with long | done
  · simp [long]
  · simp [done]

theorem scan_eq (pieces : List Piece) (broken : Option String) :
    scan decode pieces broken =
      ⟨(heard pieces).filterMap fun piece => lineContent decode (dropCR piece.raw),
        ending broken (pieces.drop (heard pieces).length)⟩ := by
  induction pieces with
  | nil => rfl
  | cons piece rest ih =>
      by_cases fits : Fits piece
      · by_cases done : dropCR piece.raw = doneLine
        · rw [scan_done done, heard_stops (.inr done)]
          simp [ending, fits]
        · rw [scan_heard fits done, heard_cons fits done, ih]
          simp only [List.filterMap_cons, List.length_cons, List.drop_succ_cons]
          cases lineContent decode (dropCR piece.raw) <;> rfl
      · rw [scan_long fits, heard_stops (.inl fits)]
        simp [ending, fits]

theorem scan_same_speech {pieces others : List Piece} {broken other : Option String}
    (same : SameSpeech decode pieces broken others other) :
    scan decode pieces broken = scan decode others other := by
  induction same with
  | ended broken => rfl
  | @kept piece same raw room pieces others broken other rest ih =>
      by_cases fits : Fits piece
      · by_cases done : dropCR piece.raw = doneLine
        · rw [scan_done done, scan_done (raw ▸ done)]
        · rw [scan_heard fits done, scan_heard (room.mp fits) (raw ▸ done), raw, ih]
      · rw [scan_long fits, scan_long fun held => fits (room.mpr held)]
  | inserted fits silent rest ih => rw [scan_silent fits silent, ih]
  | deleted fits silent rest ih => rw [scan_silent fits silent, ih]
  | finished done also => rw [scan_done done, scan_done also]

theorem heard_append (before rest : List Piece)
    (open_ : ∀ piece ∈ before, Fits piece ∧ dropCR piece.raw ≠ doneLine) :
    heard (before ++ rest) = before ++ heard rest := by
  induction before with
  | nil => rfl
  | cons piece before ih =>
      have first := open_ piece List.mem_cons_self
      have later := ih fun other member => open_ other (List.mem_cons_of_mem piece member)
      rw [List.cons_append, heard_cons first.1 first.2, later, List.cons_append]

/-- A body that is cut off before a terminator: the deltas read so far, and then
what the rest of it ends with. -/
theorem scan_open (before rest : List Piece) (broken : Option String)
    (open_ : ∀ piece ∈ before, Fits piece ∧ dropCR piece.raw ≠ doneLine)
    (stops : heard rest = []) :
    scan decode (before ++ rest) broken =
      ⟨before.filterMap fun piece => lineContent decode (dropCR piece.raw),
        ending broken rest⟩ := by
  rw [scan_eq, heard_append before rest open_, stops, List.append_nil, List.drop_left]

end Lines

theorem error_is_last (script : Script) (before after : List StreamEvent) (event : StreamEvent)
    (split_ : script.events = before ++ event :: after) (isError : event.err.isSome = true) :
    after = [] := by
  rcases List.eq_nil_or_concat after with empty | ⟨between, last, rfl⟩
  · exact empty
  -- Otherwise the error stands before the last event, among the deltas.
  have early : event ∈ script.deltas.map fun delta => ({ delta := delta } : StreamEvent) := by
    unfold Script.events at split_
    rw [List.concat_eq_append, ← List.cons_append, ← List.append_assoc] at split_
    cases failure : script.failure with
    | none =>
        rw [failure] at split_
        simp only [Option.toList_none, List.map_nil, List.append_nil] at split_
        rw [split_]
        simp
    | some reason =>
        rw [failure] at split_
        have same := List.append_inj_left' split_ (by simp)
        rw [same]
        simp
  rcases List.mem_map.mp early with ⟨delta, -, rfl⟩
  cases isError

/-! A consumer that keeps receiving from the goroutine of a stream that nothing
cancels. -/

structure Delivery where
  source : Producer
  received : List StreamEvent

inductive DeliveryAction where
  | produce
  | receive
  deriving DecidableEq, Repr

def deliver (delivery : Delivery) : DeliveryAction → Option Delivery
  | .produce => delivery.source.produce.map fun source => { delivery with source := source }
  | .receive =>
      match delivery.source with
      | .sending event pending => some ⟨.sent event pending, delivery.received ++ [event]⟩
      | _ => none

def opened (script : Script) : Delivery := ⟨.reading script.events, []⟩

/-- What was received and what is still to come make up the script. -/
def Delivers (script : Script) (delivery : Delivery) : Prop :=
  delivery.source ≠ .absent ∧ delivery.received ++ delivery.source.left = script.events

section Deliveries

variable {script : Script}

theorem delivers_opened : Delivers script (opened script) :=
  ⟨by simp [opened], rfl⟩

theorem delivers_step {before after : Delivery} {action : DeliveryAction}
    (delivers : Delivers script before) (taken : deliver before action = some after) :
    Delivers script after := by
  cases action with
  | produce =>
      rcases Option.map_eq_some_iff.mp taken with ⟨source, produced, rfl⟩
      constructor
      · rintro rfl
        revert produced
        cases before.source with
        | reading pending => cases pending <;> simp [Producer.produce]
        | _ => simp [Producer.produce]
      · exact (congrArg _ (StreamWords.produce_left produced)).trans delivers.2
  | receive =>
      unfold deliver at taken
      simp only at taken
      split at taken
      next event pending source =>
        cases taken
        have whole := delivers.2
        rw [source] at whole
        have rest : (Producer.sent event pending).left = pending := by
          unfold Producer.sent
          split
          · next isError => exact (error_is_last script _ pending event whole.symm isError).symm
          · rfl
        constructor
        · unfold Producer.sent
          split <;> simp
        · rw [rest, List.append_assoc]
          exact whole
      · cases taken

theorem weight_step {before after : Delivery} {action : DeliveryAction}
    (taken : deliver before action = some after) :
    Unwinding.sourceWeight after.source < Unwinding.sourceWeight before.source := by
  cases action with
  | produce =>
      rcases Option.map_eq_some_iff.mp taken with ⟨source, produced, rfl⟩
      exact Unwinding.weight_produce produced
  | receive =>
      unfold deliver at taken
      simp only at taken
      split at taken
      next event pending source =>
        cases taken
        rw [source]
        by_cases isError : event.err.isSome = true
        · simp [Producer.sent, isError, Unwinding.sourceWeight]
        · simp only [Producer.sent, isError, Unwinding.sourceWeight]
          simp
      · cases taken

theorem deliver_progress {delivery : Delivery} (delivers : Delivers script delivery)
    (more : delivery.source ≠ .closed) :
    ∃ action after, deliver delivery action = some after := by
  cases source : delivery.source with
  | absent => exact absurd source delivers.1
  | reading pending =>
      cases pending with
      | nil =>
          exact ⟨.produce, { delivery with source := .closed },
            by simp [deliver, source, Producer.produce]⟩
      | cons event pending =>
          exact ⟨.produce, { delivery with source := .sending event pending },
            by simp [deliver, source, Producer.produce]⟩
  | sending event pending =>
      exact ⟨.receive, ⟨.sent event pending, delivery.received ++ [event]⟩,
        by simp [deliver, source]⟩
  | closing =>
      exact ⟨.produce, { delivery with source := .closed },
        by simp [deliver, source, Producer.produce]⟩
  | closed => exact absurd source more

/-- Every run of the goroutine against its consumer delivers the script and
nothing else, and it comes to an end. -/
theorem delivery_exact (script : Script) :
    (∀ delivery, Reaches deliver always (opened script) delivery →
      delivery.received <+: script.events ∧
      (delivery.source = .closed → delivery.received = script.events) ∧
      (delivery.source ≠ .closed → ∃ action after, deliver delivery action = some after)) ∧
    Acc (Follows deliver) (opened script) := by
  constructor
  · intro delivery reached
    have delivers : Delivers script delivery :=
      reached.invariant (Delivers script) delivers_opened
        fun _ _ _ _ _ taken holds => delivers_step holds taken
    refine ⟨⟨delivery.source.left, delivers.2⟩, ?_, deliver_progress delivers⟩
    intro closed
    have whole := delivers.2
    rw [closed] at whole
    simpa [Producer.left] using whole
  · have falls : ∀ before action after, Delivers script before →
        deliver before action = some after →
        Unwinding.sourceWeight after.source < Unwinding.sourceWeight before.source :=
      fun _ _ _ _ taken => weight_step taken
    exact acc_of_rank (fun delivery => Unwinding.sourceWeight delivery.source)
      (fun _ _ _ holds taken => delivers_step holds taken) falls _ delivers_opened

end Deliveries

def saying (contents : List String) : List StreamEvent :=
  contents.map fun content => { delta := content }

/-- The contents of the lines before a point that no terminator and no long
line precedes. -/
def contents (decode : Decoder) (pieces : List Piece) : List String :=
  pieces.filterMap fun piece => lineContent decode (dropCR piece.raw)

/-- The reader extracts exactly the content deltas. An answered body makes the
contents of the lines heard, each line speaking for itself; silent lines and
whatever follows a terminator make no difference; a body cut off by an error
or a long line yields what precedes it and one error; a refusal yields one
error; nothing follows an error; and a consumer that keeps receiving gets just
these events. -/
theorem sse_reader_exact (decode : Decoder) :
    (∀ response : Response, response.status = 200 →
      streamResponse decode (.ok response) =
        ⟨contents decode (heard response.pieces),
          ending response.broken (response.pieces.drop (heard response.pieces).length)⟩) ∧
    (∀ text content, lineContent decode text = some content ↔ Speaks decode text content) ∧
    (∀ response other : Response, response.status = 200 → other.status = 200 →
      SameSpeech decode response.pieces response.broken other.pieces other.broken →
      streamResponse decode (.ok response) = streamResponse decode (.ok other)) ∧
    (∀ (response : Response) (before : List Piece), response.status = 200 →
      (∀ piece ∈ before, Fits piece ∧ dropCR piece.raw ≠ doneLine) →
      (∀ err : String, response.pieces = before → response.broken = some err →
        (streamResponse decode (.ok response)).events =
          saying (contents decode before) ++ [{ err := some err }]) ∧
      (∀ (piece : Piece) (after : List Piece), response.pieces = before ++ piece :: after →
        ¬ Fits piece →
        (streamResponse decode (.ok response)).events =
          saying (contents decode before) ++
            [{ err := some "bufio.Scanner: token too long" }])) ∧
    (∀ response : Response, response.status ≠ 200 →
      ∃ err, (streamResponse decode (.ok response)).events = [{ err := some err }]) ∧
    (∀ answer before event after,
      (streamResponse decode answer).events = before ++ event :: after →
      event.err.isSome = true → after = []) ∧
    (∀ answer,
      (∀ delivery, Reaches deliver always (opened (streamResponse decode answer)) delivery →
        delivery.received <+: (streamResponse decode answer).events ∧
        (delivery.source = .closed →
          delivery.received = (streamResponse decode answer).events) ∧
        (delivery.source ≠ .closed → ∃ action after, deliver delivery action = some after)) ∧
      Acc (Follows deliver) (opened (streamResponse decode answer))) := by
  have answered : ∀ response : Response, response.status = 200 →
      streamResponse decode (.ok response) = scan decode response.pieces response.broken :=
    fun response accepted => if_neg (not_not_intro accepted)
  constructor
  · intro response accepted
    rw [answered response accepted]
    exact scan_eq response.pieces response.broken
  constructor
  · exact line_content_iff
  constructor
  · intro response other accepted also same
    rw [answered response accepted, answered other also]
    exact scan_same_speech same
  constructor
  · intro response before accepted open_
    rw [answered response accepted]
    constructor
    · intro err whole failed
      have cut : scan decode (before ++ []) (some err) = ⟨contents decode before, some err⟩ :=
        scan_open before [] (some err) open_ rfl
      rw [List.append_nil] at cut
      rw [whole, failed, cut]
      rfl
    · intro piece after whole long
      have cut : scan decode (before ++ piece :: after) response.broken =
          ⟨contents decode before, ending response.broken (piece :: after)⟩ :=
        scan_open before (piece :: after) response.broken open_ (heard_stops (.inl long) after)
      rw [whole, cut]
      simp [Script.events, ending, long, saying]
  constructor
  · intro response refused
    exact ⟨_, congrArg Script.events (if_pos refused)⟩
  constructor
  · intro answer before event after split_ isError
    exact error_is_last _ before after event split_ isError
  · intro answer
    exact delivery_exact (streamResponse decode answer)

end Council.SseReader
