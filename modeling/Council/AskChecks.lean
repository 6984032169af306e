import Council.AskWire
import Mathlib.Data.Rat.Cast.Order

/-!
`buildAsk` against `ClientMessage.Validate`. Both come down to the runes their
own trimming leaves; the two white space sets differ in U+0085 and U+FEFF, and
exactly the questions on which that difference shows are told apart here.
-/

namespace Council.AskChecks

open Council.Protocol Council.ServerProtocol Council.AskWire

/-- The question as `buildAsk` counts it. -/
def clientRunes (question : Text) : List Char :=
  strip jsSpace (decode question)

/-- The question as `Validate` counts it. -/
def serverRunes (question : Text) : List Char :=
  strip isSpace (decode question)

/-- Rounds that are left out, or even and within the limits. -/
def RoundsFit : Option Int → Prop
  | none => True
  | some rounds => 2 ≤ rounds ∧ rounds ≤ 8 ∧ rounds.tmod 2 = 0

/-- From one rune to the limit. -/
def Fits (runes : List Char) : Prop :=
  runes ≠ [] ∧ runes.length ≤ maxQuestionLen

/-- Client and server agree on the question, and the server accepts what the
client sends. -/
def Mirrors (question : Text) (rounds : Option Int) : Prop :=
  ((buildAsk question (rounds.map number)).isOk = true ↔
      (clientMessage question rounds).validate = none) ∧
    ∀ message, buildAsk question (rounds.map number) = .ok message →
      ∃ arrived, received message = some arrived ∧ arrived.validate = none

/-- The question has a rune that neither side strips. -/
def Worded (question : Text) : Prop :=
  ∃ rune ∈ decode question, jsSpace rune = false ∧ isSpace rune = false

/-- U+FEFF, white space in JavaScript only. -/
def byteOrderMark : Char := Char.ofNat 0xFEFF

/-- U+0085, white space in Go only. -/
def nextLine : Char := Char.ofNat 0x85

/-- A client that keeps any rune of a blank question keeps a U+0085. -/
def BlankSent (question : Text) : Prop :=
  nextLine ∈ decode question ∧ (clientRunes question).length ≤ maxQuestionLen

/-- A server that keeps any rune of a blank question keeps a U+FEFF. -/
def BlankTaken (question : Text) : Prop :=
  byteOrderMark ∈ decode question ∧ (serverRunes question).length ≤ maxQuestionLen

/-- Where the difference of the two white space sets does not show: the rounds
are refused anyway; or the question is worded and its two trimmed forms are on
the same side of the limit; or it is blank, and both forms are refused or the
client's keeps a U+FEFF that the server takes for a word. -/
def Undisputed (question : Text) (rounds : Option Int) : Prop :=
  RoundsFit rounds →
    (Worded question →
        ((clientRunes question).length ≤ maxQuestionLen ↔
          (serverRunes question).length ≤ maxQuestionLen)) ∧
      (¬ Worded question →
        (BlankSent question ↔ BlankTaken question) ∧
          (BlankSent question → byteOrderMark ∈ clientRunes question))

instance (rounds : Option Int) : Decidable (RoundsFit rounds) :=
  match rounds with
  | none => inferInstanceAs (Decidable True)
  | some rounds => inferInstanceAs (Decidable (2 ≤ rounds ∧ rounds ≤ 8 ∧ rounds.tmod 2 = 0))

instance (question : Text) : Decidable (Worded question) :=
  List.decidableBEx (fun rune => jsSpace rune = false ∧ isSpace rune = false) (decode question)

instance (question : Text) : Decidable (BlankSent question) :=
  inferInstanceAs (Decidable (_ ∧ _))

instance (question : Text) : Decidable (BlankTaken question) :=
  inferInstanceAs (Decidable (_ ∧ _))

instance (question : Text) (rounds : Option Int) : Decidable (Undisputed question rounds) :=
  inferInstanceAs (Decidable (_ → _ ∧ _))

theorem spaces_differ (rune : Char) :
    isSpace rune = jsSpace rune ∨ rune = nextLine ∨ rune = byteOrderMark := by
  by_cases next : rune.toNat = 0x85
  · right
    left
    rw [nextLine, ← next, Char.ofNat_toNat]
  · by_cases mark : rune.toNat = 0xFEFF
    · right
      right
      rw [byteOrderMark, ← mark, Char.ofNat_toNat]
    · left
      rw [Bool.eq_iff_iff]
      simp only [isSpace, jsSpace, trimmable, Bool.or_eq_true, Bool.and_eq_true,
        decide_eq_true_eq, beq_iff_eq, UInt16.le_iff_toNat_le, ← UInt16.toNat_inj,
        UInt16.toNat_ofNat']
      simp
      omega

theorem decode_eq_nil_iff (text : Text) : decode text = [] ↔ text = [] := by
  cases text with
  | nil => exact ⟨fun _ => rfl, fun _ => rfl⟩
  | cons unit rest =>
      obtain ⟨rune, runes, begins, _⟩ := decode_first unit rest
      simp [begins]

theorem roundsAccepted_iff (rounds : Int) :
    roundsAccepted (number rounds) = true ↔ RoundsFit (some rounds) := by
  simp only [roundsAccepted, number, Rat.den_intCast, Rat.num_intCast, MIN_ROUNDS, MAX_ROUNDS,
    RoundsFit, Bool.and_eq_true, Bool.not_eq_true', decide_eq_false_iff_not, beq_iff_eq,
    gt_iff_lt, not_lt]
  norm_cast
  simp only [true_and, decide_eq_false_iff_not, not_lt, and_assoc]

theorem rounds_refused_iff (rounds : Option Int) :
    ((rounds.map number).any fun given => !roundsAccepted given) = true ↔
      ¬ RoundsFit rounds := by
  cases rounds with
  | none => simp [RoundsFit]
  | some rounds =>
      rw [← roundsAccepted_iff]
      simp

theorem buildAsk_ok_iff (question : Text) (rounds : Option Int) (message : AskMessage) :
    buildAsk question (rounds.map number) = .ok message ↔
      (Fits (clientRunes question) ∧ RoundsFit rounds) ∧
        message = ⟨trim question, rounds.map number⟩ := by
  have length := runeCount_eq (trim question)
  have empty := decode_eq_nil_iff (trim question)
  rw [decode_trim] at length empty
  rw [buildAsk]
  split
  · rename_i blank
    simp [Fits, clientRunes, empty.mpr blank]
  · rename_i worded
    split
    · rename_i long
      have over_ : ¬ Fits (clientRunes question) := fun fits => by
        have short := fits.2
        simp only [clientRunes, maxQuestionLen, MAX_QUESTION_RUNES] at short long
        omega
      simp [over_]
    · rename_i short
      have fits : Fits (clientRunes question) := by
        refine ⟨fun blank => worded (empty.mp blank), ?_⟩
        simp only [clientRunes, maxQuestionLen, MAX_QUESTION_RUNES] at short ⊢
        omega
      by_cases accepted : RoundsFit rounds
      · rw [if_neg (mt (rounds_refused_iff rounds).mp (not_not.mpr accepted))]
        simp [fits, accepted, eq_comm]
      · rw [if_pos ((rounds_refused_iff rounds).mpr accepted)]
        simp [accepted]

theorem isOk_iff (question : Text) (rounds : Option Int) :
    (buildAsk question (rounds.map number)).isOk = true ↔
      Fits (clientRunes question) ∧ RoundsFit rounds := by
  have built := buildAsk_ok_iff question rounds
  cases answer : buildAsk question (rounds.map number) with
  | error text =>
      have refused := mt (fun fits => (built ⟨trim question, rounds.map number⟩).mpr ⟨fits, rfl⟩)
      rw [answer] at refused
      simp [Except.isOk, Except.toBool, refused nofun]
  | ok message =>
      have fits := ((built message).mp answer).1
      simp [Except.isOk, Except.toBool, fits]

theorem validate_iff (runes : List Char) (rounds : Int) :
    ClientMessage.validate ⟨"ask", String.ofList runes, rounds⟩ = none ↔
      Fits (strip isSpace runes) ∧ (rounds = 0 ∨ RoundsFit (some rounds)) := by
  have encoded : (String.ofList runes).toByteArray.validateUTF8 = true :=
    ByteArray.validateUTF8_eq_true_iff.mpr (String.ofList runes).isValidUTF8
  have refused : (rounds ≠ 0 ∧ (rounds < MinRounds ∨ rounds > MaxRounds ∨
      rounds.tmod 2 ≠ 0)) ↔ ¬ (rounds = 0 ∨ RoundsFit (some rounds)) := by
    simp only [MinRounds, MaxRounds, RoundsFit]
    omega
  rw [ClientMessage.validate, trimSpace_eq, String.toList_ofList, Fits]
  rw [if_neg (not_not.mpr rfl)]
  by_cases blank : strip isSpace runes = []
  · rw [if_pos blank]
    exact iff_of_false (by simp) fun fits => fits.1.1 blank
  · rw [if_neg blank, if_neg (not_not.mpr encoded)]
    by_cases long : (strip isSpace runes).length > maxQuestionLen
    · rw [if_pos long]
      exact iff_of_false (by simp) fun fits => absurd long (not_lt.mpr fits.1.2)
    · rw [if_neg long]
      by_cases taken : rounds = 0 ∨ RoundsFit (some rounds)
      · rw [if_neg fun out => refused.mp out taken]
        exact iff_of_true rfl ⟨⟨blank, not_lt.mp long⟩, taken⟩
      · rw [if_pos (refused.mpr taken)]
        exact iff_of_false (by simp) fun fits => taken fits.2

theorem clientMessage_valid_iff (question : Text) (rounds : Option Int)
    (nonzero : rounds ≠ some 0) :
    (clientMessage question rounds).validate = none ↔
      Fits (serverRunes question) ∧ RoundsFit rounds := by
  rw [clientMessage, validate_iff, serverRunes]
  cases rounds with
  | none => simp [RoundsFit]
  | some rounds =>
      have given : rounds ≠ 0 := fun zero => nonzero (congrArg some zero)
      simp [given]

theorem received_eq (question : Text) (rounds : Option Int) :
    received ⟨trim question, rounds.map number⟩ =
      some ⟨"ask", String.ofList (clientRunes question), rounds.getD 0⟩ := by
  rw [received, decode_trim, clientRunes]
  cases rounds with
  | none => rfl
  | some rounds => simp [receivedRounds, number]

theorem mirrors_iff (question : Text) (rounds : Option Int) (nonzero : rounds ≠ some 0) :
    Mirrors question rounds ↔
      (RoundsFit rounds → (Fits (clientRunes question) ↔ Fits (serverRunes question)) ∧
        (Fits (clientRunes question) → strip isSpace (clientRunes question) ≠ [])) := by
  have shorter := (strip_sublist isSpace (clientRunes question)).length_le
  have accepted : ∀ message, message = ⟨trim question, rounds.map number⟩ →
      ((∃ arrived, received message = some arrived ∧ arrived.validate = none) ↔
        Fits (strip isSpace (clientRunes question)) ∧ (rounds = none ∨ RoundsFit rounds)) := by
    intro message same
    rw [same, received_eq]
    simp only [Option.some.injEq, exists_eq_left', validate_iff]
    cases rounds with
    | none => simp
    | some rounds =>
        have given : rounds ≠ 0 := fun zero => nonzero (congrArg some zero)
        simp [given]
  rw [Mirrors, isOk_iff, clientMessage_valid_iff question rounds nonzero]
  simp only [buildAsk_ok_iff]
  by_cases fit : RoundsFit rounds
  · simp only [fit, and_true, true_imp_iff]
    refine and_congr_right fun _ => ?_
    constructor
    · intro arrives fits
      exact ((accepted _ rfl).mp (arrives _ ⟨fits, rfl⟩)).1.1
    · rintro kept message ⟨fits, same⟩
      exact (accepted message same).mpr ⟨⟨kept fits, shorter.trans fits.2⟩, .inr fit⟩
  · simp [fit]

theorem blank_iff (question : Text) :
    ¬ Worded question ↔
      ∀ rune ∈ decode question, jsSpace rune = true ∨ isSpace rune = true := by
  simp only [Worded, not_exists, not_and, Bool.not_eq_false]
  refine forall₂_congr fun rune _ => ?_
  cases jsSpace rune with
  | true => simp
  | false => simp

theorem worded_kept {question : Text} (worded : Worded question) :
    clientRunes question ≠ [] ∧ serverRunes question ≠ [] ∧
      strip isSpace (clientRunes question) ≠ [] := by
  obtain ⟨rune, member, client, server⟩ := worded
  have kept := mem_strip jsSpace member client
  refine ⟨List.ne_nil_of_mem kept, ?_, ?_⟩
  · exact List.ne_nil_of_mem (mem_strip isSpace member server)
  · exact List.ne_nil_of_mem (mem_strip isSpace kept server)

theorem nextLine_spaces : jsSpace nextLine = false ∧ isSpace nextLine = true := by decide

theorem byteOrderMark_spaces :
    jsSpace byteOrderMark = true ∧ isSpace byteOrderMark = false := by decide

/-- A rune of a blank question that JavaScript keeps is U+0085. -/
theorem blank_client {question : Text} (blank : ¬ Worded question) :
    Fits (clientRunes question) ↔ BlankSent question := by
  have spaces := (blank_iff question).mp blank
  refine and_congr_left fun _ => ?_
  rw [clientRunes, Ne, strip_eq_nil_iff, not_forall]
  constructor
  · rintro ⟨rune, dark⟩
    obtain ⟨member, dark⟩ := Classical.not_imp.mp dark
    have white := (spaces rune member).resolve_left dark
    rcases spaces_differ rune with same | next | mark
    · rw [← same] at dark
      exact absurd white dark
    · exact next ▸ member
    · rw [mark, byteOrderMark_spaces.1] at dark
      exact absurd rfl dark
  · intro member
    refine ⟨nextLine, fun white => ?_⟩
    have dark := white member
    rw [nextLine_spaces.1] at dark
    cases dark

/-- A rune of a blank question that Go keeps is U+FEFF. -/
theorem dark_server {runes : List Char}
    (spaces : ∀ rune ∈ runes, jsSpace rune = true ∨ isSpace rune = true) :
    strip isSpace runes ≠ [] ↔ byteOrderMark ∈ runes := by
  rw [Ne, strip_eq_nil_iff, not_forall]
  constructor
  · rintro ⟨rune, dark⟩
    obtain ⟨member, dark⟩ := Classical.not_imp.mp dark
    have white := (spaces rune member).resolve_right dark
    rcases spaces_differ rune with same | next | mark
    · rw [same] at dark
      exact absurd white dark
    · rw [next, nextLine_spaces.2] at dark
      exact absurd rfl dark
    · exact mark ▸ member
  · intro member
    refine ⟨byteOrderMark, fun white => ?_⟩
    have dark := white member
    rw [byteOrderMark_spaces.2] at dark
    cases dark

/-- Without U+0085 and U+FEFF there is no difference to show. -/
theorem undisputed_of_common {question : Text} (rounds : Option Int)
    (noNext : nextLine ∉ decode question) (noMark : byteOrderMark ∉ decode question) :
    Undisputed question rounds := by
  have same : clientRunes question = serverRunes question := by
    refine strip_congr jsSpace fun rune member => ?_
    rcases spaces_differ rune with agree | next | mark
    · exact agree.symm
    · exact absurd (next ▸ member) noNext
    · exact absurd (mark ▸ member) noMark
  have unsent : ¬ BlankSent question := fun sent => noNext sent.1
  have untaken : ¬ BlankTaken question := fun taken => noMark taken.1
  intro _
  refine ⟨fun _ => by rw [same], fun _ => ⟨iff_of_false unsent untaken, fun sent => ?_⟩⟩
  exact absurd sent unsent

/-- The two checks of an ask agree exactly on the undisputed questions. -/
theorem ask_checks_agree_exactly (question : Text) (rounds : Option Int)
    (nonzero : rounds ≠ some 0) :
    Mirrors question rounds ↔ Undisputed question rounds := by
  rw [mirrors_iff question rounds nonzero, Undisputed]
  refine imp_congr_right fun _ => ?_
  by_cases worded : Worded question
  · obtain ⟨client, server, sent⟩ := worded_kept worded
    simp [worded, Fits, client, server, sent]
  · have spaces := (blank_iff question).mp worded
    have kept : ∀ rune ∈ clientRunes question, jsSpace rune = true ∨ isSpace rune = true :=
      fun rune member => spaces rune ((strip_sublist jsSpace _).subset member)
    have server : Fits (serverRunes question) ↔ BlankTaken question :=
      and_congr_left fun _ => dark_server spaces
    rw [blank_client worded, server, dark_server kept]
    simp [worded]

theorem ask_checks_agree_plain :
    Mirrors (units " why? ") (some 4) :=
  (ask_checks_agree_exactly (units " why? ") (some 4) (by decide)).mpr
    (undisputed_of_common (some 4) (by decide) (by decide))

/-- U+0085 alone: the client sends it, the server finds no question. -/
theorem next_line_disputed : ¬ Mirrors [0x85] none := by
  intro mirrors
  have refused : (clientMessage [0x85] none).validate = none :=
    mirrors.1.mp (by decide +kernel)
  revert refused
  decide +kernel

end Council.AskChecks
