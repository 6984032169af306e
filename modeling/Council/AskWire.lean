import Council.Protocol
import Council.ServerProtocol
import Mathlib.Data.List.DropRight
import Mathlib.Data.List.TakeWhile

/-!
The `ask` on its way from `buildAsk` to `ClientMessage.Validate`. The question
leaves as UTF-16 and arrives as runes; `JSON.stringify` escapes a lone
surrogate and `encoding/json` reads the escape as U+FFFD. Both sides strip
white space from the two ends, JavaScript's `trim` with U+FEFF and without
U+0085, Go's `TrimSpace` the other way round.
-/

namespace Council.AskWire

open Council.Protocol Council.ServerProtocol

/-- A code unit that is not half of a pair. -/
def single (unit : UInt16) : Char :=
  if highSurrogate unit || lowSurrogate unit then Char.ofNat 0xFFFD
  else Char.ofNat unit.toNat

def paired (high low : UInt16) : Char :=
  Char.ofNat (0x10000 + (high.toNat - 0xD800) * 0x400 + (low.toNat - 0xDC00))

/-- The runes Go reads from the JSON of a JavaScript string. -/
def decode : Text → List Char
  | [] => []
  | [unit] => [single unit]
  | high :: low :: rest =>
      if highSurrogate high && lowSurrogate low then paired high low :: decode rest
      else single high :: decode (low :: rest)

/-- `ClientMessage{ask, q, rounds}`, with rounds 0 when undefined. -/
def clientMessage (question : Text) (rounds : Option Int) : ClientMessage where
  type := "ask"
  question := String.ofList (decode question)
  rounds := rounds.getD 0

/-- An integer as a JavaScript number. -/
def number (value : Int) : JsNumber :=
  .finite value

/-- The `rounds` field of the JSON message read into an `int`: an absent key
and `null` leave 0, a fraction is a decoding error. -/
def receivedRounds : Option JsNumber → Option Int
  | none => some 0
  | some (.finite value) => if value.den = 1 then some value.num else none
  | some _ => some 0

def received (message : AskMessage) : Option ClientMessage :=
  (receivedRounds message.rounds).map fun rounds =>
    { type := "ask", question := String.ofList (decode message.question), rounds := rounds }

/-- JavaScript white space, as runes. -/
def jsSpace (rune : Char) : Bool :=
  rune.toNat < 0x10000 && trimmable (UInt16.ofNat rune.toNat)

section Strip
variable {Item : Type} (white : Item → Bool)

def strip (items : List Item) : List Item :=
  (items.dropWhile white).rdropWhile white

theorem strip_sublist (items : List Item) : (strip white items).Sublist items :=
  (List.rdropWhile_prefix white _).sublist.trans (List.dropWhile_sublist white)

theorem mem_strip {items : List Item} {item : Item} (member : item ∈ items)
    (dark : white item = false) : item ∈ strip white items := by
  have kept : item ∈ items.dropWhile white := by
    rw [← List.takeWhile_append_dropWhile (p := white) (l := items)] at member
    rcases List.mem_append.mp member with before | after
    · rw [List.mem_takeWhile_imp before] at dark
      cases dark
    · exact after
  rw [← List.rdropWhile_append_rtakeWhile (p := white) (l := items.dropWhile white)] at kept
  rcases List.mem_append.mp kept with before | after
  · exact before
  · rw [List.mem_rtakeWhile_imp after] at dark
    cases dark

theorem strip_eq_nil_iff (items : List Item) :
    strip white items = [] ↔ ∀ item ∈ items, white item = true := by
  constructor
  · intro empty item member
    by_contra dark
    have kept := mem_strip white member (by simpa using dark)
    rw [empty] at kept
    cases kept
  · intro blank
    rw [strip, List.dropWhile_eq_nil_iff.mpr blank, List.rdropWhile_nil]

theorem drop_while_congr {other : Item → Bool} {items : List Item}
    (same : ∀ item ∈ items, white item = other item) :
    items.dropWhile white = items.dropWhile other := by
  induction items with
  | nil => rfl
  | cons item rest ih =>
      have later := ih fun next member => same next (List.mem_cons_of_mem item member)
      rw [List.dropWhile_cons, List.dropWhile_cons, same item List.mem_cons_self, later]

theorem strip_congr {other : Item → Bool} {items : List Item}
    (same : ∀ item ∈ items, white item = other item) : strip white items = strip other items := by
  rw [strip, strip, drop_while_congr white same, List.rdropWhile, List.rdropWhile,
    drop_while_congr white]
  intro item member
  exact same item ((List.dropWhile_sublist other).subset (List.mem_reverse.mp member))

end Strip

theorem trimSpace_eq (text : String) : trimSpace text = strip isSpace text.toList := rfl

theorem trim_eq (text : Text) : trim text = strip trimmable text := rfl

theorem toNat_ofNat {code : Nat} (valid : code.isValidChar) :
    (Char.ofNat code).toNat = code := by
  rw [Char.ofNat, dif_pos valid]
  rfl

theorem highSurrogate_iff (unit : UInt16) :
    highSurrogate unit = true ↔ 0xD800 ≤ unit.toNat ∧ unit.toNat ≤ 0xDBFF := by
  simp [highSurrogate, UInt16.le_iff_toNat_le]

theorem lowSurrogate_iff (unit : UInt16) :
    lowSurrogate unit = true ↔ 0xDC00 ≤ unit.toNat ∧ unit.toNat ≤ 0xDFFF := by
  simp [lowSurrogate, UInt16.le_iff_toNat_le]

theorem plain_of_trimmable {unit : UInt16} (white : trimmable unit = true) :
    highSurrogate unit = false ∧ lowSurrogate unit = false := by
  simp only [trimmable, Bool.or_eq_true, Bool.and_eq_true, decide_eq_true_eq, beq_iff_eq,
    UInt16.le_iff_toNat_le, ← UInt16.toNat_inj] at white
  rw [← Bool.not_eq_true, ← Bool.not_eq_true, highSurrogate_iff, lowSurrogate_iff]
  simp at white
  omega

theorem dark_of_half {unit : UInt16}
    (half : highSurrogate unit = true ∨ lowSurrogate unit = true) :
    trimmable unit = false := by
  rw [← Bool.not_eq_true]
  intro white
  obtain ⟨high, low⟩ := plain_of_trimmable white
  rcases half with first | second
  · rw [first] at high
    cases high
  · rw [second] at low
    cases low

theorem single_of_plain {unit : UInt16} (high : highSurrogate unit = false)
    (low : lowSurrogate unit = false) : (single unit).toNat = unit.toNat := by
  have small := unit.toNat_lt
  rw [← Bool.not_eq_true, highSurrogate_iff] at high
  rw [← Bool.not_eq_true, lowSurrogate_iff] at low
  have valid : unit.toNat.isValidChar := by
    simp only [Nat.isValidChar]
    omega
  rw [single, if_neg, toNat_ofNat valid]
  rw [Bool.or_eq_true, highSurrogate_iff, lowSurrogate_iff]
  exact not_or.mpr ⟨high, low⟩

theorem jsSpace_single (unit : UInt16) : jsSpace (single unit) = trimmable unit := by
  cases plain : highSurrogate unit || lowSurrogate unit with
  | true =>
      rw [single, if_pos plain]
      rw [dark_of_half (Bool.or_eq_true_iff.mp plain)]
      decide
  | false =>
      obtain ⟨high, low⟩ := Bool.or_eq_false_iff.mp plain
      rw [jsSpace, single_of_plain high low, UInt16.ofNat_toNat]
      simp [unit.toNat_lt]

theorem toNat_paired {high low : UInt16} (first : highSurrogate high = true)
    (second : lowSurrogate low = true) : 0x10000 ≤ (paired high low).toNat := by
  rw [highSurrogate_iff] at first
  rw [lowSurrogate_iff] at second
  rw [paired, toNat_ofNat]
  · omega
  · simp only [Nat.isValidChar]
    omega

theorem jsSpace_paired {high low : UInt16} (first : highSurrogate high = true)
    (second : lowSurrogate low = true) : jsSpace (paired high low) = false := by
  have large := toNat_paired first second
  simp only [jsSpace, Bool.and_eq_false_iff, decide_eq_false_iff_not]
  exact .inl (by omega)

theorem runeCount_eq (text : Text) : runeCount text = (decode text).length := by
  induction text using decode.induct with
  | case1 => rfl
  | case2 unit => rfl
  | case3 high low rest pair ih => simp [runeCount, decode, pair, ih]
  | case4 high low rest apart ih => simp [runeCount, decode, apart, ih]

theorem decode_cons {unit : UInt16} (plain : highSurrogate unit = false) (rest : Text) :
    decode (unit :: rest) = single unit :: decode rest := by
  cases rest with
  | nil => rfl
  | cons next rest => simp [decode, plain]

theorem decode_first (unit : UInt16) (rest : Text) :
    ∃ rune runes, decode (unit :: rest) = rune :: runes ∧ jsSpace rune = trimmable unit := by
  cases rest with
  | nil => exact ⟨single unit, [], rfl, jsSpace_single unit⟩
  | cons next rest =>
      by_cases pair : (highSurrogate unit && lowSurrogate next) = true
      · obtain ⟨first, second⟩ := Bool.and_eq_true_iff.mp pair
        refine ⟨paired unit next, decode rest, by simp [decode, pair], ?_⟩
        rw [jsSpace_paired first second, dark_of_half (.inl first)]
      · exact ⟨single unit, decode (next :: rest), by simp [decode, pair], jsSpace_single unit⟩

theorem decode_snoc (text : Text) (last : UInt16) :
    ∃ front rune, decode (text ++ [last]) = front ++ [rune] ∧
      jsSpace rune = trimmable last ∧ (trimmable last = true → front = decode text) := by
  induction text using decode.induct with
  | case1 => exact ⟨[], single last, rfl, jsSpace_single last, fun _ => rfl⟩
  | case2 unit =>
      by_cases pair : (highSurrogate unit && lowSurrogate last) = true
      · obtain ⟨first, second⟩ := Bool.and_eq_true_iff.mp pair
        have dark := dark_of_half (.inr second)
        refine ⟨[], paired unit last, by simp [decode, pair], ?_, ?_⟩
        · rw [jsSpace_paired first second, dark]
        · rw [dark]
          exact nofun
      · exact ⟨[single unit], single last, by simp [decode, pair], jsSpace_single last,
          fun _ => rfl⟩
  | case3 high low rest pair ih =>
      obtain ⟨front, rune, ends, white, same⟩ := ih
      refine ⟨paired high low :: front, rune, by simp [decode, pair, ends], white, ?_⟩
      intro spaces
      simp [decode, pair, same spaces]
  | case4 high low rest apart ih =>
      obtain ⟨front, rune, ends, white, same⟩ := ih
      rw [List.cons_append] at ends
      refine ⟨single high :: front, rune, by simp [decode, apart, ends], white, ?_⟩
      intro spaces
      simp [decode, apart, same spaces]

theorem decode_dropWhile (text : Text) :
    decode (text.dropWhile trimmable) = (decode text).dropWhile jsSpace := by
  induction text with
  | nil => rfl
  | cons unit rest ih =>
      by_cases white : trimmable unit = true
      · rw [List.dropWhile_cons_of_pos white, decode_cons (plain_of_trimmable white).1,
          List.dropWhile_cons_of_pos (by rw [jsSpace_single, white]), ih]
      · obtain ⟨rune, runes, begins, same⟩ := decode_first unit rest
        rw [List.dropWhile_cons_of_neg white, begins,
          List.dropWhile_cons_of_neg (by rw [same]; exact white)]

theorem decode_rdropWhile (text : Text) :
    decode (text.rdropWhile trimmable) = (decode text).rdropWhile jsSpace := by
  induction text using List.reverseRecOn with
  | nil => rfl
  | append_singleton text last ih =>
      obtain ⟨front, rune, ends, white, same⟩ := decode_snoc text last
      by_cases spaces : trimmable last = true
      · rw [List.rdropWhile_concat_pos _ _ _ spaces, ends,
          List.rdropWhile_concat_pos _ _ _ (by rw [white, spaces]), same spaces, ih]
      · rw [List.rdropWhile_concat_neg _ _ _ spaces, ends,
          List.rdropWhile_concat_neg _ _ _ (by rw [white]; exact spaces)]

theorem decode_trim (text : Text) : decode (trim text) = strip jsSpace (decode text) := by
  rw [trim_eq, strip, decode_rdropWhile, decode_dropWhile, strip]

end Council.AskWire
