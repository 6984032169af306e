import Mathlib.Data.Nat.Find
import Council.TextReveal

/-!
Iterating `nextChunkEnd` from the start of a text, as `revealStep` does one
tick at a time. The positions it stops at are strictly increasing, so the last
one is the end of the text; the two scans decide where the others lie.
-/

namespace Council.TextChunks
open Protocol TextReveal

section Cuts

variable {Item : Type} (next : Nat → Nat)

/-- The position reached after `count` steps from the start. -/
def cut : Nat → Nat
  | 0 => 0
  | count + 1 => next (cut count)

/-- What lies between the cuts of the first `count` steps. -/
def pieces (items : List Item) : Nat → List (List Item)
  | 0 => []
  | count + 1 =>
      pieces items count ++ [(items.take (cut next (count + 1))).drop (cut next count)]

variable (items : List Item)

/-- Every step before the end advances and stays inside. -/
def Advances : Prop :=
  ∀ pos, pos < items.length → pos < next pos ∧ next pos ≤ items.length

variable {next items}

theorem cut_ahead (advances : Advances next items) (count : Nat)
    (inside : ∀ earlier, earlier < count → cut next earlier < items.length) :
    count ≤ cut next count ∧ cut next count ≤ items.length := by
  induction count with
  | zero => exact ⟨Nat.le_refl 0, Nat.zero_le _⟩
  | succ count ih =>
      have before := ih fun earlier less => inside earlier (Nat.lt_succ_of_lt less)
      have step := advances (cut next count) (inside count (Nat.lt_succ_self count))
      simp only [cut]
      omega

/-- The iteration ends: some step is the first to reach the end. -/
theorem cuts_end (advances : Advances next items) :
    ∃ count, count ≤ items.length ∧ cut next count = items.length ∧
      ∀ earlier, earlier < count → cut next earlier < items.length := by
  -- Unless it stopped earlier, the cut after `length` steps is at `length`.
  have stops : ∃ count, ¬ cut next count < items.length := by
    by_contra never
    have inside : ∀ count, cut next count < items.length := by
      simpa using never
    have ahead := cut_ahead advances items.length fun earlier _ => inside earlier
    exact absurd (inside items.length) (by omega)
  classical
  have inside : ∀ earlier, earlier < Nat.find stops → cut next earlier < items.length := by
    intro earlier less
    simpa using Nat.find_min stops less
  have ahead := cut_ahead advances (Nat.find stops) inside
  have reached := Nat.find_spec stops
  exact ⟨Nat.find stops, by omega, by omega, inside⟩

theorem pieces_flatten (advances : Advances next items) (count : Nat)
    (inside : ∀ earlier, earlier < count → cut next earlier < items.length) :
    (pieces next items count).flatten = items.take (cut next count) := by
  induction count with
  | zero => rfl
  | succ count ih =>
      have before := ih fun earlier less => inside earlier (Nat.lt_succ_of_lt less)
      have step := advances (cut next count) (inside count (Nat.lt_succ_self count))
      have kept : items.take (cut next count) =
          (items.take (cut next (count + 1))).take (cut next count) := by
        rw [List.take_take]
        exact congrArg items.take (Nat.min_eq_left (Nat.le_of_lt step.1)).symm
      simp only [pieces, List.flatten_append, List.flatten_singleton, before]
      rw [kept, List.take_append_drop]

theorem cut_of_never_skipped (index : Nat) (positive : 0 < index)
    (kept : ∀ pos, pos < index → next pos ≤ index) (count : Nat)
    (passed : index ≤ cut next count) :
    ∃ step, step ≤ count ∧ cut next step = index := by
  induction count with
  | zero => exact absurd passed (Nat.not_le.mpr positive)
  | succ count ih =>
      by_cases earlier : index ≤ cut next count
      · rcases ih earlier with ⟨step, less, same⟩
        exact ⟨step, Nat.le_succ_of_le less, same⟩
      · have reached := kept (cut next count) (Nat.lt_of_not_le earlier)
        exact ⟨count + 1, Nat.le_refl _, Nat.le_antisymm reached passed⟩

end Cuts

theorem scan_while_ge (test : UInt16 → Bool) (text : Text) (index : Nat) :
    index ≤ scanWhile test text index := by
  induction text generalizing index with
  | nil => exact Nat.le_refl index
  | cons unit rest ih =>
      unfold scanWhile
      split
      · exact Nat.le_of_succ_le (ih (index + 1))
      · exact Nat.le_refl index

theorem scan_while_passed (test : UInt16 → Bool) (text : Text) (index passed : Nat)
    (before : index + passed < scanWhile test text index) :
    ∃ unit, text[passed]? = some unit ∧ test unit = true := by
  induction text generalizing index passed with
  | nil => exact absurd before (by simp [scanWhile])
  | cons unit rest ih =>
      unfold scanWhile at before
      split at before
      · next holds =>
          cases passed with
          | zero => exact ⟨unit, rfl, holds⟩
          | succ passed =>
              rw [List.getElem?_cons_succ]
              exact ih (index + 1) passed (by omega)
      · exact absurd before (by omega)

theorem scan_while_stopped (test : UInt16 → Bool) (text : Text) (index : Nat)
    (inside : scanWhile test text index < index + text.length) :
    ∃ unit, text[scanWhile test text index - index]? = some unit ∧ test unit = false := by
  induction text generalizing index with
  | nil => exact absurd inside (by simp [scanWhile])
  | cons unit rest ih =>
      by_cases holds : test unit = true
      · simp only [scanWhile, holds, if_true, List.length_cons] at inside ⊢
        rcases ih (index + 1) (by omega) with ⟨found, at_end, fails⟩
        have ahead := scan_while_ge test rest (index + 1)
        have split_off : scanWhile test rest (index + 1) - index =
            scanWhile test rest (index + 1) - (index + 1) + 1 := by omega
        rw [split_off, List.getElem?_cons_succ]
        exact ⟨found, at_end, fails⟩
      · simp only [scanWhile, holds]
        exact ⟨unit, by simp, by simpa using holds⟩

/-- A non-whitespace unit follows a whitespace one at `index`. -/
def WordStart (text : Text) (index : Nat) : Prop :=
  ∃ before after, text[index - 1]? = some before ∧ text[index]? = some after ∧
    isSpace before = true ∧ isSpace after = false

/-- Where the two scans of one step stand: the end of the word, the end of the
whitespace after it, and what they passed. -/
structure Scanned (text : Text) (pos word stop : Nat) : Prop where
  within : pos ≤ word ∧ word ≤ stop ∧ stop ≤ text.length
  letters : ∀ index, pos ≤ index → index < word →
    ∃ unit, text[index]? = some unit ∧ isSpace unit = false
  spaces : ∀ index, word ≤ index → index < stop →
    ∃ unit, text[index]? = some unit ∧ isSpace unit = true
  spaced : word < text.length → ∃ unit, text[word]? = some unit ∧ isSpace unit = true
  started : stop < text.length → ∃ unit, text[stop]? = some unit ∧ isSpace unit = false

theorem scan_drop_passed (test : UInt16 → Bool) (text : Text) (pos index : Nat)
    (after : pos ≤ index) (before : index < scanWhile test (text.drop pos) pos) :
    ∃ unit, text[index]? = some unit ∧ test unit = true := by
  have found := scan_while_passed test (text.drop pos) pos (index - pos) (by omega)
  rwa [List.getElem?_drop, Nat.add_sub_cancel' after] at found

theorem scan_drop_stopped (test : UInt16 → Bool) (text : Text) (pos : Nat)
    (inside : scanWhile test (text.drop pos) pos < text.length) :
    ∃ unit, text[scanWhile test (text.drop pos) pos]? = some unit ∧ test unit = false := by
  have ahead := scan_while_ge test (text.drop pos) pos
  have found := scan_while_stopped test (text.drop pos) pos
    (by rw [List.length_drop]; omega)
  rwa [List.getElem?_drop, Nat.add_sub_cancel' ahead] at found

theorem scanned (text : Text) (pos : Nat) (inside : pos < text.length) :
    ∃ word, Scanned text pos word (nextChunkEnd text pos) := by
  let word := scanWhile (fun unit => !isSpace unit) (text.drop pos) pos
  let stop := scanWhile isSpace (text.drop word) word
  have word_ahead : pos ≤ word := scan_while_ge _ _ _
  have stop_ahead : word ≤ stop := scan_while_ge _ _ _
  have word_inside : word ≤ text.length :=
    scan_while_drop_le _ _ _ (Nat.le_of_lt inside)
  have stop_inside : stop ≤ text.length := scan_while_drop_le _ _ _ word_inside
  have spaced : word < text.length →
      ∃ unit, text[word]? = some unit ∧ isSpace unit = true := by
    intro within
    simpa using scan_drop_stopped (fun unit => !isSpace unit) text pos within
  have started : stop < text.length →
      ∃ unit, text[stop]? = some unit ∧ isSpace unit = false :=
    scan_drop_stopped isSpace text word
  -- The fallback never applies: a scan that passed nothing would have stopped
  -- at a unit that is and is not whitespace.
  have moved : stop > pos := by
    by_contra stuck
    have same_word : word = pos := by omega
    have same_stop : stop = word := by omega
    rcases spaced (by omega) with ⟨unit, found, is_space⟩
    rcases started (by omega) with ⟨other, also, not_space⟩
    rw [same_stop, found] at also
    cases also
    rw [is_space] at not_space
    exact absurd not_space (by decide)
  have same : nextChunkEnd text pos = stop := by
    unfold nextChunkEnd
    simp only
    exact if_pos moved
  rw [same]
  exact ⟨word, {
    within := ⟨word_ahead, stop_ahead, stop_inside⟩
    letters := fun index after before => by
      simpa using scan_drop_passed (fun unit => !isSpace unit) text pos index after before
    spaces := scan_drop_passed isSpace text word
    spaced := spaced
    started := started }⟩

theorem next_chunk_end_starts_word (text : Text) (pos : Nat) (inside : pos < text.length)
    (more : nextChunkEnd text pos < text.length) :
    WordStart text (nextChunkEnd text pos) := by
  rcases scanned text pos inside with ⟨word, scan⟩
  have bounds := scan.within
  have ahead := next_chunk_end_gt text pos inside
  rcases scan.started more with ⟨after, found, not_space⟩
  have spaces_passed : word < nextChunkEnd text pos := by
    rcases Nat.lt_or_eq_of_le bounds.2.1 with less | same
    · exact less
    · rcases scan.spaced (by omega) with ⟨unit, at_word, is_space⟩
      rw [same, found] at at_word
      cases at_word
      rw [is_space] at not_space
      exact absurd not_space (by decide)
  rcases scan.spaces (nextChunkEnd text pos - 1) (by omega) (by omega) with
    ⟨before, earlier, is_space⟩
  exact ⟨before, after, earlier, found, is_space, not_space⟩

theorem next_chunk_end_skips_none (text : Text) (index pos : Nat)
    (start : WordStart text index) (before : pos < index) :
    nextChunkEnd text pos ≤ index := by
  rcases start with ⟨space, letter, found_space, found_letter, is_space, not_space⟩
  have index_inside : index < text.length := by
    rcases List.getElem?_eq_some_iff.mp found_letter with ⟨inside, -⟩
    exact inside
  rcases scanned text pos (by omega) with ⟨word, scan⟩
  by_contra beyond
  rcases Nat.lt_or_ge (index - 1) word with in_word | after_word
  · rcases scan.letters (index - 1) (by omega) in_word with ⟨unit, found, clear⟩
    rw [found_space] at found
    cases found
    rw [is_space] at clear
    exact absurd clear (by decide)
  · rcases scan.spaces index (by omega) (by omega) with ⟨unit, found, blank⟩
    rw [found_letter] at found
    cases found
    rw [not_space] at blank
    exact absurd blank (by decide)

theorem next_chunk_end_advances (text : Text) : Advances (nextChunkEnd text) text :=
  fun pos inside =>
    ⟨next_chunk_end_gt text pos inside, next_chunk_end_le text pos (Nat.le_of_lt inside)⟩

/-- A text is cut into whole words: every step makes progress, finitely many
steps reach the end, the pieces make up the text, and the cuts inside it are
exactly the starts of words. -/
theorem next_chunk_end_cuts_words (text : Text) :
    (∀ pos, pos < text.length →
      pos < nextChunkEnd text pos ∧ nextChunkEnd text pos ≤ text.length) ∧
    ∃ count, count ≤ text.length ∧
      cut (nextChunkEnd text) count = text.length ∧
      (∀ earlier, earlier < count → cut (nextChunkEnd text) earlier < text.length) ∧
      (pieces (nextChunkEnd text) text count).flatten = text ∧
      ∀ index, 0 < index → index < text.length →
        ((∃ step, step ≤ count ∧ cut (nextChunkEnd text) step = index) ↔
          WordStart text index) := by
  have advances := next_chunk_end_advances text
  rcases cuts_end advances with ⟨count, few, ended, inside⟩
  refine ⟨advances, count, few, ended, inside, ?_, ?_⟩
  · rw [pieces_flatten advances count inside, ended, List.take_length]
  intro index positive index_inside
  constructor
  · rintro ⟨step, less, same⟩
    cases step with
    | zero => exact absurd same (Nat.ne_of_lt positive)
    | succ step =>
        rw [← same] at index_inside ⊢
        exact next_chunk_end_starts_word text _ (inside step less) index_inside
  · intro start
    apply cut_of_never_skipped index positive _ count (by omega)
    intro pos before
    exact next_chunk_end_skips_none text index pos start before

/-- "a  b": the cuts are at 3 and at the end. -/
example : pieces (nextChunkEnd [0x61, 0x20, 0x20, 0x62]) [0x61, 0x20, 0x20, 0x62] 2 =
    [[0x61, 0x20, 0x20], [0x62]] := by decide

end Council.TextChunks
