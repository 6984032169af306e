import Mathlib.Data.List.Basic
import Mathlib.Data.List.FinRange
import Mathlib.Logic.Function.Basic

/-!
Interleavings of a family of lanes, and words made of rounds: a round is an
interleaving of its lanes closed by a mark, so that nothing of a later round
precedes the mark.
-/

namespace Council.Interleavings

universe u v w
variable {Lane : Type u} {Item : Type v} {Out : Type w} [DecidableEq Lane]

/-- The word takes the head of some lane, again and again, until every lane
is empty. -/
inductive Interleaves : (Lane → List Item) → List Item → Prop where
  | done {lanes : Lane → List Item} (empty : ∀ lane, lanes lane = []) :
      Interleaves lanes []
  | take {lanes : Lane → List Item} {word rest : List Item} (lane : Lane) (item : Item)
      (head : lanes lane = item :: rest)
      (tail : Interleaves (Function.update lanes lane rest) word) :
      Interleaves lanes (item :: word)

theorem Interleaves.mem {lanes : Lane → List Item} {word : List Item}
    (interleaves : Interleaves lanes word) (item : Item) (member : item ∈ word) :
    ∃ lane, item ∈ lanes lane := by
  induction interleaves with
  | done => cases member
  | @take lanes word rest lane first head tail ih =>
      rcases List.mem_cons.mp member with here | later
      · exact ⟨lane, by rw [head, here]; exact List.mem_cons_self⟩
      · obtain ⟨other, inside⟩ := ih later
        refine ⟨other, ?_⟩
        by_cases same : other = lane
        · subst other
          rw [Function.update_self] at inside
          rw [head]
          exact List.mem_cons_of_mem first inside
        · rwa [Function.update_of_ne same] at inside

theorem Interleaves.filter_map {lanes : Lane → List Item} {word : List Item}
    (interleaves : Interleaves lanes word) (select : Item → Option Out) (lane : Lane)
    (apart : ∀ other, other ≠ lane → ∀ item ∈ lanes other, select item = none) :
    word.filterMap select = (lanes lane).filterMap select := by
  induction interleaves with
  | done empty => rw [empty lane]
  | @take lanes word rest chosen item head tail ih =>
      have inside : ∀ other, ∀ kept ∈ Function.update lanes chosen rest other,
          kept ∈ lanes other := by
        intro other kept member
        by_cases same : other = chosen
        · subst other
          rw [Function.update_self] at member
          rw [head]
          exact List.mem_cons_of_mem item member
        · rwa [Function.update_of_ne same] at member
      have later := ih fun other different kept member =>
        apart other different kept (inside other kept member)
      by_cases same : chosen = lane
      · subst chosen
        rw [Function.update_self] at later
        rw [head, List.filterMap_cons, List.filterMap_cons, later]
      · rw [Function.update_of_ne (Ne.symm same)] at later
        have silent := apart chosen same item (by rw [head]; exact List.mem_cons_self)
        rw [List.filterMap_cons_none silent, later]

theorem Interleaves.of_keyed (key : Item → Lane) (lanes : Lane → List Item)
    (word : List Item)
    (projects : ∀ lane, word.filter (fun item => decide (key item = lane)) = lanes lane) :
    Interleaves lanes word := by
  induction word generalizing lanes with
  | nil => exact .done fun lane => (projects lane).symm
  | cons item rest ih =>
      have head := projects (key item)
      rw [List.filter_cons_of_pos (by simp)] at head
      refine .take (key item) item head.symm (ih _ fun lane => ?_)
      by_cases same : lane = key item
      · rw [same, Function.update_self]
      · rw [Function.update_of_ne same, ← projects lane,
          List.filter_cons_of_neg (by simpa using Ne.symm same)]

theorem Interleaves.map {lanes : Lane → List Item} {word : List Item}
    (interleaves : Interleaves lanes word) (change : Item → Out) :
    Interleaves (fun lane => (lanes lane).map change) (word.map change) := by
  induction interleaves with
  | done empty => exact .done fun lane => by rw [empty lane]; rfl
  | @take lanes word rest lane item head tail ih =>
      refine .take lane (change item) (by rw [head]; rfl) ?_
      have changed : (fun other => (Function.update lanes lane rest other).map change) =
          Function.update (fun other => (lanes other).map change) lane (rest.map change) := by
        funext other
        by_cases here : other = lane
        · rw [here, Function.update_self, Function.update_self]
        · rw [Function.update_of_ne here, Function.update_of_ne here]
      rwa [changed] at ih

def tagged (word : List (Lane × Item)) (lane : Lane) : List Item :=
  (word.filter fun entry => decide (entry.1 = lane)).map Prod.snd

theorem tagged_append (first second : List (Lane × Item)) (lane : Lane) :
    tagged (first ++ second) lane = tagged first lane ++ tagged second lane := by
  simp [tagged]

theorem Interleaves.of_tagged (word : List (Lane × Item)) :
    Interleaves (tagged word) (word.map Prod.snd) :=
  (Interleaves.of_keyed Prod.fst _ word fun _ => rfl).map Prod.snd

theorem Interleaves.complete {count : Nat} (lanes : Fin count → List Item)
    (word : List (Fin count × Item)) (begun : ∀ lane, tagged word lane <+: lanes lane) :
    ∃ rest, Interleaves lanes (word.map Prod.snd ++ rest) := by
  choose left whole using begun
  have only : ∀ lane, ∀ indices : List (Fin count), indices.Nodup →
      tagged (indices.flatMap fun other => (left other).map fun item => (other, item)) lane =
        if lane ∈ indices then left lane else [] := by
    intro lane indices distinct
    induction indices with
    | nil => rfl
    | cons first rest ih =>
        have apart := List.nodup_cons.mp distinct
        rw [List.flatMap_cons, tagged_append, ih apart.2]
        by_cases same : first = lane
        · subst first
          simp [tagged, List.filter_map, Function.comp_def, apart.1]
        · simp [tagged, List.filter_map, Function.comp_def, same, Ne.symm same]
  have lanes_eq : tagged (word ++ (List.finRange count).flatMap fun other =>
      (left other).map fun item => (other, item)) = lanes := by
    funext lane
    rw [tagged_append, only lane _ (List.nodup_finRange count),
      if_pos (List.mem_finRange lane), whole lane]
  refine ⟨((List.finRange count).flatMap fun other =>
    (left other).map fun item => (other, item)).map Prod.snd, ?_⟩
  rw [← List.map_append, ← lanes_eq]
  exact .of_tagged _

theorem Interleaves.perm {count : Nat} {lanes : Fin count → List Item} {word : List Item}
    (interleaves : Interleaves lanes word) :
    word.Perm ((List.finRange count).flatMap lanes) := by
  induction interleaves with
  | done empty => simp [List.flatMap_eq_nil_iff.mpr fun lane _ => empty lane]
  | @take lanes word rest chosen item head tail ih =>
      have apart : ∀ indices : List (Fin count), chosen ∉ indices →
          indices.flatMap (Function.update lanes chosen rest) = indices.flatMap lanes := by
        intro indices absent
        refine List.flatMap_congr fun lane member => ?_
        have different : lane ≠ chosen := fun same => absent (same ▸ member)
        exact Function.update_of_ne different _ _
      obtain ⟨before, after, split⟩ := List.append_of_mem (List.mem_finRange chosen)
      have distinct := List.nodup_append.mp (split ▸ List.nodup_finRange count)
      have absentBefore : chosen ∉ before := fun member =>
        distinct.2.2 chosen member chosen List.mem_cons_self rfl
      have absentAfter : chosen ∉ after := (List.nodup_cons.mp distinct.2.1).1
      refine (ih.cons item).trans ?_
      rw [split, List.flatMap_append, List.flatMap_append, List.flatMap_cons,
        List.flatMap_cons, apart before absentBefore, apart after absentAfter,
        Function.update_self, head]
      exact List.perm_middle.symm

/-- `Rounds lanes mark first count word`: `count` rounds from `first` on, each
an interleaving of its lanes followed by its mark. -/
inductive Rounds (lanes : Nat → Lane → List Item) (mark : Nat → Item) :
    Nat → Nat → List Item → Prop where
  | empty (first : Nat) : Rounds lanes mark first 0 []
  | more {first count : Nat} {block rest : List Item}
      (interleaves : Interleaves (lanes first) block)
      (tail : Rounds lanes mark (first + 1) count rest) :
      Rounds lanes mark first (count + 1) (block ++ mark first :: rest)

section Rounds
variable {lanes : Nat → Lane → List Item} {mark : Nat → Item} {first count : Nat}
  {word : List Item}

theorem Rounds.mem (rounds : Rounds lanes mark first count word) (item : Item)
    (member : item ∈ word) :
    ∃ round, first ≤ round ∧ round < first + count ∧
      (item = mark round ∨ ∃ lane, item ∈ lanes round lane) := by
  induction rounds with
  | empty => cases member
  | @more first count block rest interleaves tail ih =>
      rcases List.mem_append.mp member with inBlock | after
      · exact ⟨first, by omega, by omega, .inr (interleaves.mem item inBlock)⟩
      · rcases List.mem_cons.mp after with marked | later
        · exact ⟨first, by omega, by omega, .inl marked⟩
        · obtain ⟨round, low, high, source⟩ := ih later
          exact ⟨round, by omega, by omega, source⟩

theorem Rounds.mark_mem (rounds : Rounds lanes mark first count word) (round : Nat)
    (low : first ≤ round) (high : round < first + count) : mark round ∈ word := by
  induction rounds with
  | empty => omega
  | @more first count block rest interleaves tail ih =>
      by_cases here : round = first
      · subst here
        simp
      · have later := ih (by omega) (by omega)
        simp [later]

theorem Rounds.pairwise {Precedes : Item → Item → Prop}
    (rounds : Rounds lanes mark first count word)
    (free : ∀ round lane, ∀ item ∈ lanes round lane, ∀ later, Precedes item later)
    (closes : ∀ round other lane, round < other → ∀ item ∈ lanes other lane,
      Precedes (mark round) item)
    (ordered : ∀ round other, round < other → Precedes (mark round) (mark other)) :
    word.Pairwise Precedes := by
  induction rounds with
  | empty => exact List.Pairwise.nil
  | @more first count block rest interleaves tail ih =>
      have fromBlock : ∀ item ∈ block, ∀ later, Precedes item later := by
        intro item member later
        obtain ⟨lane, inside⟩ := interleaves.mem item member
        exact free first lane item inside later
      have fromMark : ∀ item ∈ rest, Precedes (mark first) item := by
        intro item member
        obtain ⟨round, low, _, marked | ⟨lane, inside⟩⟩ := tail.mem item member
        · rw [marked]
          exact ordered first round (by omega)
        · exact closes first round lane (by omega) item inside
      refine List.pairwise_append.mpr ⟨?_, List.pairwise_cons.mpr ⟨fromMark, ih⟩, ?_⟩
      · exact List.Pairwise.imp_of_mem (fun member _ _ => fromBlock _ member _)
          (List.pairwise_of_forall fun _ _ => trivial)
      · exact fun item member later _ => fromBlock item member later

theorem Rounds.filter_map (rounds : Rounds lanes mark first count word)
    (select : Item → Option Out) (round : Nat) (lane : Lane)
    (low : first ≤ round) (high : round < first + count)
    (apart : ∀ other otherLane, ¬ (other = round ∧ otherLane = lane) →
      ∀ item ∈ lanes other otherLane, select item = none)
    (unmarked : ∀ other, select (mark other) = none) :
    word.filterMap select = (lanes round lane).filterMap select := by
  induction rounds with
  | empty => omega
  | @more first count block rest interleaves tail ih =>
      rw [List.filterMap_append, List.filterMap_cons_none (unmarked first)]
      by_cases here : first = round
      · subst here
        have silent : rest.filterMap select = [] := by
          refine List.filterMap_eq_nil_iff.mpr fun item member => ?_
          obtain ⟨other, later, _, marked | ⟨otherLane, inside⟩⟩ := tail.mem item member
          · rw [marked, unmarked]
          · exact apart other otherLane (fun same => by omega) item inside
        rw [silent, List.append_nil]
        exact interleaves.filter_map select lane fun other different item inside =>
          apart first other (fun same => different same.2) item inside
      · have silent : block.filterMap select = [] := by
          refine List.filterMap_eq_nil_iff.mpr fun item member => ?_
          obtain ⟨otherLane, inside⟩ := interleaves.mem item member
          exact apart first otherLane (fun same => here same.1) item inside
        rw [silent, List.nil_append]
        exact ih (by omega) (by omega)

theorem Rounds.snoc (rounds : Rounds lanes mark first count word) {block : List Item}
    (interleaves : Interleaves (lanes (first + count)) block) :
    Rounds lanes mark first (count + 1) (word ++ (block ++ [mark (first + count)])) := by
  induction rounds with
  | empty first => exact .more interleaves (.empty _)
  | @more first count inner rest here tail ih =>
      have next : first + 1 + count = first + (count + 1) := by omega
      rw [next] at ih
      have later := ih interleaves
      rw [List.append_assoc, List.cons_append]
      exact .more here later

theorem Rounds.extend {seats : Nat} {lanes : Nat → Fin seats → List Item}
    (rounds : Rounds lanes mark first count word) (more : Nat) :
    ∃ rest, Rounds lanes mark first (count + more) (word ++ rest) := by
  induction more with
  | zero => exact ⟨[], by rwa [List.append_nil]⟩
  | succ more ih =>
      obtain ⟨rest, longer⟩ := ih
      obtain ⟨block, interleaves⟩ :=
        Interleaves.complete (lanes (first + (count + more))) [] fun _ => List.nil_prefix
      refine ⟨rest ++ (block ++ [mark (first + (count + more))]), ?_⟩
      rw [← List.append_assoc]
      exact longer.snoc interleaves

theorem Rounds.map (rounds : Rounds lanes mark first count word) (change : Item → Out)
    (others : Nat → Lane → List Out) (marks : Nat → Out)
    (along : ∀ round lane, first ≤ round → round < first + count →
      (lanes round lane).map change = others round lane)
    (marked : ∀ round, first ≤ round → round < first + count →
      change (mark round) = marks round) :
    Rounds others marks first count (word.map change) := by
  induction rounds with
  | empty first => exact .empty first
  | @more first count block rest interleaves tail ih =>
      have same : (fun lane => (lanes first lane).map change) = others first :=
        funext fun lane => along first lane (Nat.le_refl _) (by omega)
      have changed := interleaves.map change
      rw [same] at changed
      rw [List.map_append, List.map_cons, marked first (Nat.le_refl _) (by omega)]
      refine .more changed (ih ?_ ?_)
      · exact fun round lane low high => along round lane (by omega) (by omega)
      · exact fun round low high => marked round (by omega) (by omega)

end Rounds

end Council.Interleavings
