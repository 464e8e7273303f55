import Mathlib.Data.Finset.Powerset
import TableParsing.Automaton.Basic
import TableParsing.Proofs.Automaton.Closure

/- The states that the automaton finds. Exploration numbers every state that can be reached from
   the first one, no state twice, and records its transitions: `finished_build`. The limit on the
   exploration cuts nothing off, since every state is a set of items of the grammar. -/
namespace TableParsing

namespace Automaton

variable {a : Augmented}

/-- The state after a string of symbols. It is empty if no item allows the string. -/
def stateAfter (a : Augmented) (read : List Symbol) : State :=
  read.foldl (fun items s => goto a items.toList s)
    (closure a [Item.ofProduction a.startProduction])

theorem stateAfter_concat (read : List Symbol) (s : Symbol) :
    stateAfter a (read ++ [s]) = goto a (stateAfter a read).toList s := by
  simp [stateAfter]

theorem mem_allItems {i : Item} :
    i ∈ allItems a ↔ ∃ p ∈ a.startProduction :: a.grammar.productions, ∃ done todo,
      p.body = done ++ todo ∧ i = Item.dotted p.lhs done todo := by
  simp only [allItems, List.mem_flatMap, Item.mem_withEveryDot]

theorem initial_mem_allItems {i : Item} (h : i ∈ initialItems a) : i ∈ allItems a := by
  obtain ⟨p, hp, rfl⟩ := List.mem_map.mp (SortedSet.mem_ofList.mp h)
  exact mem_allItems.mpr ⟨p, hp, [], p.body, rfl, rfl⟩

theorem advance_mem_allItems {i : Item} {s : Symbol} (h : i ∈ allItems a)
    (next : i.next? = some s) : i.advance ∈ allItems a := by
  obtain ⟨p, hp, done, todo, whole, rfl⟩ := mem_allItems.mp h
  cases todo with
  | nil => simp at next
  | cons x rest =>
    rw [Item.advance_dotted]
    refine mem_allItems.mpr ⟨p, hp, done ++ [x], rest, ?_, rfl⟩
    rw [whole, List.append_assoc, List.singleton_append]

theorem called_mem_allItems {items : List Item} (known : ∀ i ∈ items, i ∈ allItems a) {i : Item}
    (h : Called a items i) : i ∈ allItems a := by
  induction h with
  | given member => exact known _ member
  | predicted _ call _ => exact initial_mem_allItems (mem_initialItems_of_prediction call)

theorem stateAfter_subset (read : List Symbol) : ∀ i ∈ stateAfter a read, i ∈ allItems a := by
  induction read using List.reverseRecOn with
  | nil =>
    intro i hi
    refine called_mem_allItems ?_ (mem_closure.mp hi)
    intro j hj
    rw [List.mem_singleton.mp hj]
    exact mem_allItems.mpr ⟨_, List.mem_cons_self, [], _, rfl, rfl⟩
  | append_singleton read s ih =>
    intro i hi
    rw [stateAfter_concat] at hi
    refine called_mem_allItems ?_ (mem_goto.mp hi)
    intro j hj
    obtain ⟨k, hk, _, next, rfl⟩ := mem_advanceOver.mp hj
    exact advance_mem_allItems (ih k hk) next

theorem length_le_stateLimit {states : List State} (distinct : states.Nodup)
    (known : ∀ items ∈ states, ∀ i ∈ items, i ∈ allItems a) :
    states.length ≤ stateLimit a := by
  let members : State → Finset Item := fun items => items.toList.toFinset
  have injective : Function.Injective members := by
    intro s t same
    refine SortedSet.ext fun x => ?_
    rw [SortedSet.mem_def, SortedSet.mem_def, ← List.mem_toFinset, ← List.mem_toFinset]
    exact iff_of_eq (congrArg (x ∈ ·) same)
  have subsets : (states.map members).toFinset ⊆ (allItems a).toFinset.powerset := by
    intro image h
    obtain ⟨items, hi, rfl⟩ := List.mem_map.mp (List.mem_toFinset.mp h)
    refine Finset.mem_powerset.mpr fun x hx => ?_
    exact List.mem_toFinset.mpr (known items hi x (List.mem_toFinset.mp hx))
  calc states.length = (states.map members).toFinset.card := by
        rw [List.toFinset_card_of_nodup (distinct.map injective), List.length_map]
    _ ≤ (allItems a).toFinset.powerset.card := Finset.card_le_card subsets
    _ = 2 ^ (allItems a).toFinset.card := Finset.card_powerset _
    _ ≤ 2 ^ (allItems a).length := Nat.pow_le_pow_right (by omega) (List.toFinset_card_le _)

/-- An automaton in which the transitions named by `done` have been looked for. -/
structure Explored (a : Augmented) (done : Nat → Symbol → Prop) (m : Automaton) : Prop where
  augmented : m.augmented = a
  first : m.states[0]? = some (stateAfter a [])
  distinct : m.states.Nodup
  reached : ∀ items ∈ m.states, ∃ read, items = stateAfter a read
  sound : ∀ source s target, m.transitions.get? (source, s) = some target →
    ∃ (n : Nat) (items : State), source = n ∧ m.states[n]? = some items ∧
      m.states[target]? = some (goto a items.toList s) ∧ ∃ i, i ∈ goto a items.toList s
  within : ∀ n s, done n s → n < m.states.length
  complete : ∀ (n : Nat) s items, done n s → m.states[n]? = some items →
    (∃ i, i ∈ goto a items.toList s) → ∃ target, m.transitions.get? ((n : Int), s) = some target

theorem register_spec (m : Automaton) (s : State) :
    (m.register s).2.states[(m.register s).1]? = some s ∧
      (m.register s).2.augmented = m.augmented ∧
      (m.register s).2.transitions = m.transitions ∧
      ((m.register s).2.states = m.states ∨
        s ∉ m.states ∧ (m.register s).2.states = m.states ++ [s]) := by
  unfold register stateOf?
  cases found : m.states.findIdx? (· = s) with
  | some n =>
    obtain ⟨lt, here, _⟩ := List.findIdx?_eq_some_iff_getElem.mp found
    have same : m.states[n] = s := of_decide_eq_true here
    exact ⟨by rw [List.getElem?_eq_getElem lt, same], rfl, rfl, Or.inl rfl⟩
  | none =>
    have absent : s ∉ m.states := by
      intro member
      have none := List.findIdx?_eq_none_iff.mp found s member
      simp at none
    exact ⟨by simp, rfl, rfl, Or.inr ⟨absent, rfl⟩⟩

theorem getElem?_register {m : Automaton} {s : State} {n : Nat} {items : State}
    (h : m.states[n]? = some items) : (m.register s).2.states[n]? = some items := by
  rcases (register_spec m s).2.2.2 with same | ⟨_, longer⟩
  · rw [same, h]
  · rw [longer, List.getElem?_append_left (List.getElem?_eq_some_iff.mp h).1, h]

theorem getElem?_record {m : Automaton} {source : Int} {origin : State} {s : Symbol} {n : Nat}
    {items : State} (h : m.states[n]? = some items) :
    (m.record source origin s).2.states[n]? = some items := by
  unfold record
  dsimp only
  split
  · exact h
  · exact getElem?_register h

theorem explored_record {done : Nat → Symbol → Prop} {m : Automaton} (e : Explored a done m)
    {n : Nat} {items : State} (here : m.states[n]? = some items) (s : Symbol) :
    Explored a (fun k x => done k x ∨ k = n ∧ x = s) (m.record n items s).2 := by
  unfold record
  dsimp only
  rw [e.augmented]
  split
  · rename_i empty
    refine { e with within := ?_, complete := ?_ }
    · rintro k x (old | ⟨rfl, rfl⟩)
      · exact e.within k x old
      · exact (List.getElem?_eq_some_iff.mp here).1
    · rintro k x others (old | ⟨rfl, rfl⟩) there member
      · exact e.complete k x others old there member
      · obtain ⟨i, hi⟩ := member
        rw [here] at there
        exact absurd (Option.some.inj there ▸ hi) (SortedSet.isEmpty_iff.mp empty i)
  · rename_i stays
    obtain ⟨place, augmented, transitions, grown⟩ := register_spec m (goto a items.toList s)
    have member : ∃ i, i ∈ goto a items.toList s := by
      by_contra none
      exact stays (SortedSet.isEmpty_iff.mpr fun x hx => none ⟨x, hx⟩)
    obtain ⟨read, rfl⟩ := e.reached items (List.mem_of_getElem? here)
    constructor
    case augmented => exact augmented.trans e.augmented
    case first => exact getElem?_register e.first
    case distinct =>
      rcases grown with same | ⟨absent, longer⟩
      · exact same ▸ e.distinct
      · dsimp only
        rw [longer]
        refine List.nodup_append.mpr ⟨e.distinct, by simp, ?_⟩
        intro x hx y hy same
        rw [List.mem_singleton.mp hy] at same
        exact absent (same ▸ hx)
    case reached =>
      intro others member
      rcases grown with same | ⟨_, longer⟩
      · exact e.reached others (same ▸ member)
      · dsimp only at member
        rw [longer, List.mem_append, List.mem_singleton] at member
        rcases member with old | rfl
        · exact e.reached others old
        · exact ⟨read ++ [s], (stateAfter_concat read s).symm⟩
    case sound =>
      intro source x target found
      dsimp only at found ⊢
      rw [CellMap.get?_put, transitions] at found
      split at found
      · rename_i own
        obtain ⟨rfl, rfl⟩ := Prod.mk.inj own
        obtain rfl := Option.some.inj found
        exact ⟨n, _, rfl, getElem?_register here, place, member⟩
      · obtain ⟨k, others, same, there, entered, inside⟩ := e.sound source x target found
        exact ⟨k, others, same, getElem?_register there, getElem?_register entered, inside⟩
    case within =>
      have longer : ∀ k, k < m.states.length →
          k < (m.register (goto a (stateAfter a read).toList s)).2.states.length := by
        intro k lt
        exact (List.getElem?_eq_some_iff.mp
          (getElem?_register (List.getElem?_eq_getElem lt))).1
      rintro k x (old | ⟨rfl, rfl⟩)
      · exact longer k (e.within k x old)
      · exact longer k (List.getElem?_eq_some_iff.mp here).1
    case complete =>
      intro k x others asked there inside
      dsimp only at there ⊢
      rw [CellMap.get?_put, transitions]
      split
      · exact ⟨_, rfl⟩
      · rename_i other
        rcases asked with old | ⟨rfl, rfl⟩
        · have before := List.getElem?_eq_getElem (e.within k x old)
          rw [getElem?_register before] at there
          exact e.complete k x others old (before.trans there) inside
        · exact absurd rfl other

theorem explored_foldl {symbols : List Symbol} {done : Nat → Symbol → Prop} {m : Automaton}
    (e : Explored a done m) {n : Nat} {items : State} (here : m.states[n]? = some items) :
    (symbols.foldl (fun m s => (m.record n items s).2) m).states[n]? = some items ∧
      Explored a (fun k x => done k x ∨ k = n ∧ x ∈ symbols)
        (symbols.foldl (fun m s => (m.record n items s).2) m) := by
  induction symbols generalizing done m with
  | nil =>
    refine ⟨here, { e with within := ?_, complete := ?_ }⟩
    · rintro k x (old | ⟨_, none⟩)
      · exact e.within k x old
      · exact absurd none List.not_mem_nil
    · rintro k x others (old | ⟨_, none⟩)
      · exact e.complete k x others old
      · exact absurd none List.not_mem_nil
  | cons s rest ih =>
    obtain ⟨there, all⟩ := ih (explored_record e here s) (getElem?_record here)
    refine ⟨there, { all with within := ?_, complete := ?_ }⟩
    · intro k x asked
      refine all.within k x ?_
      simpa only [List.mem_cons, and_or_left, or_assoc] using asked
    · intro k x others asked
      refine all.complete k x others ?_
      simpa only [List.mem_cons, and_or_left, or_assoc] using asked

theorem Explored.length_le {done : Nat → Symbol → Prop} {m : Automaton} (e : Explored a done m) :
    m.states.length ≤ stateLimit a := by
  refine length_le_stateLimit e.distinct ?_
  intro items member
  obtain ⟨read, rfl⟩ := e.reached items member
  exact stateAfter_subset read

/-- All transitions of the states of an automaton over some symbols have been looked for. -/
def Finished (a : Augmented) (symbols : List Symbol) (m : Automaton) : Prop :=
  Explored a (fun n x => n < m.states.length ∧ x ∈ symbols) m

theorem finished_explore {symbols : List Symbol} {limit n : Nat} {m : Automaton}
    (e : Explored a (fun k x => k < n ∧ x ∈ symbols) m) (sofar : n ≤ m.states.length)
    (room : stateLimit a ≤ n + limit) : Finished a symbols (explore symbols limit n m) := by
  induction limit generalizing n m with
  | zero =>
    have all : m.states.length = n := by
      have := e.length_le
      omega
    unfold Finished explore
    rw [all]
    exact e
  | succ limit ih =>
    unfold explore
    cases here : m.states[n]? with
    | none =>
      have all : m.states.length = n := by
        have := List.getElem?_eq_none_iff.mp here
        omega
      unfold Finished
      dsimp only
      rw [all]
      exact e
    | some items =>
      obtain ⟨there, next⟩ := @explored_foldl a symbols _ m e n items here
      have before : ∀ k x, k < n + 1 ∧ x ∈ symbols →
          k < n ∧ x ∈ symbols ∨ k = n ∧ x ∈ symbols := by
        rintro k x ⟨lt, member⟩
        rcases Nat.lt_succ_iff_lt_or_eq.mp lt with lt | eq
        · exact Or.inl ⟨lt, member⟩
        · exact Or.inr ⟨eq, member⟩
      refine ih { next with within := ?_, complete := ?_ }
        (List.getElem?_eq_some_iff.mp there).1 (by omega)
      · intro k x asked
        exact next.within k x (before k x asked)
      · intro k x others asked
        exact next.complete k x others (before k x asked)

/-- A walk over the states that comes to their end does not go further if it may. -/
theorem explore_limit {symbols : List Symbol} {limit n : Nat} {m : Automaton}
    (enough : (explore symbols limit n m).states.length ≤ n + limit) (more : Nat) :
    explore symbols (limit + more) n m = explore symbols limit n m := by
  induction limit generalizing n m with
  | zero =>
    have done : m.states[n]? = none := List.getElem?_eq_none enough
    cases more with
    | zero => rfl
    | succ more =>
      rw [Nat.zero_add]
      unfold explore
      rw [done]
  | succ limit ih =>
    have longer : limit + 1 + more = limit + more + 1 := by omega
    rw [longer]
    unfold explore at enough ⊢
    cases here : m.states[n]? with
    | none => rfl
    | some items =>
      rw [here] at enough
      dsimp only at enough ⊢
      exact ih (by omega)

theorem explored_first (a : Augmented) (symbols : List Symbol) :
    Explored a (fun k x => k < 0 ∧ x ∈ symbols) ⟨a, [stateAfter a []], ∅⟩ := by
  constructor
  case augmented => rfl
  case first => rfl
  case distinct => simp
  case reached =>
    intro items member
    exact ⟨[], List.mem_singleton.mp member⟩
  case sound =>
    intro source s target found
    rw [CellMap.get?_empty] at found
    cases found
  case within =>
    rintro n s ⟨lt, _⟩
    exact absurd lt (Nat.not_lt_zero n)
  case complete =>
    rintro n s items ⟨lt, _⟩
    exact absurd lt (Nat.not_lt_zero n)

theorem build_ofAugmented (a : Augmented) : (ofAugmented a).build =
    explore a.symbols (stateLimit a) 0 ⟨a, [stateAfter a []], ∅⟩ := rfl

/-- The automaton that is built knows all states and all transitions. -/
theorem finished_build (a : Augmented) : Finished a a.symbols (ofAugmented a).build := by
  rw [build_ofAugmented]
  exact finished_explore (explored_first a a.symbols) (Nat.zero_le _) (by omega)

end Automaton
end TableParsing
