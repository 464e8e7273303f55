import Mathlib.Data.Prod.Lex
import Mathlib.Data.String.Basic
import Mathlib.Order.Bounds.Basic
import TableParsing.Proofs.Automaton.Closure

/- The closure as the least closed set. Items are in the order of their keys, in which ranks, names
   and places are nested, and different items have different keys: so a state is known by what is
   in it. The worklist ends with the closure in whatever order the items wait. -/
namespace TableParsing

open Std

def Symbol.sortKey (s : Symbol) : Nat ×ₗ String := toLex (s.kind.rank, s.name)

theorem Symbol.sortKey_injective : Function.Injective Symbol.sortKey := by
  intro s t same
  obtain ⟨rank, name⟩ := Prod.mk.inj (toLex.injective same)
  cases s
  cases t
  cases name
  cases SymbolKind.rank_injective rank
  rfl

theorem Symbol.compare_eq_lt {s t : Symbol} : compare s t = .lt ↔ s.sortKey < t.sortKey := by
  have names : compare s.name t.name = .lt ↔ s.name < t.name := compareOfLessAndEq_eq_lt
  rw [Symbol.compare_def, Ordering.then_eq_lt, names, Std.compare_eq_iff_eq, sortKey, sortKey,
    Prod.Lex.toLex_lt_toLex]
  exact or_congr_left compare_lt_iff_lt

theorem compare_symbols_eq_lt {xs ys : List Symbol} :
    compare xs ys = .lt ↔ xs.map Symbol.sortKey < ys.map Symbol.sortKey := by
  induction xs generalizing ys with
  | nil => cases ys <;> simp
  | cons x xs ih =>
    cases ys with
    | nil => simp
    | cons y ys =>
      rw [List.compare_cons_cons, Ordering.then_eq_lt, Symbol.compare_eq_lt,
        Std.compare_eq_iff_eq, ih, List.map_cons, List.map_cons, List.cons_lt_cons_iff,
        Symbol.sortKey_injective.eq_iff]

namespace Item

def sortKey (i : Item) : (Nat ×ₗ String) ×ₗ List (Nat ×ₗ String) ×ₗ Int :=
  toLex (i.lhs.sortKey, toLex (i.rhs.map Symbol.sortKey, i.dot))

theorem compare_eq_lt {i j : Item} : compare i j = .lt ↔ i.sortKey < j.sortKey := by
  rw [compare_def, Ordering.then_eq_lt, Ordering.then_eq_lt, Symbol.compare_eq_lt,
    Std.compare_eq_iff_eq, compare_symbols_eq_lt, Std.compare_eq_iff_eq, compare_lt_iff_lt,
    sortKey, sortKey, Prod.Lex.toLex_lt_toLex, Prod.Lex.toLex_lt_toLex,
    Symbol.sortKey_injective.eq_iff, (List.map_injective_iff.mpr Symbol.sortKey_injective).eq_iff]

/-- The dot is at one of the places of the body. -/
def Placed (i : Item) : Prop := 0 ≤ i.dot ∧ i.dot ≤ i.rhs.length

theorem placed_iff {i : Item} : i.Placed ↔ ∃ lhs done todo, i = dotted lhs done todo := by
  constructor
  · rintro ⟨above, below⟩
    obtain ⟨lhs, rhs, dot⟩ := i
    obtain ⟨place, rfl⟩ := Int.eq_ofNat_of_zero_le above
    have le : place ≤ rhs.length := Int.ofNat_le.mp below
    refine ⟨lhs, rhs.take place, rhs.drop place, ?_⟩
    simp [dotted, List.take_append_drop, le]
  · rintro ⟨lhs, done, todo, rfl⟩
    simp only [Placed, dotted, List.length_append]
    omega

end Item

/-- The members of a state stand in the order of their keys. -/
theorem state_sorted (state : State) :
    state.toList.Pairwise fun i j => i.sortKey < j.sortKey :=
  state.sorted.imp Item.compare_eq_lt.mp

theorem ofList_eq_iff {xs ys : List Item} :
    (SortedSet.ofList xs : State) = SortedSet.ofList ys ↔ ∀ i, i ∈ xs ↔ i ∈ ys := by
  constructor
  · intro same i
    rw [← SortedSet.mem_ofList, same, SortedSet.mem_ofList]
  · intro same
    refine SortedSet.ext fun i => ?_
    rw [SortedSet.mem_ofList, SortedSet.mem_ofList, same i]

section Worklist

variable {a : Augmented}

/-- The worklist comes to its end with a result, in whatever order the new items of a round are put
behind the others. -/
inductive Closes (a : Augmented) (result : State) : List Item → State → Prop where
  | done : Closes a result [] result
  | round {i : Item} {queue : List Item} {found : State}
      (next : ∀ fresh : List Item, fresh.Nodup →
        (∀ j, j ∈ fresh ↔ j ∈ i.predictions a ∧ j ∉ found) →
        Closes a result (queue ++ fresh) (found.union (SortedSet.ofList fresh))) :
      Closes a result (i :: queue) found

theorem Underway.closes {items queue : List Item} {found : State}
    (h : Underway a items queue found) : Closes a (closure a items) queue found := by
  -- each round takes one item from the queue, and what it puts there was missing before
  induction room : queue.length + ((initialItems a).diff found).size using
    Nat.strong_induction_on generalizing queue found with
  | _ room ih =>
    cases queue with
    | nil =>
      have same : closure a items = found :=
        SortedSet.ext fun i => mem_closure.trans h.finished.symm
      exact same ▸ .done
    | cons i queue =>
      subst room
      refine .round fun fresh distinct new => ?_
      exact ih _ (missing_size distinct new) (h.round new) rfl

end Worklist

section Least

variable {g : Grammar}

/-- With every item whose dot is before a nonterminal, the initial items of all productions of that
nonterminal. -/
def ClosedItems (g : Grammar) (items : Set Item) : Prop :=
  ∀ lhs done s todo, .dotted lhs done (s :: todo) ∈ items →
    s ∈ (Augmented.ofGrammar g).nonterminals →
      ∀ p ∈ (Augmented.ofGrammar g).startProduction :: g.productions, p.lhs = s →
        .ofProduction p ∈ items

theorem mem_productionsFor_ofGrammar (d : g.Declared) {s : Symbol} {p : Production} :
    p ∈ (Augmented.ofGrammar g).productionsFor s ↔
      p ∈ (Augmented.ofGrammar g).startProduction :: g.productions ∧ p.lhs = s := by
  unfold Augmented.productionsFor
  split
  · rename_i start
    constructor
    · intro own
      obtain rfl := List.mem_singleton.mp own
      exact ⟨List.mem_cons_self, start.symm⟩
    · rintro ⟨rule, left⟩
      rcases List.mem_cons.mp rule with rfl | rule
      · exact List.mem_singleton.mpr rfl
      · have member := d.lhs_mem rule
        rw [left, start] at member
        exact absurd member Augmented.start_not_nonterminal
  · rename_i other
    rw [List.mem_cons]
    constructor
    · intro own
      obtain ⟨rule, left⟩ := d.mem_productionsFor.mp own
      exact ⟨Or.inr rule, left⟩
    · rintro ⟨rfl | rule, left⟩
      · exact absurd left.symm other
      · exact d.mem_productionsFor.mpr ⟨rule, left⟩

theorem mem_predictions_ofGrammar (d : g.Declared) {i j : Item} {s : Symbol}
    (next : i.next? = some s) : j ∈ i.predictions (.ofGrammar g) ↔
      s ∈ (Augmented.ofGrammar g).nonterminals ∧
        ∃ p ∈ (Augmented.ofGrammar g).startProduction :: g.productions,
          p.lhs = s ∧ j = .ofProduction p := by
  have declared : (Augmented.ofGrammar g).isNonterminal s = true ↔
      s ∈ (Augmented.ofGrammar g).nonterminals := by
    simp [Augmented.isNonterminal, Augmented.nonterminals, Grammar.isNonterminal]
  simp only [mem_predictions, next, Option.some.injEq, exists_eq_left', declared,
    mem_productionsFor_ofGrammar d, and_assoc]

theorem called_placed {a : Augmented} {items : List Item} (placed : ∀ i ∈ items, i.Placed)
    {i : Item} (called : Called a items i) : i.Placed := by
  cases called with
  | given member => exact placed i member
  | predicted _ call =>
    obtain ⟨_, _, _, p, _, rfl⟩ := mem_predictions.mp call
    exact Item.placed_iff.mpr ⟨p.lhs, [], p.body, rfl⟩

theorem closure_isLeast (d : g.Declared) {items : List Item} (placed : ∀ i ∈ items, i.Placed) :
    IsLeast {set : Set Item | (∀ i ∈ items, i ∈ set) ∧ ClosedItems g set}
      {i | i ∈ closure (.ofGrammar g) items} := by
  refine ⟨⟨fun i member => mem_closure.mpr (.given member), ?_⟩, ?_⟩
  · intro lhs done s todo caller declared p rule left
    have next : (Item.dotted lhs done (s :: todo)).next? = some s := Item.next?_dotted_cons
    have call := (mem_predictions_ofGrammar d next).mpr ⟨declared, p, rule, left, rfl⟩
    exact mem_closure.mpr (.predicted (mem_closure.mp caller) call)
  · rintro set ⟨given, closed⟩ i member
    have called : Called (.ofGrammar g) items i := mem_closure.mp member
    clear member
    induction called with
    | given member => exact given _ member
    | predicted caller call ih =>
      obtain ⟨lhs, done, todo, rfl⟩ := Item.placed_iff.mp (called_placed placed caller)
      cases todo with
      | nil => simp [Item.predictions] at call
      | cons s todo =>
        have next : (Item.dotted lhs done (s :: todo)).next? = some s := Item.next?_dotted_cons
        obtain ⟨declared, p, rule, left, rfl⟩ := (mem_predictions_ofGrammar d next).mp call
        exact closed lhs done s todo ih declared p rule left

/-- What the closure of a list of items is: the least closed set that holds the items, as a list in
the order of the keys. The worklist ends with it however the items wait in the queue. -/
structure IsClosure (g : Grammar) (items : List Item) (state : State) : Prop where
  ends : ∀ queue : List Item, queue.Nodup → (∀ i, i ∈ queue ↔ i ∈ items) →
    Closes (.ofGrammar g) state queue (SortedSet.ofList items)
  sorted : state.toList.Pairwise fun i j => i.sortKey < j.sortKey
  nodup : state.toList.Nodup
  least : IsLeast {set : Set Item | (∀ i ∈ items, i ∈ set) ∧ ClosedItems g set} {i | i ∈ state}

theorem closure_isClosure (d : g.Declared) {items : List Item} (placed : ∀ i ∈ items, i.Placed) :
    IsClosure g items (closure (.ofGrammar g) items) where
  ends _ _ all := (underway_given all).closes
  sorted := state_sorted _
  nodup := SortedSet.nodup _
  least := closure_isLeast d placed

end Least

section Laws

variable {a : Augmented} {items more : List Item}

theorem called_mono (grown : ∀ i ∈ items, i ∈ more) {i : Item} (called : Called a items i) :
    Called a more i := by
  induction called with
  | given member => exact .given (grown _ member)
  | predicted _ call ih => exact .predicted ih call

theorem closure_mono (grown : ∀ i ∈ items, i ∈ more) :
    ∀ i ∈ closure a items, i ∈ closure a more :=
  fun _ member => mem_closure.mpr (called_mono grown (mem_closure.mp member))

theorem closure_congr (same : ∀ i, i ∈ more ↔ i ∈ items) : closure a more = closure a items := by
  refine SortedSet.ext fun i => ⟨closure_mono ?_ i, closure_mono ?_ i⟩
  · exact fun j => (same j).mp
  · exact fun j => (same j).mpr

theorem closure_idem : closure a (closure a items).toList = closure a items :=
  closure_of_closed fun _ member _ call => mem_closure.mpr (.predicted (mem_closure.mp member) call)

end Laws

/-- The closure of items with placed dots is the least closed set that holds them, so it is
idempotent, monotone, and independent of order and repetition; and two lists of items are the same
state if and only if they have the same items. -/
theorem closure_least {g : Grammar} (built : g.Built) {items : List Item}
    (placed : ∀ i ∈ items, i.Placed) :
    IsClosure g items (closure (.ofGrammar g) items) ∧
      closure (.ofGrammar g) (closure (.ofGrammar g) items).toList =
        closure (.ofGrammar g) items ∧
      (∀ more : List Item, (∀ i ∈ items, i ∈ more) →
        ∀ i ∈ closure (.ofGrammar g) items, i ∈ closure (.ofGrammar g) more) ∧
      (∀ other : List Item, (∀ i, i ∈ other ↔ i ∈ items) →
        closure (.ofGrammar g) other = closure (.ofGrammar g) items) ∧
      ∀ xs ys : List Item,
        (SortedSet.ofList xs : State) = SortedSet.ofList ys ↔ ∀ i, i ∈ xs ↔ i ∈ ys := by
  have d := Grammar.built_declared built
  exact ⟨closure_isClosure d placed, closure_idem, fun _ => closure_mono, fun _ => closure_congr,
    fun _ _ => ofList_eq_iff⟩

/-- A bracket read, with the dot before the brackets inside. -/
def opened : Item := .dotted (.nonterminal "S") [.terminal "a"] [.nonterminal "S", .terminal "b"]

/-- The initial items of `S` are added to an item before `S`, in front of it. The item that comes
twice, and last at first, makes no difference. -/
theorem brackets_closure : Grammar.brackets.Built ∧
    (closure (.ofGrammar .brackets) [opened, .ofProduction ⟨.nonterminal "S", []⟩, opened]).toList =
      [.ofProduction ⟨.nonterminal "S", []⟩,
        .dotted (.nonterminal "S") [] [.terminal "a", .nonterminal "S", .terminal "b"],
        opened] ∧
    closure (.ofGrammar .brackets) [opened, .ofProduction ⟨.nonterminal "S", []⟩, opened] =
      closure (.ofGrammar .brackets) [.ofProduction ⟨.nonterminal "S", []⟩, opened] := by
  have placed : ∀ i ∈ [Item.ofProduction ⟨.nonterminal "S", []⟩, opened], i.Placed := by
    simp [Item.Placed, Item.ofProduction, opened, Item.dotted]
  obtain ⟨_, _, _, congr, _⟩ := closure_least Grammar.brackets_built placed
  refine ⟨Grammar.brackets_built, by decide +kernel, congr _ ?_⟩
  intro i
  simp [or_comm]

end TableParsing
