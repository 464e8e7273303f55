import TableParsing.Automaton.Closure
import TableParsing.Proofs.Data.Collections
import TableParsing.Proofs.Grammar.Augmented

/- Items with their dot between two parts of a body, and what the closure of a list of items holds:
   the items of the list and everything that they call for, directly or not. The limit on the
   rounds of the closure is large enough, since each item that is queued is new. -/
namespace TableParsing

namespace Item

/-- The item whose dot is between two parts of a body. -/
def dotted (lhs : Symbol) (done todo : List Symbol) : Item := ⟨lhs, done ++ todo, done.length⟩

variable {lhs s : Symbol} {done todo : List Symbol}

@[simp] theorem dotted_lhs : (dotted lhs done todo).lhs = lhs := rfl

@[simp] theorem dotted_rhs : (dotted lhs done todo).rhs = done ++ todo := rfl

theorem ofProduction_eq_dotted (p : Production) : ofProduction p = dotted p.lhs [] p.body := rfl

theorem dotted_inj {lhs' : Symbol} {done' todo' : List Symbol} :
    dotted lhs done todo = dotted lhs' done' todo' ↔ lhs = lhs' ∧ done = done' ∧ todo = todo' := by
  constructor
  · intro same
    simp only [dotted, Item.mk.injEq, Int.natCast_inj] at same
    obtain ⟨left, whole, place⟩ := same
    exact ⟨left, List.append_inj whole place⟩
  · rintro ⟨rfl, rfl, rfl⟩
    rfl

@[simp] theorem next?_dotted_cons : (dotted lhs done (s :: todo)).next? = some s := by
  simp [next?, dotted, resolveIndex]

@[simp] theorem next?_dotted_nil : (dotted lhs done []).next? = none := by
  simp [next?, dotted, resolveIndex]

@[simp] theorem isReduce_dotted : (dotted lhs done todo).isReduce = todo.isEmpty := by
  cases todo with
  | nil => simp [isReduce, dotted]
  | cons s rest =>
    simp only [isReduce, dotted, List.length_append, List.length_cons, List.isEmpty_cons,
      decide_eq_false_iff_not]
    omega

@[simp] theorem advance_dotted :
    (dotted lhs done (s :: todo)).advance = dotted lhs (done ++ [s]) todo := by
  simp [advance, dotted]

theorem mem_withEveryDot {rhs : List Symbol} {i : Item} :
    i ∈ withEveryDot lhs rhs ↔ ∃ done todo, rhs = done ++ todo ∧ i = dotted lhs done todo := by
  simp only [withEveryDot, List.mem_map, List.mem_range]
  constructor
  · rintro ⟨place, lt, rfl⟩
    refine ⟨rhs.take place, rhs.drop place, (List.take_append_drop place rhs).symm, ?_⟩
    simp only [dotted, List.take_append_drop, List.length_take]
    rw [Nat.min_eq_left (by omega)]
  · rintro ⟨done, todo, rfl, rfl⟩
    refine ⟨done.length, ?_, rfl⟩
    rw [List.length_append]
    omega

end Item

variable {a : Augmented}

theorem mem_predictions {i j : Item} :
    j ∈ i.predictions a ↔ ∃ s, i.next? = some s ∧ a.isNonterminal s = true ∧
      ∃ p ∈ a.productionsFor s, j = Item.ofProduction p := by
  unfold Item.predictions
  cases next : i.next? with
  | none => simp
  | some s =>
    by_cases declared : a.isNonterminal s = true
    · simp only [declared, if_true, List.mem_map, Option.some.injEq]
      constructor
      · rintro ⟨p, hp, rfl⟩
        exact ⟨s, rfl, declared, p, hp, rfl⟩
      · rintro ⟨_, rfl, _, p, hp, rfl⟩
        exact ⟨p, hp, rfl⟩
    · simp [declared]

/-- The items that a list of items calls for, directly or not. -/
inductive Called (a : Augmented) (items : List Item) : Item → Prop where
  | given {i : Item} (member : i ∈ items) : Called a items i
  | predicted {i j : Item} (caller : Called a items i) (call : j ∈ i.predictions a) :
      Called a items j

def initialItems (a : Augmented) : State :=
  SortedSet.ofList ((a.startProduction :: a.grammar.productions).map Item.ofProduction)

theorem initialItems_size : (initialItems a).size ≤ a.grammar.productions.length + 1 := by
  have distinct := (initialItems a).nodup
  have le := distinct.length_le_of_subset fun x hx => SortedSet.mem_ofList.mp hx
  simpa [SortedSet.size] using le

theorem mem_initialItems_of_prediction {i j : Item} (call : j ∈ i.predictions a) :
    j ∈ initialItems a := by
  obtain ⟨s, _, _, p, hp, rfl⟩ := mem_predictions.mp call
  refine SortedSet.mem_ofList.mpr (List.mem_map.mpr ⟨p, ?_, rfl⟩)
  unfold Augmented.productionsFor at hp
  split at hp
  · rw [List.mem_singleton.mp hp]
    exact List.mem_cons_self
  · refine List.mem_cons_of_mem _ (Grammar.mem_productions.mpr ?_)
    unfold Grammar.productionsFor OrderedMap.getD at hp
    cases found : a.grammar.rules.get? s with
    | none => simp [found] at hp
    | some ps =>
      refine ⟨(s, ps), OrderedMap.get?_eq_some_iff.mp found, ?_⟩
      simpa [found] using hp

/-- What the rounds keep: everything is called for, and what an item in no queue calls for is
there. -/
structure Underway (a : Augmented) (items queue : List Item) (found : State) : Prop where
  given : ∀ i ∈ items, i ∈ found
  called : ∀ i ∈ found, Called a items i
  queued : ∀ i ∈ queue, i ∈ found
  served : ∀ i ∈ found, i ∈ queue ∨ ∀ j ∈ i.predictions a, j ∈ found

theorem underway_given {items queue : List Item} (all : ∀ i, i ∈ queue ↔ i ∈ items) :
    Underway a items queue (SortedSet.ofList items) where
  given _ member := SortedSet.mem_ofList.mpr member
  called _ member := .given (SortedSet.mem_ofList.mp member)
  queued i waiting := SortedSet.mem_ofList.mpr ((all i).mp waiting)
  served i member := Or.inl ((all i).mpr (SortedSet.mem_ofList.mp member))

theorem Underway.finished {items : List Item} {found : State} (h : Underway a items [] found)
    {i : Item} : i ∈ found ↔ Called a items i := by
  constructor
  · exact h.called i
  · intro called
    induction called with
    | given member => exact h.given _ member
    | predicted _ call ih => exact (h.served _ ih).resolve_left List.not_mem_nil _ call

theorem Underway.round {items queue fresh : List Item} {i : Item} {found : State}
    (h : Underway a items (i :: queue) found)
    (new : ∀ j, j ∈ fresh ↔ j ∈ i.predictions a ∧ j ∉ found) :
    Underway a items (queue ++ fresh) (found.union (SortedSet.ofList fresh)) where
  given j member := SortedSet.mem_union.mpr (Or.inl (h.given j member))
  called := by
    intro j member
    rcases SortedSet.mem_union.mp member with old | added
    · exact h.called j old
    · have call := ((new j).mp (SortedSet.mem_ofList.mp added)).1
      exact .predicted (h.called i (h.queued i List.mem_cons_self)) call
  queued := by
    intro j member
    rw [SortedSet.mem_union, SortedSet.mem_ofList]
    rcases List.mem_append.mp member with waiting | added
    · exact Or.inl (h.queued j (List.mem_cons_of_mem i waiting))
    · exact Or.inr added
  served := by
    intro j member
    simp only [SortedSet.mem_union, SortedSet.mem_ofList, List.mem_append] at member ⊢
    rcases member with old | added
    · rcases h.served j old with waiting | served
      · rcases List.mem_cons.mp waiting with rfl | waiting
        · -- the item of this round: what it calls for is there now
          refine Or.inr fun k call => ?_
          by_cases there : k ∈ found
          · exact Or.inl there
          · exact Or.inr ((new k).mpr ⟨call, there⟩)
        · exact Or.inl (Or.inl waiting)
      · exact Or.inr fun k call => Or.inl (served k call)
    · exact Or.inl (Or.inr added)

/-- What a round adds to the queue is no longer missing. -/
theorem missing_size {queue fresh : List Item} {i : Item} {found : State}
    (distinct : fresh.Nodup) (new : ∀ j, j ∈ fresh ↔ j ∈ i.predictions a ∧ j ∉ found) :
    (queue ++ fresh).length +
        ((initialItems a).diff (found.union (SortedSet.ofList fresh))).size <
      (i :: queue).length + ((initialItems a).diff found).size := by
  have mem_rest : ∀ x, x ∈ (initialItems a).diff (found.union (SortedSet.ofList fresh)) ↔
      x ∈ initialItems a ∧ x ∉ found ∧ x ∉ fresh := by
    intro x
    rw [SortedSet.mem_diff, SortedSet.mem_union, SortedSet.mem_ofList, not_or]
  generalize (initialItems a).diff (found.union (SortedSet.ofList fresh)) = rest at mem_rest ⊢
  have apart : (fresh ++ rest.toList).Nodup := by
    refine List.nodup_append.mpr ⟨distinct, rest.nodup, ?_⟩
    intro x added y out same
    exact ((mem_rest y).mp out).2.2 (same ▸ added)
  have missing : ∀ x ∈ fresh ++ rest.toList, x ∈ ((initialItems a).diff found).toList := by
    intro x member
    refine SortedSet.mem_diff.mpr ?_
    rcases List.mem_append.mp member with added | out
    · obtain ⟨call, absent⟩ := (new x).mp added
      exact ⟨mem_initialItems_of_prediction call, absent⟩
    · obtain ⟨initial, absent, _⟩ := (mem_rest x).mp out
      exact ⟨initial, absent⟩
  have le := apart.length_le_of_subset missing
  simp only [SortedSet.size, List.length_append, List.length_cons] at le ⊢
  omega

/-- With rounds enough for the queue and all that can still be added, nothing waits in the end. -/
theorem Underway.closeFrom {items queue : List Item} {limit : Nat} {found : State}
    (h : Underway a items queue found)
    (enough : queue.length + ((initialItems a).diff found).size ≤ limit) :
    Underway a items [] (closeFrom a limit queue found) := by
  induction limit generalizing queue found with
  | zero =>
    obtain rfl : queue = [] := List.length_eq_zero_iff.mp (by omega)
    exact h
  | succ limit ih =>
    cases queue with
    | nil => exact h
    | cons i queue =>
      have new : ∀ j, j ∈ ((SortedSet.ofList (i.predictions a)).diff found).toList ↔
          j ∈ i.predictions a ∧ j ∉ found := by
        intro j
        rw [← SortedSet.mem_def, SortedSet.mem_diff, SortedSet.mem_ofList]
      have room := @missing_size a queue _ i found (SortedSet.nodup _) new
      have next := h.round new
      rw [SortedSet.ofList_toList] at room next
      exact ih next (by omega)

theorem mem_closure {items : List Item} {i : Item} :
    i ∈ closure a items ↔ Called a items i := by
  have given : Underway a items (SortedSet.ofList items : State).toList (SortedSet.ofList items) :=
    underway_given fun i => SortedSet.mem_ofList
  refine (given.closeFrom ?_).finished
  have size := @initialItems_size a
  have le := SortedSet.size_le_of_subset
    (fun x (hx : x ∈ (initialItems a).diff (SortedSet.ofList items)) =>
      (SortedSet.mem_diff.mp hx).1)
  unfold closureLimit
  unfold SortedSet.size at *
  omega

theorem closure_of_closed {state : State}
    (closed : ∀ i ∈ state, ∀ j ∈ i.predictions a, j ∈ state) : closure a state.toList = state := by
  apply SortedSet.ext
  intro i
  rw [mem_closure]
  constructor
  · intro called
    induction called with
    | given member => exact member
    | predicted _ call ih => exact closed _ ih _ call
  · exact .given

theorem mem_advanceOver {items : List Item} {s : Symbol} {j : Item} :
    j ∈ advanceOver items s ↔
      ∃ i ∈ items, i.isReduce = false ∧ i.next? = some s ∧ j = i.advance := by
  simp only [advanceOver, List.mem_map, List.mem_filter, Bool.and_eq_true, Bool.not_eq_true',
    beq_iff_eq]
  constructor
  · rintro ⟨i, ⟨hi, moves, next⟩, rfl⟩
    exact ⟨i, hi, moves, next, rfl⟩
  · rintro ⟨i, hi, moves, next, rfl⟩
    exact ⟨i, ⟨hi, moves, next⟩, rfl⟩

theorem mem_goto {items : List Item} {s : Symbol} {i : Item} :
    i ∈ goto a items s ↔ Called a (advanceOver items s) i := by
  unfold goto
  split
  · rename_i none
    rw [none]
    constructor
    · intro hi
      exact absurd hi SortedSet.not_mem_empty
    · intro hi
      induction hi with
      | given member => exact absurd member List.not_mem_nil
      | predicted _ _ ih => exact absurd ih SortedSet.not_mem_empty
  · exact mem_closure

end TableParsing
