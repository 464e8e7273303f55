import Mathlib.Algebra.Order.BigOperators.Group.List
import Mathlib.Algebra.Order.Ring.Nat
import TableParsing.Proofs.Grammar.Declared
import TableParsing.Sets.Follow

/- Passes that only add. What a pass does is a chain of additions, each of an allowed contribution,
   so a property of all members is kept by a pass if it is kept by a contribution. Every pass that
   adds something makes the family larger, and there are no more symbols than the limit allows for:
   the families that come out are closed under all contributions. -/
namespace TableParsing

namespace Growth

theorem update_not_empty (log : PassLog) (target : Symbol) (more : List Symbol) :
    (log.update target [] (· ++ more)).isEmpty = false := by
  cases h : log.entries with
  | nil => simp [OrderedMap.update, OrderedMap.put, OrderedMap.isEmpty, h, writeEntry]
  | cons e rest =>
    simp only [OrderedMap.update, OrderedMap.put, OrderedMap.isEmpty, h, writeEntry]
    split <;> rfl

theorem mem_getD_add (state : Growth) (target : Symbol) (more : SymbolSet) (s x : Symbol) :
    x ∈ (state.add target more).sets.getD s ∅ ↔
      x ∈ state.sets.getD s ∅ ∨ (s = target ∧ x ∈ more) := by
  unfold add
  dsimp only
  split
  · rename_i empty
    constructor
    · exact Or.inl
    · rintro (old | ⟨rfl, new⟩)
      · exact old
      · have absent := SortedSet.isEmpty_iff.mp empty x
        rw [SortedSet.mem_diff] at absent
        exact Decidable.not_not.mp fun h => absent ⟨new, h⟩
  · rw [OrderedMap.getD_put]
    by_cases same : target = s
    · subst same
      simp only [↓reduceIte, SortedSet.mem_union, SortedSet.mem_diff, true_and]
      by_cases old : x ∈ state.sets.getD target ∅ <;> simp [old]
    · simp [same, Ne.symm same]

theorem add_eq_self_of_log {state : Growth} {target : Symbol} {more : SymbolSet}
    (quiet : (state.add target more).log.isEmpty = true) : state.add target more = state := by
  unfold add at quiet ⊢
  dsimp only at quiet ⊢
  split
  · rfl
  · rename_i some
    rw [if_neg some, update_not_empty] at quiet
    cases quiet

/-- Chains of additions of allowed contributions. -/
inductive Extends (allowed : SymbolSets → Symbol → SymbolSet → Prop) : Growth → Growth → Prop where
  | refl (state : Growth) : Extends allowed state state
  | add {state later : Growth} {target : Symbol} {more : SymbolSet}
      (chain : Extends allowed state later) (may : allowed later.sets target more) :
      Extends allowed state (later.add target more)

theorem Extends.trans {allowed : SymbolSets → Symbol → SymbolSet → Prop} {a b c : Growth}
    (ab : Extends allowed a b) (bc : Extends allowed b c) : Extends allowed a c := by
  induction bc with
  | refl => exact ab
  | add _ may ih => exact ih.add may

theorem Extends.subset {allowed : SymbolSets → Symbol → SymbolSet → Prop} {state later : Growth}
    (chain : Extends allowed state later) {s x : Symbol} (hx : x ∈ state.sets.getD s ∅) :
    x ∈ later.sets.getD s ∅ := by
  induction chain with
  | refl => exact hx
  | add _ _ ih => exact (mem_getD_add _ _ _ s x).mpr (Or.inl ih)

theorem extends_foldl {allowed : SymbolSets → Symbol → SymbolSet → Prop} {α : Type}
    {visit : Growth → α → Growth} {xs : List α}
    (each : ∀ x ∈ xs, ∀ state, Extends allowed state (visit state x)) (state : Growth) :
    Extends allowed state (xs.foldl visit state) := by
  induction xs generalizing state with
  | nil => exact .refl state
  | cons x rest ih =>
    have first := each x List.mem_cons_self state
    have others := ih (fun y hy => each y (List.mem_cons_of_mem x hy)) (visit state x)
    exact first.trans others

/-- Every member of every set of a family has a property. -/
def Holds (P : Symbol → Symbol → Prop) (sets : SymbolSets) : Prop :=
  ∀ s x, x ∈ sets.getD s ∅ → P s x

theorem Extends.holds {allowed : SymbolSets → Symbol → SymbolSet → Prop}
    {P : Symbol → Symbol → Prop}
    (sound : ∀ sets target more, Holds P sets → allowed sets target more → ∀ x ∈ more, P target x)
    {state later : Growth} (chain : Extends allowed state later) (start : Holds P state.sets) :
    Holds P later.sets := by
  induction chain with
  | refl => exact start
  | add _ may ih =>
    intro s x hx
    rcases (mem_getD_add _ _ _ s x).mp hx with old | ⟨rfl, new⟩
    · exact ih s x old
    · exact sound _ _ _ ih may x new

/-- How many members the sets of the declared nonterminals have. -/
def weight (g : Grammar) (sets : SymbolSets) : Nat :=
  (g.nonterminals.toList.map fun s => (sets.getD s ∅).size).sum

theorem add_grows {g : Grammar} {state : Growth} {target : Symbol} {more : SymbolSet}
    (declared : target ∈ g.nonterminals) :
    state.add target more = state ∨
      weight g state.sets < weight g (state.add target more).sets := by
  by_cases all : ∀ x ∈ more, x ∈ state.sets.getD target ∅
  · left
    have empty : (more.diff (state.sets.getD target ∅)).isEmpty = true := by
      rw [SortedSet.isEmpty_iff]
      intro x hx
      rw [SortedSet.mem_diff] at hx
      exact hx.2 (all x hx.1)
    simp only [add, empty, ↓reduceIte]
  · right
    push Not at all
    obtain ⟨x, new, fresh⟩ := all
    have subset : ∀ s, ∀ y ∈ state.sets.getD s ∅, y ∈ (state.add target more).sets.getD s ∅ :=
      fun s y hy => (mem_getD_add state target more s y).mpr (Or.inl hy)
    refine List.sum_lt_sum _ _ ?_ ⟨target, declared, ?_⟩
    · intro s _
      exact SortedSet.size_le_of_subset (subset s)
    · exact SortedSet.size_lt_of_new (subset target)
        ((mem_getD_add state target more target x).mpr (Or.inr ⟨rfl, new⟩)) fresh

theorem Extends.grows {allowed : SymbolSets → Symbol → SymbolSet → Prop} {g : Grammar}
    (declared : ∀ sets target more, allowed sets target more → target ∈ g.nonterminals)
    {state later : Growth} (chain : Extends allowed state later) :
    later = state ∨ weight g state.sets < weight g later.sets := by
  induction chain with
  | refl => exact Or.inl rfl
  | @add later target more _ may ih =>
    rcases @add_grows g later target more (declared _ _ _ may) with same | less
    · rw [same]
      exact ih
    · rcases ih with same | before
      · exact Or.inr (same ▸ less)
      · exact Or.inr (before.trans less)

/-- Every member is a terminal or one further symbol. -/
def Within (g : Grammar) (extra : Symbol) : SymbolSets → Prop :=
  Holds fun _ x => x ∈ g.terminals ∨ x = extra

theorem weight_le {g : Grammar} {extra : Symbol} {sets : SymbolSets}
    (within : Within g extra sets) :
    weight g sets ≤ g.nonterminals.size * (g.terminals.size + 1) := by
  have each : ∀ s, (sets.getD s ∅).size ≤ g.terminals.size + 1 := by
    intro s
    have subset : (sets.getD s ∅).toList ⊆ extra :: g.terminals.toList := by
      intro x hx
      rcases within s x hx with terminal | same
      · exact List.mem_cons_of_mem _ terminal
      · exact same ▸ List.mem_cons_self
    exact (sets.getD s ∅).nodup.length_le_of_subset subset
  unfold weight SortedSet.size at *
  induction g.nonterminals.toList with
  | nil => simp
  | cons s rest ih =>
    simp only [List.map_cons, List.sum_cons, List.length_cons, Nat.succ_mul]
    have := each s
    omega

theorem saturate_keeps {pass : SymbolSets → Growth} {P : SymbolSets → Prop}
    (keeps : ∀ sets, P sets → P (pass sets).sets) (limit : Nat) {sets : SymbolSets}
    (start : P sets) : P (saturate pass limit sets).1 := by
  induction limit generalizing sets with
  | zero => exact start
  | succ limit ih =>
    simp only [saturate]
    split
    · exact start
    · exact ih (keeps sets start)

/-- The loop itself, without a limit: passes are made and logged until one adds nothing. -/
inductive Repeats (pass : SymbolSets → Growth) :
    SymbolSets → SymbolSets → List PassLog → Prop where
  | quiet {sets : SymbolSets} (last : (pass sets).log.isEmpty = true) :
      Repeats pass sets (pass sets).sets []
  | grows {sets final : SymbolSets} {log : List PassLog} (more : (pass sets).log.isEmpty = false)
      (rest : Repeats pass (pass sets).sets final log) :
      Repeats pass sets final ((pass sets).log :: log)

/-- With a limit above all that can be added, the limited loop is the loop itself. -/
theorem saturate_repeats {pass : SymbolSets → Growth} {P : SymbolSets → Prop}
    (measure : SymbolSets → Nat) (bound : Nat) (keeps : ∀ sets, P sets → P (pass sets).sets)
    (same : ∀ sets, (pass sets).log.isEmpty = true → (pass sets).sets = sets)
    (grows : ∀ sets, (pass sets).log.isEmpty = false → measure sets < measure (pass sets).sets)
    (bounded : ∀ sets, P sets → measure sets ≤ bound) (limit : Nat) {sets : SymbolSets}
    (start : P sets) (enough : bound < measure sets + limit) :
    Repeats pass sets (saturate pass limit sets).1 (saturate pass limit sets).2 := by
  induction limit generalizing sets with
  | zero =>
    have := bounded sets start
    omega
  | succ limit ih =>
    unfold saturate
    dsimp only
    split
    · rename_i last
      have done := Repeats.quiet last
      rwa [same sets last] at done
    · rename_i more
      rw [Bool.not_eq_true] at more
      have larger := grows sets more
      exact .grows more (ih (keeps sets start) (by omega))

/-- Where the loop ends, another pass adds nothing. -/
theorem Repeats.ends {pass : SymbolSets → Growth}
    (same : ∀ sets, (pass sets).log.isEmpty = true → (pass sets).sets = sets)
    {sets final : SymbolSets} {log : List PassLog} (loop : Repeats pass sets final log) :
    (pass final).log.isEmpty = true := by
  induction loop with
  | quiet last => rwa [same _ last]
  | grows _ _ ih => exact ih

end Growth
end TableParsing
