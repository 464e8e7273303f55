import Mathlib.Data.List.Basic
import Mathlib.Data.List.Count
import Mathlib.Data.List.Induction
import TableParsing.Proofs.Data.Collections

/- What becomes of one cell of a table while claims for it come in. The first claim takes the cell,
   the same claim again changes nothing, and any other claim is refused, unless one of the two
   prevails over the other. A fold that settles claims for many cells treats each cell in this way,
   so what it leaves of a cell can be read off the claims for that cell. -/
namespace TableParsing

/-- What holds a cell, and the refused claims, each behind what held the cell then. -/
structure Contest (ν : Type) where
  holder : Option ν
  refused : List (ν × ν)

namespace Contest

def free {ν : Type} : Contest ν := ⟨none, []⟩

variable {ν : Type} [DecidableEq ν]

/-- Settles one more claim. -/
def claim (prevails : ν → ν → Bool) (c : Contest ν) (new : ν) : Contest ν :=
  match c.holder with
  | none => { c with holder := some new }
  | some existing =>
    if existing = new then c
    else if prevails existing new then c
    else if prevails new existing then { c with holder := some new }
    else { c with refused := c.refused ++ [(existing, new)] }

variable {prevails : ν → ν → Bool} {vs : List ν} {u v : ν}

/-- Everything that one more claim can do. -/
theorem claim_cases (prevails : ν → ν → Bool) (c : Contest ν) (new : ν) :
    c.claim prevails new = ⟨some new, c.refused⟩ ∨ c.claim prevails new = c ∨
      ∃ existing, c.holder = some existing ∧ existing ≠ new ∧ prevails existing new = false ∧
        prevails new existing = false ∧
        c.claim prevails new = ⟨some existing, c.refused ++ [(existing, new)]⟩ := by
  obtain ⟨holder, refused⟩ := c
  unfold claim
  dsimp only
  cases holder with
  | none => exact Or.inl rfl
  | some existing =>
    dsimp only
    by_cases same : existing = new
    · exact Or.inr (Or.inl (if_pos same))
    · cases keeps : prevails existing new with
      | true => exact Or.inr (Or.inl (by simp [same]))
      | false =>
        cases takes : prevails new existing with
        | true => exact Or.inl (by simp [same])
        | false => exact Or.inr (Or.inr ⟨existing, rfl, same, keeps, takes, by simp [same]⟩)

theorem holder_mem (held : (vs.foldl (claim prevails) free).holder = some u) : u ∈ vs := by
  induction vs using List.reverseRecOn with
  | nil => cases held
  | append_singleton before new ih =>
    rw [List.foldl_concat] at held
    apply List.mem_append.mpr
    rcases claim_cases prevails (before.foldl (claim prevails) free) new with
      taken | same | ⟨existing, holder, _, _, _, refuses⟩
    · rw [taken] at held
      cases held
      exact Or.inr List.mem_cons_self
    · rw [same] at held
      exact Or.inl (ih held)
    · rw [refuses] at held
      cases held
      exact Or.inl (ih holder)

/-- A claim is refused by a different one, and neither of the two prevails. -/
theorem refused_sound (noted : (u, v) ∈ (vs.foldl (claim prevails) free).refused) :
    u ∈ vs ∧ v ∈ vs ∧ u ≠ v ∧ prevails u v = false ∧ prevails v u = false := by
  induction vs using List.reverseRecOn with
  | nil => exact absurd noted List.not_mem_nil
  | append_singleton before new ih =>
    -- what has been refused before was refused for a good reason
    have later : (u, v) ∈ (before.foldl (claim prevails) free).refused →
        u ∈ before ++ [new] ∧ v ∈ before ++ [new] ∧ u ≠ v ∧ prevails u v = false ∧
          prevails v u = false := by
      intro old
      obtain ⟨hu, hv, rest⟩ := ih old
      exact ⟨List.mem_append_left _ hu, List.mem_append_left _ hv, rest⟩
    rw [List.foldl_concat] at noted
    rcases claim_cases prevails (before.foldl (claim prevails) free) new with
      taken | same | ⟨existing, holder, apart, keeps, stays, refuses⟩
    · rw [taken] at noted
      exact later noted
    · rw [same] at noted
      exact later noted
    · rw [refuses] at noted
      rcases List.mem_append.mp noted with old | here
      · exact later old
      · obtain ⟨rfl, rfl⟩ := Prod.mk.inj (List.mem_singleton.mp here)
        have earlier := List.mem_append_left [v] (holder_mem holder)
        exact ⟨earlier, by simp, apart, keeps, stays⟩

/-- Where no claim prevails over another, what holds the cell stays there. -/
theorem foldl_claim_held {noted : List (ν × ν)}
    (peaceful : ∀ v ∈ vs, prevails u v = false ∧ prevails v u = false) :
    vs.foldl (claim prevails) ⟨some u, noted⟩ =
      ⟨some u, noted ++ (vs.filter (· ≠ u)).map fun v => (u, v)⟩ := by
  induction vs generalizing noted with
  | nil => simp
  | cons v rest ih =>
    obtain ⟨keeps, stays⟩ := peaceful v List.mem_cons_self
    have others := fun w hw => peaceful w (List.mem_cons_of_mem v hw)
    by_cases same : u = v
    · have unchanged : claim prevails ⟨some u, noted⟩ v = ⟨some u, noted⟩ := if_pos same
      rw [List.foldl_cons, unchanged, ih others, List.filter_cons_of_neg (by simp [same])]
    · have refuses : claim prevails ⟨some u, noted⟩ v = ⟨some u, noted ++ [(u, v)]⟩ := by
        simp [claim, same, keeps, stays]
      rw [List.foldl_cons, refuses, ih others,
        List.filter_cons_of_pos (by simp [Ne.symm same]), List.map_cons, List.append_assoc,
        List.singleton_append]

/-- There the first claim holds the cell and refuses every other. -/
theorem mem_refused_iff (peaceful : ∀ u ∈ vs, ∀ v ∈ vs, prevails u v = false) :
    (u, v) ∈ (vs.foldl (claim prevails) free).refused ↔ vs.head? = some u ∧ v ∈ vs ∧ v ≠ u := by
  cases vs with
  | nil => simp [free]
  | cons w rest =>
    have first : claim prevails free w = ⟨some w, []⟩ := rfl
    have held : ∀ v ∈ rest, prevails w v = false ∧ prevails v w = false := by
      intro v hv
      have later := List.mem_cons_of_mem w hv
      exact ⟨peaceful w List.mem_cons_self v later, peaceful v later w List.mem_cons_self⟩
    rw [List.foldl_cons, first, foldl_claim_held held]
    simp only [List.nil_append, List.mem_map, List.mem_filter, decide_eq_true_eq, Prod.mk.injEq,
      List.head?_cons, Option.some.injEq, List.mem_cons]
    constructor
    · rintro ⟨x, ⟨member, apart⟩, rfl, rfl⟩
      exact ⟨rfl, Or.inr member, apart⟩
    · rintro ⟨rfl, same | member, apart⟩
      · exact absurd same apart
      · exact ⟨v, ⟨member, apart⟩, rfl, rfl⟩

/-- No claim is refused more often than it is made. -/
theorem count_refused_le (prevails : ν → ν → Bool) (vs : List ν) (u v : ν) :
    (vs.foldl (claim prevails) free).refused.count (u, v) ≤ vs.count v := by
  induction vs using List.reverseRecOn with
  | nil => exact Nat.le_refl 0
  | append_singleton before new ih =>
    rw [List.foldl_concat, List.count_append]
    rcases claim_cases prevails (before.foldl (claim prevails) free) new with
      taken | same | ⟨existing, _, _, _, _, refuses⟩
    · rw [taken]
      exact Nat.le_add_right_of_le ih
    · rw [same]
      exact Nat.le_add_right_of_le ih
    · rw [refuses, List.count_append]
      refine Nat.add_le_add ih ?_
      simp only [List.count_singleton, beq_iff_eq, Prod.mk.injEq]
      split
      · rename_i here
        exact Nat.le_of_eq (if_pos here.2).symm
      · exact Nat.zero_le _

/-- Where no claim prevails over another, a refused claim is refused as often as it is made. -/
theorem count_refused (peaceful : ∀ u ∈ vs, ∀ v ∈ vs, prevails u v = false)
    (noted : (u, v) ∈ (vs.foldl (claim prevails) free).refused) :
    (vs.foldl (claim prevails) free).refused.count (u, v) = vs.count v := by
  obtain ⟨first, _, apart⟩ := (mem_refused_iff peaceful).mp noted
  obtain ⟨rest, rfl⟩ := List.head?_eq_some_iff.mp first
  have held : ∀ v ∈ rest, prevails u v = false ∧ prevails v u = false := by
    intro v hv
    have later := List.mem_cons_of_mem u hv
    exact ⟨peaceful u List.mem_cons_self v later, peaceful v later u List.mem_cons_self⟩
  have taken : claim prevails free u = ⟨some u, []⟩ := rfl
  have paired : Function.Injective fun v : ν => (u, v) := fun _ _ same => (Prod.mk.inj same).2
  rw [List.foldl_cons, taken, foldl_claim_held held]
  refine (List.count_map_of_injective _ _ paired v).trans ?_
  rw [List.count_filter (by simpa using apart), List.count_cons_of_ne (Ne.symm apart)]

omit [DecidableEq ν] in
/-- Where each of several sources makes one claim at most, the first claim is that of the first
source that makes one. -/
theorem head?_flatMap_iff {α : Type} {xs : List α} {claims : α → List ν} {calls : α → ν → Prop}
    (own : ∀ x ∈ xs, ∀ v, v ∈ claims x ↔ calls x v)
    (unique : ∀ x ∈ xs, ∀ u v, calls x u → calls x v → u = v) :
    (xs.flatMap claims).head? = some v ↔ ∃ before x after, xs = before ++ x :: after ∧
      calls x v ∧ ∀ y ∈ before, ∀ w, ¬ calls y w := by
  have head : ∀ x ∈ xs, ∀ v, (claims x).head? = some v ↔ calls x v := by
    intro x member v
    constructor
    · intro first
      exact (own x member v).mp (List.mem_of_mem_head? first)
    · intro called
      have claimed := List.ne_nil_of_mem ((own x member v).mpr called)
      obtain ⟨u, first⟩ := Option.isSome_iff_exists.mp (List.isSome_head?.mpr claimed)
      have called' := (own x member u).mp (List.mem_of_mem_head? first)
      rw [first, unique x member u v called' called]
  rw [List.head?_flatMap, List.findSome?_eq_some_iff]
  constructor
  · rintro ⟨before, x, after, rfl, first, others⟩
    refine ⟨before, x, after, rfl, (head x (by simp) v).mp first, ?_⟩
    intro y earlier w called
    have first' := (head y (by simp [earlier]) w).mpr called
    rw [others y earlier] at first'
    cases first'
  · rintro ⟨before, x, after, rfl, called, others⟩
    refine ⟨before, x, after, rfl, (head x (by simp) v).mpr called, ?_⟩
    intro y earlier
    rw [Option.eq_none_iff_forall_ne_some]
    intro w first'
    exact others y earlier w ((head y (by simp [earlier]) w).mp first')

/-- A fold that may fail, seen at one cell: `view` is what becomes of the cell, and `claimed` what a
step claims there. -/
theorem foldlM_contest {ε α β : Type} {f : β → α → Except ε β} {view : β → Contest ν}
    {claimed : α → Option ν}
    (step : ∀ b x next, f b x = .ok next →
      view next = (claimed x).elim (view b) ((view b).claim prevails))
    {xs : List α} {b last : β} (whole : xs.foldlM f b = .ok last) :
    view last = (xs.filterMap claimed).foldl (claim prevails) (view b) := by
  induction xs generalizing b with
  | nil =>
    cases whole
    rfl
  | cons x rest ih =>
    obtain ⟨next, first, later⟩ := foldlM_cons_eq_ok.mp whole
    rw [ih later, step b x next first]
    cases new : claimed x with
    | none => rw [List.filterMap_cons_none new]; rfl
    | some v => rw [List.filterMap_cons_some new]; rfl

end Contest
end TableParsing
