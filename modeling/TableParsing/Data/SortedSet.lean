/-!
Finite sets kept as strictly increasing lists. The order is part of the type, so a set has one
representation: two sets with the same members are equal (`SortedSet.ext`), and reading a set out
needs no sorting. Main statements: `mem_insert`, `mem_union`, `mem_diff`, `mem_erase` and
`mem_ofList` say what each operation does to the members.
-/

namespace TableParsing
open Std

variable {α : Type} [Ord α]

def insertSorted (a : α) : List α → List α
  | [] => [a]
  | b :: rest =>
    match compare a b with
    | .lt => a :: b :: rest
    | .eq => b :: rest
    | .gt => b :: insertSorted a rest

def StrictlySorted (xs : List α) : Prop := xs.Pairwise (fun a b => compare a b = .lt)

theorem mem_insertSorted [LawfulEqOrd α] {a x : α} {xs : List α} :
    x ∈ insertSorted a xs ↔ x = a ∨ x ∈ xs := by
  induction xs with
  | nil => simp [insertSorted]
  | cons b rest ih =>
    cases h : compare a b with
    | lt => simp [insertSorted, h]
    | eq =>
      have same : a = b := LawfulEqOrd.eq_of_compare h
      simp [insertSorted, same]
    | gt =>
      simp only [insertSorted, h, List.mem_cons, ih]
      constructor
      · rintro (h | h | h) <;> simp [h]
      · rintro (h | h | h) <;> simp [h]

theorem strictlySorted_insertSorted [TransOrd α] [LawfulEqOrd α] {a : α} {xs : List α}
    (h : StrictlySorted xs) : StrictlySorted (insertSorted a xs) := by
  induction xs with
  | nil => simp [insertSorted, StrictlySorted]
  | cons b rest ih =>
    simp only [StrictlySorted, List.pairwise_cons] at h
    cases hab : compare a b with
    | lt =>
      simp only [insertSorted, hab, StrictlySorted, List.pairwise_cons, List.mem_cons]
      refine ⟨?_, h⟩
      rintro x (rfl | hx)
      · exact hab
      · exact TransCmp.lt_trans hab (h.1 x hx)
    | eq =>
      simp only [insertSorted, hab, StrictlySorted, List.pairwise_cons]
      exact h
    | gt =>
      simp only [insertSorted, hab, StrictlySorted, List.pairwise_cons]
      refine ⟨?_, ih h.2⟩
      intro x hx
      rcases mem_insertSorted.mp hx with rfl | hx
      · exact OrientedCmp.lt_of_gt hab
      · exact h.1 x hx

/-- Takes from a strictly increasing list what comes before `x`, then `x`, and leaves the rest to
`others`. -/
def mergeAhead (x : α) (others : List α → List α) : List α → List α
  | [] => x :: others []
  | y :: ys =>
    match compare x y with
    | .lt => x :: others (y :: ys)
    | .eq => x :: others ys
    | .gt => y :: mergeAhead x others ys

def mergeSorted : List α → List α → List α
  | [], ys => ys
  | x :: xs, ys => mergeAhead x (mergeSorted xs) ys

/-- Keeps `x` unless it is in a strictly increasing list, and leaves the rest of that list to
`others`. -/
def diffAhead (x : α) (others : List α → List α) : List α → List α
  | [] => x :: others []
  | y :: ys =>
    match compare x y with
    | .lt => x :: others (y :: ys)
    | .eq => others ys
    | .gt => diffAhead x others ys

def diffSorted : List α → List α → List α
  | [], _ => []
  | x :: xs, ys => diffAhead x (diffSorted xs) ys

theorem mem_mergeAhead [LawfulEqOrd α] {x z : α} {xs ys : List α} {others : List α → List α}
    (h : ∀ ys, z ∈ others ys ↔ z ∈ xs ∨ z ∈ ys) :
    z ∈ mergeAhead x others ys ↔ z ∈ x :: xs ∨ z ∈ ys := by
  induction ys with
  | nil => simp [mergeAhead, h]
  | cons y ys ih =>
    cases hxy : compare x y with
    | lt => grind [mergeAhead]
    | eq =>
      have same : x = y := LawfulEqOrd.eq_of_compare hxy
      grind [mergeAhead]
    | gt => grind [mergeAhead]

theorem mem_mergeSorted [LawfulEqOrd α] {z : α} {xs ys : List α} :
    z ∈ mergeSorted xs ys ↔ z ∈ xs ∨ z ∈ ys := by
  induction xs generalizing ys with
  | nil => simp [mergeSorted]
  | cons x xs ih => exact mem_mergeAhead fun ys => ih

theorem strictlySorted_mergeAhead [TransOrd α] [LawfulEqOrd α] {x : α} {xs ys : List α}
    {others : List α → List α} (mem : ∀ z ys, z ∈ others ys ↔ z ∈ xs ∨ z ∈ ys)
    (sorted : ∀ ys, StrictlySorted ys → StrictlySorted (others ys))
    (hx : StrictlySorted (x :: xs)) (hy : StrictlySorted ys) :
    StrictlySorted (mergeAhead x others ys) := by
  have below : ∀ z ∈ xs, compare x z = .lt := (List.pairwise_cons.mp hx).1
  induction ys with
  | nil =>
    refine List.pairwise_cons.mpr ⟨?_, sorted [] hy⟩
    intro z hz
    rcases (mem z []).mp hz with hz | hz
    · exact below z hz
    · exact absurd hz List.not_mem_nil
  | cons y ys ih =>
    have above := (List.pairwise_cons.mp hy).1
    have rest := (List.pairwise_cons.mp hy).2
    cases hxy : compare x y with
    | lt =>
      simp only [mergeAhead, hxy]
      refine List.pairwise_cons.mpr ⟨?_, sorted _ hy⟩
      intro z hz
      rcases (mem z _).mp hz with hz | hz
      · exact below z hz
      · rcases List.mem_cons.mp hz with rfl | hz
        · exact hxy
        · exact TransCmp.lt_trans hxy (above z hz)
    | eq =>
      have same : x = y := LawfulEqOrd.eq_of_compare hxy
      simp only [mergeAhead, hxy]
      refine List.pairwise_cons.mpr ⟨?_, sorted _ rest⟩
      intro z hz
      rcases (mem z _).mp hz with hz | hz
      · exact below z hz
      · exact same ▸ above z hz
    | gt =>
      have hyx : compare y x = .lt := OrientedCmp.lt_of_gt hxy
      simp only [mergeAhead, hxy]
      refine List.pairwise_cons.mpr ⟨?_, ih rest⟩
      intro z hz
      rcases (mem_mergeAhead (mem z)).mp hz with hz | hz
      · rcases List.mem_cons.mp hz with rfl | hz
        · exact hyx
        · exact TransCmp.lt_trans hyx (below z hz)
      · exact above z hz

theorem strictlySorted_mergeSorted [TransOrd α] [LawfulEqOrd α] {xs ys : List α}
    (hx : StrictlySorted xs) (hy : StrictlySorted ys) : StrictlySorted (mergeSorted xs ys) := by
  induction xs generalizing ys with
  | nil => exact hy
  | cons x xs ih =>
    exact strictlySorted_mergeAhead (fun _ _ => mem_mergeSorted)
      (fun _ => ih (List.pairwise_cons.mp hx).2) hx hy

theorem diffAhead_sublist {x : α} {xs ys : List α} {others : List α → List α}
    (h : ∀ ys, (others ys).Sublist xs) : (diffAhead x others ys).Sublist (x :: xs) := by
  induction ys with
  | nil => exact (h []).cons_cons x
  | cons y ys ih =>
    cases hxy : compare x y with
    | lt => simpa only [diffAhead, hxy] using (h (y :: ys)).cons_cons x
    | eq => simpa only [diffAhead, hxy] using (h ys).cons x
    | gt => simpa only [diffAhead, hxy] using ih

theorem diffSorted_sublist {xs ys : List α} : (diffSorted xs ys).Sublist xs := by
  induction xs generalizing ys with
  | nil => exact List.nil_sublist []
  | cons x xs ih => exact diffAhead_sublist fun _ => ih

theorem mem_diffAhead [TransOrd α] [LawfulEqOrd α] {x z : α} {xs ys : List α}
    {others : List α → List α}
    (h : ∀ ys, StrictlySorted ys → (z ∈ others ys ↔ z ∈ xs ∧ z ∉ ys))
    (hx : StrictlySorted (x :: xs)) (hy : StrictlySorted ys) :
    z ∈ diffAhead x others ys ↔ z ∈ x :: xs ∧ z ∉ ys := by
  have irrefl : ∀ a : α, compare a a ≠ .lt := by
    intro a ha
    rw [@ReflCmp.compare_self α compare _ a] at ha
    cases ha
  have below : ∀ z ∈ xs, compare x z = .lt := (List.pairwise_cons.mp hx).1
  induction ys with
  | nil => simp [diffAhead, h [] hy]
  | cons y ys ih =>
    have above := (List.pairwise_cons.mp hy).1
    have rest := (List.pairwise_cons.mp hy).2
    cases hxy : compare x y with
    | lt =>
      have apart : x ∉ y :: ys := by
        intro hm
        rcases List.mem_cons.mp hm with rfl | hm
        · exact irrefl _ hxy
        · exact irrefl _ (TransCmp.lt_trans hxy (above x hm))
      simp only [diffAhead, hxy, List.mem_cons, h _ hy]
      grind
    | eq =>
      have same : x = y := LawfulEqOrd.eq_of_compare hxy
      have apart : x ∉ xs := fun hm => irrefl _ (below x hm)
      simp only [diffAhead, hxy, List.mem_cons, h _ rest]
      grind
    | gt =>
      have hyx : compare y x = .lt := OrientedCmp.lt_of_gt hxy
      have apart : y ∉ x :: xs := by
        intro hm
        rcases List.mem_cons.mp hm with rfl | hm
        · exact irrefl _ hyx
        · exact irrefl _ (TransCmp.lt_trans hyx (below y hm))
      simp only [diffAhead, hxy]
      refine (ih rest).trans ?_
      grind

theorem mem_diffSorted [TransOrd α] [LawfulEqOrd α] {z : α} {xs ys : List α}
    (hx : StrictlySorted xs) (hy : StrictlySorted ys) :
    z ∈ diffSorted xs ys ↔ z ∈ xs ∧ z ∉ ys := by
  induction xs generalizing ys with
  | nil => simp [diffSorted]
  | cons x xs ih => exact mem_diffAhead (fun _ => ih (List.pairwise_cons.mp hx).2) hx hy

structure SortedSet (α : Type) [Ord α] where
  toList : List α
  sorted : StrictlySorted toList

namespace SortedSet

instance : Membership α (SortedSet α) := ⟨fun s a => a ∈ s.toList⟩

theorem mem_def {a : α} {s : SortedSet α} : a ∈ s ↔ a ∈ s.toList := Iff.rfl

instance [DecidableEq α] : DecidableEq (SortedSet α) := fun s t =>
  if h : s.toList = t.toList then isTrue (by cases s; cases t; simp_all)
  else isFalse (fun e => h (e ▸ rfl))

instance [DecidableEq α] (a : α) (s : SortedSet α) : Decidable (a ∈ s) :=
  inferInstanceAs (Decidable (a ∈ s.toList))

def empty : SortedSet α := ⟨[], .nil⟩

instance : EmptyCollection (SortedSet α) := ⟨empty⟩
instance : Inhabited (SortedSet α) := ⟨empty⟩

def size (s : SortedSet α) : Nat := s.toList.length

def isEmpty (s : SortedSet α) : Bool := s.toList.isEmpty

@[simp] theorem not_mem_empty {a : α} : a ∉ (∅ : SortedSet α) := List.not_mem_nil

def singleton (a : α) : SortedSet α := ⟨[a], List.pairwise_singleton _ a⟩

@[simp] theorem mem_singleton {a x : α} : x ∈ singleton a ↔ x = a := List.mem_singleton

def filter (s : SortedSet α) (keep : α → Bool) : SortedSet α :=
  ⟨s.toList.filter keep, s.sorted.filter keep⟩

def erase [DecidableEq α] (s : SortedSet α) (a : α) : SortedSet α := s.filter (· ≠ a)

@[simp] theorem mem_filter {s : SortedSet α} {keep : α → Bool} {x : α} :
    x ∈ s.filter keep ↔ x ∈ s ∧ keep x = true := by
  simp [mem_def, filter]

@[simp] theorem mem_erase [DecidableEq α] {s : SortedSet α} {a x : α} :
    x ∈ s.erase a ↔ x ∈ s ∧ x ≠ a := by
  simp [erase]

variable [TransOrd α] [LawfulEqOrd α]

def insert (s : SortedSet α) (a : α) : SortedSet α :=
  ⟨insertSorted a s.toList, strictlySorted_insertSorted s.sorted⟩

def union (s t : SortedSet α) : SortedSet α :=
  ⟨mergeSorted s.toList t.toList, strictlySorted_mergeSorted s.sorted t.sorted⟩

def diff (s t : SortedSet α) : SortedSet α :=
  ⟨diffSorted s.toList t.toList, s.sorted.sublist diffSorted_sublist⟩

def unitePairs : List (SortedSet α) → List (SortedSet α)
  | s :: t :: rest => s.union t :: unitePairs rest
  | sets => sets

/-- The members of all sets: in each of some rounds neighbours are united, and what is left then is
united in one go. -/
def unite : Nat → List (SortedSet α) → SortedSet α
  | 0, sets => sets.foldr union ∅
  | rounds + 1, sets => unite rounds (unitePairs sets)

def ofList (xs : List α) : SortedSet α := unite (xs.length.log2 + 1) (xs.map singleton)

@[simp] theorem mem_insert {s : SortedSet α} {a x : α} : x ∈ s.insert a ↔ x = a ∨ x ∈ s :=
  mem_insertSorted

theorem mem_foldl_insert {xs : List α} {s : SortedSet α} {x : α} :
    x ∈ xs.foldl insert s ↔ x ∈ s ∨ x ∈ xs := by
  induction xs generalizing s with
  | nil => simp
  | cons a rest ih =>
    simp only [List.foldl_cons, ih, mem_insert, List.mem_cons]
    constructor
    · rintro ((h | h) | h) <;> simp [h]
    · rintro (h | h | h) <;> simp [h]

@[simp] theorem mem_union {s t : SortedSet α} {x : α} : x ∈ s.union t ↔ x ∈ s ∨ x ∈ t :=
  mem_mergeSorted

@[simp] theorem mem_diff {s t : SortedSet α} {x : α} : x ∈ s.diff t ↔ x ∈ s ∧ x ∉ t :=
  mem_diffSorted s.sorted t.sorted

theorem mem_unitePairs {sets : List (SortedSet α)} {x : α} :
    (∃ s ∈ unitePairs sets, x ∈ s) ↔ ∃ s ∈ sets, x ∈ s := by
  fun_induction unitePairs sets with
  | case1 s t rest ih =>
    have here : x ∈ s.union t ↔ x ∈ s ∨ x ∈ t := mem_union
    grind
  | case2 sets => rfl

theorem mem_unite {rounds : Nat} {sets : List (SortedSet α)} {x : α} :
    x ∈ unite rounds sets ↔ ∃ s ∈ sets, x ∈ s := by
  induction rounds generalizing sets with
  | zero =>
    rw [unite]
    induction sets with
    | nil => simp
    | cons s rest ih =>
      rw [List.foldr_cons, mem_union, ih]
      grind
  | succ rounds ih => rw [unite, ih, mem_unitePairs]

@[simp] theorem mem_ofList {xs : List α} {x : α} : x ∈ ofList xs ↔ x ∈ xs := by
  simp only [ofList, mem_unite, List.mem_map]
  constructor
  · rintro ⟨_, ⟨a, ha, rfl⟩, hx⟩
    exact mem_singleton.mp hx ▸ ha
  · exact fun h => ⟨_, ⟨x, h, rfl⟩, mem_singleton.mpr rfl⟩

theorem strictlySorted_ext {xs ys : List α} (hx : StrictlySorted xs) (hy : StrictlySorted ys)
    (same : ∀ a, a ∈ xs ↔ a ∈ ys) : xs = ys := by
  have irrefl : ∀ a : α, compare a a ≠ .lt := by
    intro a h
    rw [@ReflCmp.compare_self α compare _ a] at h
    cases h
  induction xs generalizing ys with
  | nil =>
    cases ys with
    | nil => rfl
    | cons b _ => exact absurd ((same b).mpr List.mem_cons_self) List.not_mem_nil
  | cons a xs ih =>
    cases ys with
    | nil => exact absurd ((same a).mp List.mem_cons_self) List.not_mem_nil
    | cons b ys =>
      simp only [StrictlySorted, List.pairwise_cons] at hx hy
      have head : a = b := by
        rcases List.mem_cons.mp ((same a).mp List.mem_cons_self) with h | h
        · exact h
        · rcases List.mem_cons.mp ((same b).mpr List.mem_cons_self) with h' | h'
          · exact h'.symm
          · exact absurd (TransCmp.lt_trans (hx.1 b h') (hy.1 a h)) (irrefl a)
      subst head
      congr 1
      refine ih hx.2 hy.2 ?_
      intro c
      have hc := same c
      simp only [List.mem_cons] at hc
      constructor
      · intro h
        rcases hc.mp (.inr h) with rfl | h'
        · exact absurd (hx.1 c h) (irrefl c)
        · exact h'
      · intro h
        rcases hc.mpr (.inr h) with rfl | h'
        · exact absurd (hy.1 c h) (irrefl c)
        · exact h'

theorem ext {s t : SortedSet α} (h : ∀ a, a ∈ s ↔ a ∈ t) : s = t := by
  have same := strictlySorted_ext s.sorted t.sorted h
  cases s
  cases t
  simp_all

end SortedSet
end TableParsing
