import TableParsing.Data.OrderedMap
import TableParsing.Data.SortedSet

/- What the entries of an ordered map are after a write, what the members of a sorted set say about
   its size, and when a fold whose steps may fail goes through. -/
namespace TableParsing

theorem exists_ok_of_any {ε α : Type} {x : Except ε α} {check : α → Bool}
    (h : x.toOption.any check = true) : ∃ a, x = .ok a ∧ check a = true := by
  cases x with
  | error e => cases h
  | ok a => exact ⟨a, rfl, h⟩

theorem not_exists_ok {ε α : Type} {x : Except ε α} (h : x.toOption.isNone = true) :
    ¬ ∃ a, x = .ok a := by
  rintro ⟨a, rfl⟩
  cases h

theorem foldlM_cons_eq_ok {ε α β : Type} {f : β → α → Except ε β} {b last : β} {x : α}
    {rest : List α} : (x :: rest).foldlM f b = .ok last ↔
      ∃ next, f b x = .ok next ∧ rest.foldlM f next = .ok last := by
  rw [List.foldlM_cons]
  constructor
  · intro whole
    cases first : f b x with
    | error e =>
      rw [first] at whole
      cases whole
    | ok next =>
      rw [first] at whole
      exact ⟨next, rfl, whole⟩
  · rintro ⟨next, first, later⟩
    rw [first]
    exact later

theorem mapM_cons_eq_ok {ε α β : Type} {f : α → Except ε β} {x : α} {rest : List α}
    {ys : List β} : (x :: rest).mapM f = .ok ys ↔
      ∃ y later, f x = .ok y ∧ rest.mapM f = .ok later ∧ ys = y :: later := by
  rw [List.mapM_cons]
  cases f x with
  | error e => exact ⟨nofun, nofun⟩
  | ok y =>
    cases rest.mapM f with
    | error e => exact ⟨nofun, nofun⟩
    | ok later =>
      constructor
      · rintro ⟨⟩
        exact ⟨y, later, rfl, rfl, rfl⟩
      · rintro ⟨_, _, ⟨⟩, ⟨⟩, rfl⟩
        rfl

theorem exists_of_mem_mapM {ε α β : Type} {f : α → Except ε β} {xs : List α} {ys : List β}
    (made : xs.mapM f = .ok ys) {y : β} (member : y ∈ ys) : ∃ x ∈ xs, f x = .ok y := by
  induction xs generalizing ys with
  | nil =>
    obtain rfl := Except.ok.inj made
    exact absurd member List.not_mem_nil
  | cons x rest ih =>
    obtain ⟨first, later, here, others, rfl⟩ := mapM_cons_eq_ok.mp made
    rcases List.mem_cons.mp member with rfl | there
    · exact ⟨x, List.mem_cons_self, here⟩
    · obtain ⟨x', behind, found⟩ := ih others there
      exact ⟨x', List.mem_cons_of_mem x behind, found⟩

/-- A fold that goes through makes something on its way to each step, and takes the step there. -/
theorem foldlM_ok_split {ε α β : Type} {f : β → α → Except ε β} {b last : β}
    {before after : List α} {x : α} (h : (before ++ x :: after).foldlM f b = .ok last) :
    ∃ e next, before.foldlM f b = .ok e ∧ f e x = .ok next := by
  rw [List.foldlM_append] at h
  cases reached : before.foldlM f b with
  | error failed =>
    rw [reached] at h
    cases h
  | ok e =>
    rw [reached] at h
    change (x :: after).foldlM f e = .ok last at h
    rw [List.foldlM_cons] at h
    cases step : f e x with
    | error failed =>
      rw [step] at h
      cases h
    | ok next => exact ⟨e, next, rfl, step⟩

/-- A fold goes through if each step does, on what the steps before it have made. -/
theorem exists_foldlM_ok {ε α β : Type} {f : β → α → Except ε β} {b : β} {xs : List α}
    (each : ∀ before x after, xs = before ++ x :: after → ∀ e, before.foldlM f b = .ok e →
      ∃ next, f e x = .ok next) : ∃ e, xs.foldlM f b = .ok e := by
  induction xs generalizing b with
  | nil => exact ⟨b, rfl⟩
  | cons x rest ih =>
    obtain ⟨next, first⟩ := each [] x rest rfl b rfl
    rw [List.foldlM_cons, first]
    refine ih ?_
    intro before y after split e reached
    refine each (x :: before) y after (by rw [split]; rfl) e ?_
    rw [List.foldlM_cons, first]
    exact reached

/-- A fold that fails does so at one step, on what the steps before it have made. -/
theorem foldlM_error_split {ε α β : Type} {f : β → α → Except ε β} {b : β} {xs : List α}
    {failed : ε} (h : xs.foldlM f b = .error failed) : ∃ before x after e,
      xs = before ++ x :: after ∧ before.foldlM f b = .ok e ∧ f e x = .error failed := by
  induction xs generalizing b with
  | nil => cases h
  | cons x rest ih =>
    rw [List.foldlM_cons] at h
    cases first : f b x with
    | error other =>
      rw [first] at h
      cases h
      exact ⟨[], x, rest, b, rfl, rfl, first⟩
    | ok next =>
      rw [first] at h
      obtain ⟨before, y, after, e, split, reached, fails⟩ := ih h
      refine ⟨x :: before, y, after, e, by rw [split]; rfl, ?_, fails⟩
      rw [List.foldlM_cons, first]
      exact reached

/-- Of two different members of a list, one comes before the other. -/
theorem exists_split_of_mem {α : Type} {x y : α} {xs : List α} (hx : x ∈ xs) (hy : y ∈ xs)
    (ne : x ≠ y) : (∃ before after, xs = before ++ y :: after ∧ x ∈ before) ∨
      ∃ before after, xs = before ++ x :: after ∧ y ∈ before := by
  obtain ⟨before, after, rfl⟩ := List.append_of_mem hx
  rcases List.mem_append.mp hy with first | later
  · exact Or.inr ⟨before, after, rfl, first⟩
  · have later := (List.mem_cons.mp later).resolve_left ne.symm
    obtain ⟨between, rest, rfl⟩ := List.append_of_mem later
    refine Or.inl ⟨before ++ x :: between, rest, by simp, ?_⟩
    exact List.mem_append_right _ List.mem_cons_self

/-- A member of two lists in a row is in the first or in the second. -/
theorem exists_cut {α : Type} {first second before after : List α} {x : α}
    (h : first ++ second = before ++ x :: after) :
    (∃ between, first = before ++ x :: between ∧ after = between ++ second) ∨
      ∃ between, second = between ++ x :: after ∧ before = first ++ between := by
  rcases List.append_eq_append_iff.mp h with ⟨between, front, back⟩ | ⟨between, front, back⟩
  · exact Or.inr ⟨between, back, front⟩
  · cases between with
    | nil => exact Or.inr ⟨[], by simpa using back.symm, by simpa using front.symm⟩
    | cons y between =>
      obtain ⟨rfl, rfl⟩ := List.cons.inj back
      exact Or.inl ⟨between, front, rfl⟩

theorem foldl_max_le {xs : List Nat} {m : Nat} :
    m ≤ xs.foldl max m ∧ ∀ x ∈ xs, x ≤ xs.foldl max m := by
  induction xs generalizing m with
  | nil => simp
  | cons y ys ih =>
    obtain ⟨start, each⟩ := @ih (max m y)
    rw [List.foldl_cons]
    refine ⟨by omega, ?_⟩
    intro x hx
    rcases List.mem_cons.mp hx with rfl | hx
    · omega
    · exact each x hx

theorem foldl_max_mem {xs : List Nat} {m : Nat} : xs.foldl max m = m ∨ xs.foldl max m ∈ xs := by
  induction xs generalizing m with
  | nil => exact Or.inl rfl
  | cons y ys ih =>
    rw [List.foldl_cons, List.mem_cons]
    rcases ih with start | later
    · rw [start]
      omega
    · exact Or.inr (Or.inr later)

namespace SortedSet
open Std

variable {α : Type} [Ord α] {s t : SortedSet α}

theorem isEmpty_iff : s.isEmpty = true ↔ ∀ x, x ∉ s := by
  simp only [isEmpty, List.isEmpty_iff, List.eq_nil_iff_forall_not_mem, mem_def]

variable [LawfulEqOrd α]

theorem nodup (s : SortedSet α) : s.toList.Nodup := by
  refine s.sorted.imp ?_
  intro a b less same
  subst same
  rw [@ReflCmp.compare_self α compare _ a] at less
  cases less

theorem size_le_of_subset (h : ∀ x ∈ s, x ∈ t) : s.size ≤ t.size :=
  s.nodup.length_le_of_subset h

theorem size_lt_of_new (h : ∀ x ∈ s, x ∈ t) {x : α} (there : x ∈ t) (new : x ∉ s) :
    s.size < t.size := by
  have larger : (x :: s.toList).length ≤ t.toList.length := by
    refine (List.nodup_cons.mpr ⟨new, s.nodup⟩).length_le_of_subset ?_
    intro y hy
    rcases List.mem_cons.mp hy with rfl | hy
    · exact there
    · exact h y hy
  exact larger

theorem ofList_toList [TransOrd α] (s : SortedSet α) : ofList s.toList = s :=
  ext fun _ => mem_ofList

end SortedSet

variable {κ ν : Type} [DecidableEq κ]

theorem mem_writeEntry {k : κ} {v : ν} {es : List (κ × ν)} (keys : (es.map Prod.fst).Nodup)
    (e : κ × ν) : e ∈ writeEntry k v es ↔ e = (k, v) ∨ (e ∈ es ∧ e.1 ≠ k) := by
  induction es with
  | nil => simp [writeEntry]
  | cons d rest ih =>
    simp only [List.map_cons, List.nodup_cons] at keys
    by_cases same : d.1 = k
    · have absent : ∀ c ∈ rest, c.1 ≠ k := by
        intro c hc eq
        exact keys.1 (List.mem_map.mpr ⟨c, hc, eq.trans same.symm⟩)
      simp only [writeEntry, same, ↓reduceIte, List.mem_cons]
      constructor
      · rintro (h | h)
        · exact Or.inl h
        · exact Or.inr ⟨Or.inr h, absent e h⟩
      · rintro (h | ⟨h | h, ne⟩)
        · exact Or.inl h
        · exact absurd (h ▸ same) ne
        · exact Or.inr h
    · simp only [writeEntry, same, ↓reduceIte, List.mem_cons, ih keys.2]
      constructor
      · rintro (h | h | ⟨h, ne⟩)
        · exact Or.inr ⟨Or.inl h, h ▸ same⟩
        · exact Or.inl h
        · exact Or.inr ⟨Or.inr h, ne⟩
      · rintro (h | ⟨h | h, ne⟩)
        · exact Or.inr (Or.inl h)
        · exact Or.inl h
        · exact Or.inr (Or.inr ⟨h, ne⟩)

theorem writeEntry_of_absent {k : κ} {v : ν} {es : List (κ × ν)} (absent : k ∉ es.map Prod.fst) :
    writeEntry k v es = es ++ [(k, v)] := by
  induction es with
  | nil => rfl
  | cons d rest ih =>
    obtain ⟨apart, absent'⟩ := not_or.mp (absent ∘ List.mem_cons.mpr)
    rw [writeEntry, if_neg (Ne.symm apart), ih absent', List.cons_append]

theorem findEntry_of_absent {k : κ} {es : List (κ × ν)} (absent : k ∉ es.map Prod.fst) :
    findEntry k es = none := by
  induction es with
  | nil => rfl
  | cons d rest ih =>
    obtain ⟨apart, absent'⟩ := not_or.mp (absent ∘ List.mem_cons.mpr)
    rw [findEntry, if_neg (Ne.symm apart), ih absent']

theorem findEntry_eq_some_iff {k : κ} {v : ν} {es : List (κ × ν)}
    (keys : (es.map Prod.fst).Nodup) : findEntry k es = some v ↔ (k, v) ∈ es := by
  induction es with
  | nil => simp [findEntry]
  | cons d rest ih =>
    simp only [List.map_cons, List.nodup_cons] at keys
    by_cases same : d.1 = k
    · have absent : (k, v) ∉ rest := fun h => keys.1 (List.mem_map.mpr ⟨(k, v), h, same.symm⟩)
      simp only [findEntry, same, ↓reduceIte, Option.some.injEq, List.mem_cons, absent, or_false]
      constructor
      · intro eq
        exact Prod.ext same.symm eq.symm
      · intro eq
        rw [← eq]
    · have apart : (k, v) ≠ d := fun eq => same (eq ▸ rfl)
      simp [findEntry, same, apart, ih keys.2]

namespace OrderedMap

theorem get?_eq_some_iff {m : OrderedMap κ ν} {k : κ} {v : ν} :
    m.get? k = some v ↔ (k, v) ∈ m.entries :=
  findEntry_eq_some_iff m.nodup

theorem mem_keys {m : OrderedMap κ ν} {k : κ} : k ∈ m.keys ↔ ∃ v, m.get? k = some v := by
  simp only [keys, List.mem_map, get?_eq_some_iff]
  constructor
  · rintro ⟨e, he, rfl⟩
    exact ⟨e.2, he⟩
  · rintro ⟨v, hv⟩
    exact ⟨(k, v), hv, rfl⟩

/-- A map is known by the order of its keys and what it holds at each of them. -/
theorem eq_of_get? {m other : OrderedMap κ ν} (keys : m.keys = other.keys)
    (same : ∀ k ∈ m.keys, m.get? k = other.get? k) : m = other := by
  have length : m.entries.length = other.entries.length := by
    simpa [OrderedMap.keys] using congrArg List.length keys
  have entries : m.entries = other.entries := by
    refine List.ext_getElem length ?_
    intro i h h'
    have key : m.entries[i].1 = other.entries[i].1 := by
      have at_i := congrArg (·[i]?) keys
      simpa [OrderedMap.keys, h, h'] using at_i
    have here : m.get? m.entries[i].1 = some m.entries[i].2 :=
      get?_eq_some_iff.mpr (List.getElem_mem h)
    have there : other.get? other.entries[i].1 = some other.entries[i].2 :=
      get?_eq_some_iff.mpr (List.getElem_mem h')
    rw [same _ (mem_keys.mpr ⟨_, here⟩), key] at here
    exact Prod.ext key (Option.some.inj (here.symm.trans there))
  cases m
  cases other
  cases entries
  rfl

theorem mem_entries_put {m : OrderedMap κ ν} {k : κ} {v : ν} (e : κ × ν) :
    e ∈ (m.put k v).entries ↔ e = (k, v) ∨ (e ∈ m.entries ∧ e.1 ≠ k) :=
  mem_writeEntry m.nodup e

theorem getD_put (m : OrderedMap κ ν) (k q : κ) (v d : ν) :
    (m.put k v).getD q d = if k = q then v else m.getD q d := by
  simp only [getD, get?_put]
  split <;> rfl

theorem contains_iff {m : OrderedMap κ ν} {k : κ} : m.contains k = true ↔ k ∈ m.keys := by
  rw [contains, Option.isSome_iff_exists, mem_keys]

theorem getD_eq_default {m : OrderedMap κ ν} {k : κ} (absent : k ∉ m.keys) (d : ν) :
    m.getD k d = d := by
  rw [getD, get?, findEntry_of_absent absent]
  rfl

theorem mem_getD_iff {α : Type} {m : OrderedMap κ (List α)} {k : κ} {x : α} :
    x ∈ m.getD k [] ↔ ∃ xs, (k, xs) ∈ m.entries ∧ x ∈ xs := by
  simp only [← get?_eq_some_iff, getD]
  cases m.get? k with
  | none => simp
  | some xs => simp

/-- Only the last of two writes at one key counts. -/
theorem put_put (m : OrderedMap κ ν) (k : κ) (v v' : ν) : (m.put k v).put k v' = m.put k v' := by
  have keys : ((m.put k v).put k v').keys = (m.put k v').keys := by
    rw [keys_put, if_pos (mem_keys.mpr ⟨v, by rw [get?_put, if_pos rfl]⟩), keys_put, keys_put]
  refine eq_of_get? keys fun q _ => ?_
  simp only [get?_put]
  split <;> rfl

theorem update_update (m : OrderedMap κ ν) (k : κ) (d : ν) (f f' : ν → ν) :
    (m.update k d f).update k d f' = m.update k d fun v => f' (f v) := by
  rw [update, update, put_put, getD_put, if_pos rfl]
  rfl

/-- Values that grow one by one at a key are all there in the end. -/
theorem foldl_update_append {α : Type} {xs : List α} (some : xs ≠ []) (m : OrderedMap κ (List α))
    (k : κ) :
    xs.foldl (fun m x => m.update k [] (· ++ [x])) m = m.update k [] (· ++ xs) := by
  induction xs generalizing m with
  | nil => exact absurd rfl some
  | cons x rest ih =>
    rw [List.foldl_cons]
    cases rest with
    | nil => rfl
    | cons y more =>
      rw [ih (List.cons_ne_nil y more), update_update]
      simp only [List.append_assoc, List.singleton_append]

/-- Updates at new keys put their entries behind the others. -/
theorem entries_foldl_update {β : Type} {es : List β} {key : β → κ} (d : ν) (change : β → ν → ν)
    (distinct : (es.map key).Nodup) {m : OrderedMap κ ν} (new : ∀ e ∈ es, key e ∉ m.keys) :
    (es.foldl (fun m e => m.update (key e) d (change e)) m).entries =
      m.entries ++ es.map fun e => (key e, change e d) := by
  induction es generalizing m with
  | nil => simp
  | cons e rest ih =>
    obtain ⟨apart, distinct⟩ := List.nodup_cons.mp distinct
    have absent := new e List.mem_cons_self
    have entries :
        (m.update (key e) d (change e)).entries = m.entries ++ [(key e, change e d)] := by
      rw [update, getD_eq_default absent]
      exact writeEntry_of_absent absent
    have keys : (m.update (key e) d (change e)).keys = m.keys ++ [key e] := by
      rw [update, keys_put, if_neg absent]
    rw [List.foldl_cons, ih distinct, entries, List.append_assoc]
    · rfl
    · intro other later
      rw [keys, List.mem_append, List.mem_singleton]
      rintro (earlier | same)
      · exact new other (List.mem_cons_of_mem e later) earlier
      · exact apart (List.mem_map.mpr ⟨other, later, same⟩)

end OrderedMap

end TableParsing
