/-!
Finite maps that keep their keys in the order in which they first came. Writing to a key that is
present replaces its value and leaves it at its place. Main statements: `get?_put` says what a
write does to every key, and `keys_put` what it does to the order.
-/

namespace TableParsing

variable {κ ν : Type} [DecidableEq κ]

/-- A finite map whose entries stand in the order in which their keys first came. -/
structure OrderedMap (κ ν : Type) [DecidableEq κ] where
  entries : List (κ × ν)
  nodup : (entries.map Prod.fst).Nodup

/-- The entries with `v` written at `k`: in place if `k` is there, at the end otherwise. -/
def writeEntry (k : κ) (v : ν) : List (κ × ν) → List (κ × ν)
  | [] => [(k, v)]
  | e :: rest => if e.1 = k then (k, v) :: rest else e :: writeEntry k v rest

def findEntry (k : κ) : List (κ × ν) → Option ν
  | [] => none
  | e :: rest => if e.1 = k then some e.2 else findEntry k rest

theorem keys_writeEntry (k : κ) (v : ν) (es : List (κ × ν)) :
    (writeEntry k v es).map Prod.fst =
      if k ∈ es.map Prod.fst then es.map Prod.fst else es.map Prod.fst ++ [k] := by
  induction es with
  | nil => simp [writeEntry]
  | cons e rest ih =>
    by_cases h : e.1 = k
    · simp [writeEntry, h]
    · have h' : ¬ k = e.1 := fun he => h he.symm
      simp only [writeEntry, h, if_false, List.map_cons, ih, List.mem_cons, h', false_or]
      split <;> simp

theorem nodup_keys_writeEntry (k : κ) (v : ν) {es : List (κ × ν)}
    (h : (es.map Prod.fst).Nodup) : ((writeEntry k v es).map Prod.fst).Nodup := by
  rw [keys_writeEntry]
  split
  · exact h
  · rename_i absent
    rw [List.nodup_append]
    refine ⟨h, by simp, ?_⟩
    intro a ha b hb
    rcases List.mem_singleton.mp hb with rfl
    exact fun e => absent (e ▸ ha)

theorem findEntry_writeEntry (k q : κ) (v : ν) (es : List (κ × ν)) :
    findEntry q (writeEntry k v es) = if k = q then some v else findEntry q es := by
  induction es with
  | nil => simp [writeEntry, findEntry]
  | cons e rest ih =>
    by_cases h : e.1 = k
    · by_cases hq : k = q <;> simp [writeEntry, findEntry, h, hq]
    · by_cases hq : k = q
      · subst hq
        simp [writeEntry, findEntry, h, ih]
      · simp [writeEntry, findEntry, h, hq, ih]

namespace OrderedMap

def empty : OrderedMap κ ν := ⟨[], .nil⟩

instance : EmptyCollection (OrderedMap κ ν) := ⟨empty⟩
instance : Inhabited (OrderedMap κ ν) := ⟨empty⟩

instance [DecidableEq ν] : DecidableEq (OrderedMap κ ν) := fun s t =>
  if h : s.entries = t.entries then isTrue (by cases s; cases t; simp_all)
  else isFalse (fun e => h (e ▸ rfl))

def keys (m : OrderedMap κ ν) : List κ := m.entries.map Prod.fst

def values (m : OrderedMap κ ν) : List ν := m.entries.map Prod.snd

def get? (m : OrderedMap κ ν) (k : κ) : Option ν := findEntry k m.entries

def getD (m : OrderedMap κ ν) (k : κ) (default : ν) : ν := (m.get? k).getD default

def contains (m : OrderedMap κ ν) (k : κ) : Bool := (m.get? k).isSome

def isEmpty (m : OrderedMap κ ν) : Bool := m.entries.isEmpty

def put (m : OrderedMap κ ν) (k : κ) (v : ν) : OrderedMap κ ν :=
  ⟨writeEntry k v m.entries, nodup_keys_writeEntry k v m.nodup⟩

/-- The map of a list of entries, of which the last one for a key counts. -/
def ofList (es : List (κ × ν)) : OrderedMap κ ν := es.foldl (fun m e => m.put e.1 e.2) ∅

def update (m : OrderedMap κ ν) (k : κ) (default : ν) (f : ν → ν) : OrderedMap κ ν :=
  m.put k (f (m.getD k default))

theorem get?_put (m : OrderedMap κ ν) (k q : κ) (v : ν) :
    (m.put k v).get? q = if k = q then some v else m.get? q :=
  findEntry_writeEntry k q v m.entries

theorem keys_put (m : OrderedMap κ ν) (k : κ) (v : ν) :
    (m.put k v).keys = if k ∈ m.keys then m.keys else m.keys ++ [k] :=
  keys_writeEntry k v m.entries

end OrderedMap
end TableParsing
