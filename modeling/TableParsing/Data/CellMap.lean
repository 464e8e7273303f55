import Std.Data.ExtTreeMap

/-!
Tables of cells, each at the crossing of a row and a column. A table is given by what its cells
hold, whatever the order in which they were written (`CellMap.ext`), and is read out row by row.
Main statement: `get?_put` says what a write does to every cell.
-/

namespace TableParsing
open Std

variable {ρ κ ν : Type} [Ord ρ] [Ord κ]

def comparePairs : ρ × κ → ρ × κ → Ordering :=
  compareLex (compareOn Prod.fst) (compareOn Prod.snd)

instance [TransOrd ρ] [TransOrd κ] : TransCmp (@comparePairs ρ κ _ _) :=
  inferInstanceAs (TransCmp (compareLex (compareOn Prod.fst) (compareOn Prod.snd)))

instance [LawfulEqOrd ρ] [LawfulEqOrd κ] : LawfulEqCmp (@comparePairs ρ κ _ _) where
  compare_self := by
    intro a
    simp [comparePairs, compareLex, compareOn, ReflCmp.compare_self]
  eq_of_compare := by
    intro a b h
    rw [comparePairs, compareLex, Ordering.then_eq_eq] at h
    exact Prod.ext (LawfulEqOrd.eq_of_compare h.1) (LawfulEqOrd.eq_of_compare h.2)

structure CellMap (ρ κ ν : Type) [Ord ρ] [Ord κ] where
  written : ExtTreeMap (ρ × κ) ν comparePairs

namespace CellMap

instance : EmptyCollection (CellMap ρ κ ν) := ⟨⟨∅⟩⟩

instance : Inhabited (CellMap ρ κ ν) := ⟨∅⟩

variable [TransOrd ρ] [TransOrd κ]

def get? (m : CellMap ρ κ ν) (cell : ρ × κ) : Option ν := m.written[cell]?

def put (m : CellMap ρ κ ν) (cell : ρ × κ) (v : ν) : CellMap ρ κ ν := ⟨m.written.insert cell v⟩

def ofList (cells : List ((ρ × κ) × ν)) : CellMap ρ κ ν :=
  cells.foldl (fun m c => m.put c.1 c.2) ∅

def cells (m : CellMap ρ κ ν) : List ((ρ × κ) × ν) := m.written.toList

def values (m : CellMap ρ κ ν) : List ν := m.cells.map Prod.snd

@[simp] theorem get?_empty (cell : ρ × κ) : (∅ : CellMap ρ κ ν).get? cell = none :=
  ExtTreeMap.getElem?_empty

variable [LawfulEqOrd ρ] [LawfulEqOrd κ]

theorem get?_put [DecidableEq ρ] [DecidableEq κ] (m : CellMap ρ κ ν) (cell q : ρ × κ) (v : ν) :
    (m.put cell v).get? q = if cell = q then some v else m.get? q := by
  simp [get?, put, ExtTreeMap.getElem?_insert]

theorem ext {m n : CellMap ρ κ ν} (h : ∀ cell, m.get? cell = n.get? cell) : m = n := by
  cases m
  cases n
  congr 1
  exact ExtTreeMap.ext_getElem? h

theorem mem_cells {m : CellMap ρ κ ν} {cell : ρ × κ} {v : ν} :
    (cell, v) ∈ m.cells ↔ m.get? cell = some v :=
  ExtTreeMap.mem_toList_iff_getElem?_eq_some

instance [DecidableEq ν] : DecidableEq (CellMap ρ κ ν) := fun m n =>
  if h : m.written = n.written then isTrue (by cases m; cases n; simp_all)
  else isFalse (fun e => h (e ▸ rfl))

end CellMap
end TableParsing
