import TableParsing.Data.Word
import TableParsing.Grammar.Augmented

/-!
Items: an alternative with a dot at some place of it. The dot is an integer; in the items of an
automaton it lies between zero and the length of the body. A dot below zero counts from the end,
as far as the body reaches.
-/

namespace TableParsing
open Std

structure Item where
  lhs : Symbol
  rhs : List Symbol
  dot : Int
  deriving DecidableEq, Repr

/-- The place that an integer names in a list of a given length: negative numbers count from the
end. -/
def resolveIndex (length : Nat) (i : Int) : Option Nat :=
  if 0 ≤ i then (if i.toNat < length then some i.toNat else none)
  else if 0 ≤ i + length then some (i + length).toNat else none

def indexMessage (kind : String) (i : Int) : String :=
  if fitsWord i then kind ++ " index out of range"
  else "cannot fit 'int' into an index-sized integer"

namespace Item

def ofProduction (p : Production) : Item := ⟨p.lhs, p.body, 0⟩

def withEveryDot (lhs : Symbol) (rhs : List Symbol) : List Item :=
  (List.range (rhs.length + 1)).map fun (dot : Nat) => ⟨lhs, rhs, dot⟩

def isReduce (i : Item) : Bool := i.dot = i.rhs.length

def next? (i : Item) : Option Symbol :=
  (resolveIndex i.rhs.length i.dot).bind (i.rhs[·]?)

/-- Whether the dot is so far below zero that the body does not reach it. -/
def dotOutside (i : Item) : Bool := i.dot + i.rhs.length < 0

def dotOutsideMessage (i : Item) : String := indexMessage "tuple" i.dot

def isShowable (i : Item) : Bool := fitsWord i.dot

def advance (i : Item) : Item := { i with dot := i.dot + 1 }

def dotPlace (i : Item) : Nat :=
  let n := i.rhs.length
  if i.dot < 0 then (i.dot + n).toNat else min i.dot.toNat n

def text (i : Item) : String :=
  let names := i.rhs.map Symbol.name
  i.lhs.name ++ " -> " ++
    " ".intercalate (names.take i.dotPlace ++ "." :: names.drop i.dotPlace)

def notShowableMessage : String := "Python int too large to convert to C ssize_t"

def advanceMessage (i : Item) : String := "Cannot advance past the end of " ++ i.text

instance : Ord Item :=
  ⟨compareLex (compareOn Item.lhs) (compareLex (compareOn Item.rhs) (compareOn Item.dot))⟩

theorem compare_def (a b : Item) :
    compare a b = (compare a.lhs b.lhs).then
      ((compare a.rhs b.rhs).then (compare a.dot b.dot)) := rfl

instance : TransOrd Item :=
  inferInstanceAs (TransCmp
    (compareLex (compareOn Item.lhs) (compareLex (compareOn Item.rhs) (compareOn Item.dot))))

instance : LawfulEqOrd Item where
  eq_of_compare := by
    intro a b h
    rw [compare_def, Ordering.then_eq_eq, Ordering.then_eq_eq] at h
    obtain ⟨la, ra, da⟩ := a
    obtain ⟨lb, rb, db⟩ := b
    have hl : la = lb := LawfulEqOrd.eq_of_compare h.1
    have hr : ra = rb := LawfulEqOrd.eq_of_compare h.2.1
    have hd : da = db := LawfulEqOrd.eq_of_compare h.2.2
    simp_all

end Item
end TableParsing
