import TableParsing.Data.SortedSet
import TableParsing.Text.Quoted

/-!
Grammar symbols. A symbol is a kind and a name; two symbols of one name and different kinds differ.
Two symbols are reserved: `Symbol.epsilon` marks the empty alternative and `Symbol.endMarker` the
end of the input. Symbols are ordered by kind, then by name.
-/

namespace TableParsing
open Std

inductive SymbolKind where
  | terminal
  | nonterminal
  | epsilon
  | endMarker
  deriving DecidableEq, Repr

namespace SymbolKind

def rank : SymbolKind → Nat
  | terminal => 1
  | nonterminal => 2
  | epsilon => 3
  | endMarker => 4

def label : SymbolKind → String
  | terminal => "TERMINAL"
  | nonterminal => "NONTERMINAL"
  | epsilon => "EPSILON"
  | endMarker => "END_MARKER"

theorem rank_injective {a b : SymbolKind} (h : a.rank = b.rank) : a = b := by
  cases a <;> cases b <;> simp_all [rank]

end SymbolKind

structure Symbol where
  kind : SymbolKind
  name : String
  deriving DecidableEq, Repr

namespace Symbol

def epsilon : Symbol := ⟨.epsilon, "ε"⟩

def endMarker : Symbol := ⟨.endMarker, "$"⟩

def terminal (name : String) : Symbol := ⟨.terminal, name⟩

def nonterminal (name : String) : Symbol := ⟨.nonterminal, name⟩

instance : Inhabited Symbol := ⟨epsilon⟩

instance : Ord Symbol :=
  ⟨compareLex (compareOn (fun s : Symbol => s.kind.rank)) (compareOn Symbol.name)⟩

theorem compare_def (a b : Symbol) :
    compare a b = (compare a.kind.rank b.kind.rank).then (compare a.name b.name) := rfl

instance : TransOrd Symbol :=
  inferInstanceAs (TransCmp
    (compareLex (compareOn (fun s : Symbol => s.kind.rank)) (compareOn Symbol.name)))

instance : LawfulEqOrd Symbol where
  eq_of_compare := by
    intro a b h
    rw [compare_def, Ordering.then_eq_eq] at h
    obtain ⟨ka, na⟩ := a
    obtain ⟨kb, nb⟩ := b
    have hk := SymbolKind.rank_injective (LawfulEqOrd.eq_of_compare h.1)
    have hn : na = nb := LawfulEqOrd.eq_of_compare h.2
    simp_all

def described (s : Symbol) : String :=
  "Symbol(name=" ++ Text.quoted s.name ++ ", kind=<SymbolKind." ++ s.kind.label ++ ": " ++
    toString s.kind.rank ++ ">)"

def joinNames (ss : List Symbol) : String := " ".intercalate (ss.map Symbol.name)

end Symbol

abbrev SymbolSet := SortedSet Symbol

end TableParsing
