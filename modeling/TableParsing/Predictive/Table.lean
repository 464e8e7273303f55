import TableParsing.Data.CellMap
import TableParsing.OnConflict
import TableParsing.Sets.Follow

/-!
Predictive tables. A production claims the cell of its left-hand side under every symbol of the
FIRST set of its alternative and, if the alternative can vanish, under every symbol of the FOLLOW
set of its left-hand side. The first claim takes a cell; a claim of another production is a
conflict.
-/

namespace TableParsing.Predictive

abbrev Table := CellMap Symbol Symbol Production

structure Conflict where
  nonterminal : Symbol
  lookahead : Symbol
  existing : Production
  new : Production
  deriving DecidableEq, Repr

def Conflict.message (c : Conflict) : String :=
  "Conflict at M[" ++ c.nonterminal.name ++ ", " ++ c.lookahead.name ++ "]: " ++
    c.existing.text ++ " vs " ++ c.new.text

inductive Error where
  | conflict (c : Conflict)
  /-- An alternative of this nonterminal can vanish, and no FOLLOW set is given for it. -/
  | noFollow (s : Symbol)
  deriving DecidableEq, Repr

inductive Claim where
  | cell (p : Production) (lookahead : Symbol)
  | missing (s : Symbol)
  deriving DecidableEq, Repr

/-- The claims of one production: those through its FIRST set, then those through FOLLOW. -/
def claimsOf (g : Grammar) (ff : FirstFollow) (p : Production) : List Claim :=
  let ahead := firstOf g ff.first p.rhs
  (ahead.erase Symbol.epsilon).toList.map (Claim.cell p) ++
    if Symbol.epsilon ∈ ahead then
      match ff.follow.get? p.lhs with
      | none => [.missing p.lhs]
      | some after => after.toList.map (Claim.cell p)
    else []

def claims (g : Grammar) (ff : FirstFollow) : List Claim := g.productions.flatMap (claimsOf g ff)

structure Draft where
  table : Table
  conflicts : List Conflict

def Draft.place (mode : OnConflict) (d : Draft) : Claim → Except Error Draft
  | .missing s => .error (.noFollow s)
  | .cell p a =>
    match d.table.get? (p.lhs, a) with
    | none => .ok { d with table := d.table.put (p.lhs, a) p }
    | some existing =>
      if existing = p then .ok d
      else
        let c : Conflict := ⟨p.lhs, a, existing, p⟩
        match mode with
        | .stop => .error (.conflict c)
        | .collect => .ok { d with conflicts := d.conflicts ++ [c] }

def fill (mode : OnConflict) (g : Grammar) (ff : FirstFollow) : Except Error Draft :=
  (claims g ff).foldlM (Draft.place mode) ⟨∅, []⟩

def build (g : Grammar) (ff : FirstFollow) : Except Error Table :=
  (fill .stop g ff).map Draft.table

def conflicts (g : Grammar) (ff : FirstFollow) : Except Error (List Conflict) :=
  (fill .collect g ff).map Draft.conflicts

end TableParsing.Predictive
