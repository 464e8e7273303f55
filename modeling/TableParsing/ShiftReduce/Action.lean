import TableParsing.Automaton.Basic

/-!
Shift-reduce tables: what a parser does in a state under a lookahead, and which state it enters
after a reduction. Two different actions for one cell are a conflict.
-/

namespace TableParsing.ShiftReduce

inductive Action where
  | shift (target : Int)
  | reduce (p : Production)
  /-- Reduce, by a production that the table does not tell. -/
  | reduceUnknown
  | accept
  deriving DecidableEq, Repr

namespace Action

def text : Action → String
  | shift n => "s" ++ toString n
  | reduce p => "r(" ++ p.text ++ ")"
  | reduceUnknown => "r(None)"
  | accept => "acc"

def isShift : Action → Bool
  | shift _ => true
  | _ => false

def isReduce : Action → Bool
  | reduce _ => true
  | reduceUnknown => true
  | _ => false

end Action

structure Conflict where
  state : Int
  symbol : Symbol
  existing : Action
  new : Action
  deriving DecidableEq, Repr

namespace Conflict

def kind (c : Conflict) : String :=
  if c.existing.isShift && c.new.isShift then "shift/shift"
  else if c.existing.isReduce && c.new.isReduce then "reduce/reduce"
  else "shift/reduce"

def message (c : Conflict) : String :=
  c.kind ++ " conflict in state " ++ toString c.state ++ " on '" ++ c.symbol.name ++ "': " ++
    c.existing.text ++ " vs " ++ c.new.text

end Conflict

inductive Error where
  | conflict (c : Conflict)
  | gotoClash (state : Int) (nonterminal : Symbol) (existing new : Int)
  | noProduction (lhs : Symbol) (body : List Symbol)
  deriving DecidableEq, Repr

def Error.message : Error → String
  | conflict c => c.message
  | gotoClash s a m n =>
    "GOTO[" ++ toString s ++ ", " ++ a.name ++ "] is both " ++ toString m ++ " and " ++ toString n
  | noProduction lhs body => "No production " ++ lhs.name ++ " -> " ++ Symbol.joinNames body

abbrev ActionTable := CellMap Int Symbol Action

abbrev GotoTable := CellMap Int Symbol Int

structure Tables where
  action : ActionTable
  goto : GotoTable
  states : List State
  augmented : Augmented
  deriving DecidableEq

end TableParsing.ShiftReduce
