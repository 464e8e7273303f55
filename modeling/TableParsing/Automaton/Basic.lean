import TableParsing.Automaton.Closure
import TableParsing.Data.CellMap

/-!
The automaton of item sets. States are numbered in the order in which they are found, and a state
is known by its items: the same set is never numbered twice. `build` finds all states that can be
reached from the closure of the start item; `gotoState` follows one transition and numbers its
target if that is new.
-/

namespace TableParsing

/-- Numbered states and the transitions found so far. The source of a transition is the integer it
was asked for with. -/
structure Automaton where
  augmented : Augmented
  states : List State
  transitions : CellMap Int Symbol Nat
  deriving DecidableEq

namespace Automaton

def ofAugmented (a : Augmented) : Automaton := ⟨a, [], ∅⟩

def startItem (m : Automaton) : Item := Item.ofProduction m.augmented.startProduction

def stateOf? (m : Automaton) (s : State) : Option Nat := m.states.findIdx? (· = s)

def register (m : Automaton) (s : State) : Nat × Automaton :=
  match m.stateOf? s with
  | some n => (n, m)
  | none => (m.states.length, { m with states := m.states ++ [s] })

def record (m : Automaton) (source : Int) (items : State) (s : Symbol) : Option Nat × Automaton :=
  let target := goto m.augmented items.toList s
  if target.isEmpty then (none, m)
  else
    let found := m.register target
    (some found.1,
      { found.2 with transitions := found.2.transitions.put (source, s) found.1 })

/-- The transition from a state over a symbol: the recorded one, or else the one that its items
give. -/
def transition (m : Automaton) (source : Int) (items : State) (s : Symbol) :
    Option Nat × Automaton :=
  match m.transitions.get? (source, s) with
  | some n => (some n, m)
  | none => m.record source items s

/-- Records the transitions of the states from number `n` on, `limit` states at most. -/
def explore (symbols : List Symbol) : Nat → Nat → Automaton → Automaton
  | 0, _, m => m
  | limit + 1, n, m =>
    match m.states[n]? with
    | none => m
    | some items => explore symbols limit (n + 1)
        (symbols.foldl (fun m s => (m.record n items s).2) m)

def allItems (a : Augmented) : List Item :=
  (a.startProduction :: a.grammar.productions).flatMap fun p => Item.withEveryDot p.lhs p.body

/-- More states than there are: every state is a set of items. -/
def stateLimit (a : Augmented) : Nat := Nat.pow 2 (allItems a).length

/-- Finds all states, unless some have been found before. -/
def build (m : Automaton) : Automaton :=
  if m.states.isEmpty then
    let started := (m.register (closure m.augmented [m.startItem])).2
    explore m.augmented.symbols (stateLimit m.augmented) 0 started
  else m

inductive Error where
  | noSuchState (n : Int)
  deriving DecidableEq, Repr

def Error.message : Error → String
  | noSuchState n => indexMessage "list" n

/-- The state of a number; negative numbers count from the last state. -/
def getState (m : Automaton) (n : Int) : Except Error State :=
  match (resolveIndex m.states.length n).bind (m.states[·]?) with
  | some s => .ok s
  | none => .error (.noSuchState n)

def gotoState (m : Automaton) (n : Int) (s : Symbol) : Except Error (Option Nat × Automaton) :=
  match m.transitions.get? (n, s) with
  | some target => .ok (some target, m)
  | none => (m.getState n).map fun items => m.record n items s

end Automaton
end TableParsing
