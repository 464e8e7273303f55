import TableParsing.Sets.Follow
import TableParsing.ShiftReduce.Action

/-!
The claims that the states of the automaton have on the cells of the tables. An item with its dot
before a terminal claims a shift, a completed item claims a reduction under every symbol that
follows its left-hand side, and the completed start item claims acceptance at the end marker. The
transitions over nonterminals are claims too. Claims come state by state, in the order of the items.
-/

namespace TableParsing.ShiftReduce

def productionOf (g : Grammar) (lhs : Symbol) (body : List Symbol) : Except Error Production :=
  match (g.productionsFor lhs).find? (·.body = body) with
  | some p => .ok p
  | none => .error (.noProduction lhs body)

/-- The symbols after a nonterminal; only the end marker follows the synthetic start symbol. -/
def followOf (a : Augmented) (follow : SymbolSets) (s : Symbol) : SymbolSet :=
  if s = a.start then SortedSet.ofList [Symbol.endMarker] else follow.getD s ∅

inductive Claim where
  | action (state : Int) (symbol : Symbol) (action : Action)
  | goto (state : Int) (nonterminal : Symbol) (target : Int)
  | failure (e : Error)
  deriving DecidableEq, Repr

/-- The claims of one item of state `n`, and the automaton after the transition that a shift looks
up. -/
def claimsOfItem (follow : SymbolSets) (n : Nat) (items : State) (m : Automaton) (i : Item) :
    List Claim × Automaton :=
  if i.isReduce then
    if i.lhs = m.augmented.start then ([.action n Symbol.endMarker .accept], m)
    else match productionOf m.augmented.grammar i.lhs i.rhs with
      | .error e => ([.failure e], m)
      | .ok p =>
        ((followOf m.augmented follow i.lhs).toList.map fun t => .action n t (.reduce p), m)
  else match i.next? with
    | none => ([], m)
    | some s =>
      if m.augmented.isNonterminal s then ([], m)
      else
        let found := m.transition n items s
        (found.1.toList.map fun (target : Nat) => .action n s (.shift target), found.2)

def claimsOfNonterminal (n : Nat) (items : State) (m : Automaton) (s : Symbol) :
    List Claim × Automaton :=
  let found := m.transition n items s
  (found.1.toList.map fun (target : Nat) => .goto n s target, found.2)

abbrev Claims := List (Claim × Automaton)

def gather {α : Type} (claim : Automaton → α → List Claim × Automaton) :
    List α → Automaton → Claims × Automaton
  | [], m => ([], m)
  | x :: rest, m =>
    let mine := claim m x
    let others := gather claim rest mine.2
    (mine.1.map (·, mine.2) ++ others.1, others.2)

/-- The claims of state `n`: those of its items in order, then its transitions over the
nonterminals. -/
def claimsOfState (follow : SymbolSets) (n : Nat) (items : State) (m : Automaton) :
    Claims × Automaton :=
  let ofItems := gather (claimsOfItem follow n items) items.toList m
  let ofNonterminals :=
    gather (claimsOfNonterminal n items) m.augmented.grammar.nonterminals.toList ofItems.2
  (ofItems.1 ++ ofNonterminals.1, ofNonterminals.2)

/-- The claims of the states from number `n` on, those found on the way included, `limit` states at
most. -/
def claimsFrom (follow : SymbolSets) : Nat → Nat → Automaton → Claims × Automaton
  | 0, _, m => ([], m)
  | limit + 1, n, m =>
    match m.states[n]? with
    | none => ([], m)
    | some items =>
      let here := claimsOfState follow n items m
      let rest := claimsFrom follow limit (n + 1) here.2
      (here.1 ++ rest.1, rest.2)

/-- More states than can be found from an automaton, whose states may hold items of an earlier
version of the grammar. -/
def stateLimit (m : Automaton) : Nat :=
  let known := m.states.flatMap fun s => s.toList.flatMap fun i => Item.withEveryDot i.lhs i.rhs
  m.states.length + Nat.pow 2 (known ++ Automaton.allItems m.augmented).length

def claims (follow : SymbolSets) (m : Automaton) : Claims × Automaton :=
  claimsFrom follow (stateLimit m) 0 m

end TableParsing.ShiftReduce
