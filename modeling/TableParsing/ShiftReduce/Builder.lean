import TableParsing.OnConflict
import TableParsing.ShiftReduce.Claims

/-!
The building of shift-reduce tables: the claims are settled one after the other. Acceptance and
reductions never conflict, since acceptance keeps or takes the cell. Any other two different claims
for a cell are a conflict.
-/

namespace TableParsing.ShiftReduce

structure Builder where
  follow : SymbolSets
  mode : OnConflict
  automaton : Automaton
  action : ActionTable
  goto : GotoTable
  conflicts : List Conflict

structure Stopped where
  error : Error
  builder : Builder

namespace Builder

def new (g : Grammar) (follow : SymbolSets) (mode : OnConflict) : Builder :=
  { follow, mode, automaton := .ofAugmented (.ofGrammar g), action := ∅, goto := ∅,
    conflicts := [] }

def setAction (b : Builder) (state : Int) (symbol : Symbol) (new : Action) :
    Except Stopped Builder :=
  match b.action.get? (state, symbol) with
  | none => .ok { b with action := b.action.put (state, symbol) new }
  | some existing =>
    if existing = new then .ok b
    else if existing = .accept && new.isReduce then .ok b
    else if new = .accept && existing.isReduce then
      .ok { b with action := b.action.put (state, symbol) new }
    else
      let c : Conflict := ⟨state, symbol, existing, new⟩
      match b.mode with
      | .stop => .error ⟨.conflict c, b⟩
      | .collect => .ok { b with conflicts := b.conflicts ++ [c] }

def setGoto (b : Builder) (state : Int) (nonterminal : Symbol) (target : Int) :
    Except Stopped Builder :=
  match b.goto.get? (state, nonterminal) with
  | none => .ok { b with goto := b.goto.put (state, nonterminal) target }
  | some existing =>
    if existing = target then .ok b
    else .error ⟨.gotoClash state nonterminal existing target, b⟩

def settle (b : Builder) (claim : Claim × Automaton) : Except Stopped Builder :=
  let b := { b with automaton := claim.2 }
  match claim.1 with
  | .action n s a => b.setAction n s a
  | .goto n s target => b.setGoto n s target
  | .failure e => .error ⟨e, b⟩

def tables (b : Builder) : Tables :=
  { action := b.action, goto := b.goto, states := b.automaton.states,
    augmented := b.automaton.augmented }

def build (b : Builder) : Except Stopped Builder :=
  let found := claims b.follow b.automaton.build
  (found.1.foldlM settle { b with automaton := b.automaton.build }).map fun b =>
    { b with automaton := found.2 }

end Builder

def build (g : Grammar) (follow : SymbolSets) : Except Error Tables :=
  match (Builder.new g follow .stop).build with
  | .ok b => .ok b.tables
  | .error stopped => .error stopped.error

def conflicts (g : Grammar) (follow : SymbolSets) : Except Error (List Conflict) :=
  match (Builder.new g follow .collect).build with
  | .ok b => .ok b.conflicts
  | .error stopped => .error stopped.error

end TableParsing.ShiftReduce
