import TableParsing.ParseResult
import TableParsing.ShiftReduce.Action

/-!
Runs of the shift-reduce engine. The stack holds states, its top first and the initial state zero
last. A shift reads a symbol and enters a state; a reduction leaves as many states as the body of
its production is long and enters the state that the table gives for the left-hand side.
-/

namespace TableParsing.ShiftReduce

structure Config where
  stack : List Int
  input : List Symbol
  deriving DecidableEq, Repr

inductive Rejection where
  | undeclared (s : Symbol)
  | noAction (state : Int) (found : Symbol)
  | noGoto (state : Int) (nonterminal : Symbol)
  deriving DecidableEq, Repr

def Rejection.message : Rejection → String
  | undeclared s => undeclaredMessage s
  | noAction state found =>
    "No action for state " ++ toString state ++ " on '" ++ found.name ++ "'"
  | noGoto state nonterminal =>
    "No goto for state " ++ toString state ++ " on '" ++ nonterminal.name ++ "'"

inductive Fault where
  | productionUnknown (state : Int)
  /-- A reduction would leave the initial state. -/
  | stackUnderflow (p : Production)
  /-- The end marker was shifted, and there is nothing left to look at. -/
  | inputExhausted
  deriving DecidableEq, Repr

def Fault.message : Fault → String
  | productionUnknown state =>
    "Reduce action without a production in state " ++ toString state
  | stackUnderflow p => "Reduce by " ++ p.text ++ " would pop the base state"
  | inputExhausted => "list index out of range"

inductive Step where
  | shift (target : Int) (next : Config)
  | reduce (p : Production) (next : Config)
  | deadEnd (p : Production) (popped : Config) (why : Rejection)
  | accept
  | reject (why : Rejection)
  | fault (why : Fault)
  deriving DecidableEq, Repr

inductive Outcome where
  | accepted
  | rejected (why : Rejection)
  | faulted (why : Fault)
  deriving DecidableEq, Repr

def initial (tokens : List Symbol) : Config := ⟨[0], tokens ++ [Symbol.endMarker]⟩

/-- The state on top; an empty stack stands for the initial one. -/
def Config.state (c : Config) : Int := c.stack.headD 0

def reduceBy (t : Tables) (c : Config) (p : Production) : Step :=
  match c.stack.drop p.body.length with
  | [] => .fault (.stackUnderflow p)
  | exposed :: below =>
    match t.goto.get? (exposed, p.lhs) with
    | none => .deadEnd p ⟨exposed :: below, c.input⟩ (.noGoto exposed p.lhs)
    | some target => .reduce p ⟨target :: exposed :: below, c.input⟩

def step (t : Tables) (c : Config) : Step :=
  match c.input with
  | [] => .fault .inputExhausted
  | found :: rest =>
    match t.action.get? (c.state, found) with
    | none => .reject (.noAction c.state found)
    | some (.shift target) => .shift target ⟨target :: c.stack, rest⟩
    | some (.reduce p) => reduceBy t c p
    | some .reduceUnknown => .fault (.productionUnknown c.state)
    | some .accept => .accept

def outcome (t : Tables) : Nat → Config → Option Outcome
  | 0, _ => none
  | limit + 1, c =>
    match step t c with
    | .shift _ next => outcome t limit next
    | .reduce _ next => outcome t limit next
    | .deadEnd _ _ why => some (.rejected why)
    | .accept => some .accepted
    | .reject why => some (.rejected why)
    | .fault why => some (.faulted why)

def Config.snapshot (c : Config) (action : String) : Snapshot :=
  ⟨(c.stack.map toString).reverse, c.input.map Symbol.name, action⟩

def snapshots (t : Tables) : Nat → Config → List Snapshot
  | 0, _ => []
  | limit + 1, c =>
    match step t c with
    | .shift target next =>
      c.snapshot ("shift " ++ toString target) :: snapshots t limit next
    | .reduce p next => c.snapshot ("reduce " ++ p.text) :: snapshots t limit next
    | .deadEnd p popped why =>
      [c.snapshot ("reduce " ++ p.text), popped.snapshot (rejectAction why.message)]
    | .accept => [c.snapshot "accept"]
    | .reject why => [c.snapshot (rejectAction why.message)]
    | .fault _ => []

def reductions (t : Tables) : Nat → Config → List Production
  | 0, _ => []
  | limit + 1, c =>
    match step t c with
    | .shift _ next => reductions t limit next
    | .reduce p next => p :: reductions t limit next
    | _ => []

def enteredStates (t : Tables) : SortedSet Int :=
  SortedSet.ofList (0 :: t.goto.values ++ t.action.values.filterMap fun
    | .shift n => some n
    | _ => none)

/-- The length that no ending run exceeds. Under one lookahead a run that ends enters no state twice
above a stack that it does not touch in between, so its stack grows by at most the number of states
and no stack recurs. -/
def stepLimit (t : Tables) (tokens : List Symbol) : Nat :=
  let n := (enteredStates t).size
  (tokens.length + 2) * (tokens.length + 2) * (n + 3) * Nat.pow (n + 1) (n + 2)

def run (g : Grammar) (t : Tables) (tokens : List Symbol) : Option Outcome :=
  match undeclared? g tokens with
  | some s => some (.rejected (.undeclared s))
  | none => outcome t (stepLimit t tokens) (initial tokens)

def trace (g : Grammar) (t : Tables) (tokens : List Symbol) : List Snapshot :=
  match undeclared? g tokens with
  | some s => [(initial tokens).snapshot (rejectAction (Rejection.undeclared s).message)]
  | none => snapshots t (stepLimit t tokens) (initial tokens)

def Outcome.result (steps : List Snapshot) : Outcome → Except Fault ParseResult
  | accepted => .ok ⟨true, none, steps⟩
  | rejected why => .ok ⟨false, some why.message, steps⟩
  | faulted why => .error why

end TableParsing.ShiftReduce
