import TableParsing.ParseResult
import TableParsing.Predictive.Table

/-!
Runs of the predictive engine. The stack holds the symbols that are still to be derived, its top
first. A terminal on top is matched with the input, a nonterminal is replaced by the body of the
production that the table gives for it under the next input symbol.
-/

namespace TableParsing.Predictive

/-- The stack, top first, and the input that is left, which ends with the end marker. -/
structure Config where
  stack : List Symbol
  input : List Symbol
  deriving DecidableEq, Repr

inductive Rejection where
  | undeclared (s : Symbol)
  /-- The stack is down to the end marker and there is input left. -/
  | unexpected (found : Symbol)
  | mismatch (expected found : Symbol)
  | noRule (top found : Symbol)
  | stackExhausted
  deriving DecidableEq, Repr

def Rejection.message : Rejection → String
  | undeclared s => undeclaredMessage s
  | unexpected found => "Unexpected '" ++ found.name ++ "' after complete input"
  | mismatch expected found =>
    "Mismatch: expected '" ++ expected.name ++ "' but found '" ++ found.name ++ "'"
  | noRule top found => "No rule for M[" ++ top.name ++ ", " ++ found.name ++ "]"
  | stackExhausted => "Unexpected end of parse (stack exhausted)."

inductive Step where
  | matched (s : Symbol) (next : Config)
  | expanded (p : Production) (next : Config)
  | accept (last : Config)
  | reject (why : Rejection) (last : Config)
  deriving DecidableEq, Repr

inductive Outcome where
  | accepted
  | rejected (why : Rejection)
  deriving DecidableEq, Repr

def initial (g : Grammar) (tokens : List Symbol) : Config :=
  ⟨[g.start, Symbol.endMarker], tokens ++ [Symbol.endMarker]⟩

def step (g : Grammar) (table : Table) (c : Config) : Step :=
  let found := c.input.headD Symbol.endMarker
  match c.stack with
  | [] => .reject .stackExhausted c
  | top :: below =>
    let popped : Config := ⟨below, c.input⟩
    if top = Symbol.endMarker then
      if found = Symbol.endMarker then .accept popped else .reject (.unexpected found) popped
    else if g.isNonterminal top then
      match table.get? (top, found) with
      | none => .reject (.noRule top found) popped
      | some p => .expanded p ⟨p.body ++ below, c.input⟩
    else if top = found then .matched found ⟨below, c.input.tail⟩
    else .reject (.mismatch top found) popped

/-- How a run ends that takes at most `limit` steps; nothing if it takes more. -/
def outcome (g : Grammar) (table : Table) : Nat → Config → Option Outcome
  | 0, _ => none
  | limit + 1, c =>
    match step g table c with
    | .matched _ next => outcome g table limit next
    | .expanded _ next => outcome g table limit next
    | .accept _ => some .accepted
    | .reject why _ => some (.rejected why)

def Config.snapshot (c : Config) (action : String) : Snapshot :=
  ⟨(c.stack.map Symbol.name).reverse, c.input.map Symbol.name, action⟩

def snapshots (g : Grammar) (table : Table) : Nat → Config → List Snapshot
  | 0, _ => []
  | limit + 1, c =>
    match step g table c with
    | .matched s next => next.snapshot ("match " ++ s.name) :: snapshots g table limit next
    | .expanded p next => next.snapshot p.text :: snapshots g table limit next
    | .accept last => [last.snapshot "accept"]
    | .reject why last => [last.snapshot (rejectAction why.message)]

def expansions (g : Grammar) (table : Table) : Nat → Config → List Production
  | 0, _ => []
  | limit + 1, c =>
    match step g table c with
    | .matched _ next => expansions g table limit next
    | .expanded p next => p :: expansions g table limit next
    | _ => []

/-- The length that no ending run exceeds. Under one lookahead a nonterminal does not expand to
itself again in a run that ends, so what vanishes under one lookahead has the size of a tree whose
height is the number of nonterminals. -/
def stepLimit (table : Table) (tokens : List Symbol) : Nat :=
  let height := (SortedSet.ofList (table.cells.map (·.1.1))).size
  let width := (table.values.map (·.body.length)).foldl max 0
  (tokens.length + 2) * (height + 1) * (width + 1) * Nat.pow (width + 2) (height + 1)

def run (g : Grammar) (table : Table) (tokens : List Symbol) : Option Outcome :=
  match undeclared? g tokens with
  | some s => some (.rejected (.undeclared s))
  | none => outcome g table (stepLimit table tokens) (initial g tokens)

def trace (g : Grammar) (table : Table) (tokens : List Symbol) : List Snapshot :=
  let c := initial g tokens
  c.snapshot "init" ::
    match undeclared? g tokens with
    | some s => [c.snapshot (rejectAction (Rejection.undeclared s).message)]
    | none => snapshots g table (stepLimit table tokens) c

def Outcome.result (steps : List Snapshot) : Outcome → ParseResult
  | accepted => ⟨true, none, steps⟩
  | rejected why => ⟨false, some why.message, steps⟩

end TableParsing.Predictive
