import TableParsing.Data.OrderedMap
import TableParsing.Grammar.Production

/-!
Context-free grammars that grow rule by rule. A grammar keeps its rules in the order in which their
left-hand sides first came; a new rule for a left-hand side replaces the old one at its place. The
terminals are computed from the current rules, and the revision counts the changes.
-/

namespace TableParsing

structure Grammar where
  start : Symbol
  nonterminals : SymbolSet
  terminals : SymbolSet
  rules : OrderedMap Symbol (List Production)
  revision : Nat
  deriving DecidableEq

namespace Grammar

inductive Error where
  | startNotNonterminal (s : Symbol)
  | leftNotNonterminal (s : Symbol)
  | endMarkerInAlternative
  deriving DecidableEq, Repr

def Error.message : Error → String
  | startNotNonterminal s => "Start symbol must be a nonterminal: " ++ s.described
  | leftNotNonterminal s => "Left-hand side must be a nonterminal: " ++ s.described
  | endMarkerInAlternative => "The end-marker cannot appear in a production"

def ofStart (start : Symbol) : Grammar :=
  { start, nonterminals := SortedSet.ofList [start], terminals := ∅, rules := ∅, revision := 0 }

def new (start : Symbol) : Except Error Grammar :=
  if start.kind = .nonterminal then .ok (ofStart start) else .error (.startNotNonterminal start)

/-- An alternative as it is stored: the empty one is written with the epsilon marker. -/
def storedAlternative (alt : List Symbol) : List Symbol :=
  if alt.isEmpty then [Symbol.epsilon] else alt

def productionsOf (lhs : Symbol) (alts : List (List Symbol)) : List Production :=
  alts.map fun alt => ⟨lhs, storedAlternative alt⟩

def rightSymbols (rules : OrderedMap Symbol (List Production)) : List Symbol :=
  rules.values.flatMap fun ps => ps.flatMap Production.rhs

/-- The grammar with the alternatives of `lhs` replaced. -/
def define (g : Grammar) (lhs : Symbol) (alts : List (List Symbol)) : Grammar :=
  let ps := productionsOf lhs alts
  let rules := g.rules.put lhs ps
  let named := (ps.flatMap Production.rhs).filter (·.kind = .nonterminal)
  let nonterminals := named.foldl SortedSet.insert (g.nonterminals.insert lhs)
  let terminals := (SortedSet.ofList ((rightSymbols rules).filter (· ≠ Symbol.epsilon))).diff
    nonterminals
  { g with rules, nonterminals, terminals, revision := g.revision + 1 }

def add (g : Grammar) (lhs : Symbol) (alts : List (List Symbol)) : Except Error Grammar :=
  if lhs.kind ≠ .nonterminal then .error (.leftNotNonterminal lhs)
  else if alts.any (·.contains Symbol.endMarker) then .error .endMarkerInAlternative
  else .ok (g.define lhs alts)

def ofRules (start : Symbol) (rules : List (Symbol × List (List Symbol))) :
    Except Error Grammar := do
  rules.foldlM (fun g r => g.add r.1 r.2) (← new start)

def classify (g : Grammar) (s : Symbol) : SymbolKind :=
  if s = Symbol.epsilon then .epsilon
  else if s = Symbol.endMarker then .endMarker
  else if s ∈ g.nonterminals then .nonterminal
  else .terminal

def isTerminal (g : Grammar) (s : Symbol) : Bool := s ∈ g.terminals

def isNonterminal (g : Grammar) (s : Symbol) : Bool := s ∈ g.nonterminals

def productions (g : Grammar) : List Production := g.rules.values.flatten

def productionsFor (g : Grammar) (lhs : Symbol) : List Production := g.rules.getD lhs []

/-- Every symbol that can stand on the stack of a parser or be read: the terminals, the end marker
and the nonterminals. -/
def symbols (g : Grammar) : List Symbol :=
  g.terminals.toList ++ Symbol.endMarker :: g.nonterminals.toList

/-- The declared symbol of a name; a terminal comes before a nonterminal of its name. -/
def lookup (g : Grammar) (name : String) : Option Symbol :=
  match (g.terminals.toList ++ g.nonterminals.toList).find? (·.name == name) with
  | some s => some s
  | none => if name = Symbol.endMarker.name then some Symbol.endMarker else none

def undefinedSymbols (g : Grammar) : SymbolSet :=
  SortedSet.ofList ((g.start :: g.productions.flatMap Production.rhs).filter fun s =>
    s ∈ g.nonterminals ∧ (g.productionsFor s).isEmpty)

def WellFormed (g : Grammar) : Prop := g.undefinedSymbols.isEmpty = true

instance (g : Grammar) : Decidable g.WellFormed := inferInstanceAs (Decidable (_ = true))

def illFormedMessage (missing : SymbolSet) : String :=
  "Nonterminals without productions: " ++ ", ".intercalate (missing.toList.map Symbol.name)

def text (g : Grammar) : String := "\n".intercalate (g.productions.map Production.text)

end Grammar
end TableParsing
