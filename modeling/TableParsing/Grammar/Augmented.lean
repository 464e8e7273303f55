import TableParsing.Grammar.Basic

/-!
A grammar with a synthetic start symbol above its own. The synthetic symbol is named `Z`, with as
many primes as it takes to differ from every declared name.
-/

namespace TableParsing

/-- The name with primes added while it is taken, `limit` of them at most. -/
def primed (taken : List String) : Nat → String → String
  | 0, name => name
  | limit + 1, name => if name ∈ taken then primed taken limit (name ++ "'") else name

def freshStartName (taken : List String) : String := primed taken taken.length "Z"

structure Augmented where
  grammar : Grammar
  start : Symbol
  deriving DecidableEq

namespace Augmented

def ofGrammar (g : Grammar) : Augmented :=
  { grammar := g
    start := Symbol.nonterminal (freshStartName
      ((g.nonterminals.toList ++ g.terminals.toList).map Symbol.name)) }

def startProduction (a : Augmented) : Production := ⟨a.start, [a.grammar.start]⟩

def nonterminals (a : Augmented) : SymbolSet := a.grammar.nonterminals.insert a.start

def isNonterminal (a : Augmented) (s : Symbol) : Bool := s = a.start || a.grammar.isNonterminal s

def productionsFor (a : Augmented) (lhs : Symbol) : List Production :=
  if lhs = a.start then [a.startProduction] else a.grammar.productionsFor lhs

def symbols (a : Augmented) : List Symbol := a.grammar.symbols

end Augmented
end TableParsing
