import TableParsing.Grammar.Basic

/-!
Families of symbol sets that grow in passes. A pass reads and writes the same family; what it adds
is logged per nonterminal. Passes repeat until one adds nothing.
-/

namespace TableParsing

abbrev SymbolSets := OrderedMap Symbol SymbolSet

/-- What one pass added: to each nonterminal that grew, its new symbols in the order in which they
came. -/
abbrev PassLog := OrderedMap Symbol (List Symbol)

structure Growth where
  sets : SymbolSets
  log : PassLog

namespace Growth

def add (state : Growth) (target : Symbol) (more : SymbolSet) : Growth :=
  let before := state.sets.getD target ∅
  let fresh := more.diff before
  if fresh.isEmpty then state
  else
    { sets := state.sets.put target (before.union fresh)
      log := state.log.update target [] (· ++ fresh.toList) }

/-- Repeats a pass until it adds nothing, `limit` times at most, and keeps the logs. -/
def saturate (pass : SymbolSets → Growth) : Nat → SymbolSets → SymbolSets × List PassLog
  | 0, sets => (sets, [])
  | limit + 1, sets =>
    let after := pass sets
    if after.log.isEmpty then (sets, [])
    else
      let rest := saturate pass limit after.sets
      (rest.1, after.log :: rest.2)

end Growth

def emptySets (g : Grammar) : SymbolSets :=
  OrderedMap.ofList (g.nonterminals.toList.map fun s => (s, ∅))

/-- More passes than can add something: each one that does adds one of the terminals or a marker
to one of the nonterminals. -/
def passLimit (g : Grammar) : Nat := g.nonterminals.size * (g.terminals.size + 1) + 1

end TableParsing
