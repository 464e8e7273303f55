import TableParsing.Sets.Growth

/-!
FIRST sets: the terminals with which the strings of a nonterminal begin, and the epsilon marker if
the empty string is among them. `firstOf` extends a family of sets to sequences of symbols, and
`firstSets` is the least family that holds the FIRST set of every alternative.
-/

namespace TableParsing

/-- The FIRST set of a sequence, given those of the nonterminals. An epsilon marker in the sequence
is passed over, and leaves its trace in the result. -/
def firstOf (g : Grammar) (first : SymbolSets) : List Symbol → SymbolSet
  | [] => SortedSet.ofList [Symbol.epsilon]
  | s :: rest =>
    if s = Symbol.epsilon then (firstOf g first rest).insert Symbol.epsilon
    else if g.isNonterminal s then
      let own := first.getD s ∅
      if Symbol.epsilon ∈ own then (own.erase Symbol.epsilon).union (firstOf g first rest)
      else own
    else SortedSet.ofList [s]

def firstPass (g : Grammar) (first : SymbolSets) : Growth :=
  g.productions.foldl (fun state p => state.add p.lhs (firstOf g state.sets p.rhs)) ⟨first, ∅⟩

def firstSetsLogged (g : Grammar) : SymbolSets × List PassLog :=
  Growth.saturate (firstPass g) (passLimit g) (emptySets g)

def firstSets (g : Grammar) : SymbolSets := (firstSetsLogged g).1

end TableParsing
