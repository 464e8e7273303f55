import TableParsing.Sets.First

/-!
FOLLOW sets: the terminals that can stand after a nonterminal, and the end marker if it can stand
last. What follows an occurrence is the FIRST set of the rest of its alternative and, where that
rest can vanish, the FOLLOW set of the left-hand side.
-/

namespace TableParsing

def followAlong (g : Grammar) (first : SymbolSets) (lhs : Symbol) : List Symbol → Growth → Growth
  | [], state => state
  | s :: rest, state =>
    if g.isNonterminal s then
      let ahead := firstOf g first rest
      let inherited := if Symbol.epsilon ∈ ahead then state.sets.getD lhs ∅ else ∅
      followAlong g first lhs rest (state.add s ((ahead.erase Symbol.epsilon).union inherited))
    else followAlong g first lhs rest state

def followPass (g : Grammar) (first : SymbolSets) (follow : SymbolSets) : Growth :=
  g.productions.foldl (fun state p => followAlong g first p.lhs p.rhs state) ⟨follow, ∅⟩

def initialFollow (g : Grammar) : SymbolSets :=
  (emptySets g).put g.start (SortedSet.ofList [Symbol.endMarker])

/-- The FOLLOW sets, with the log of the passes that filled them; the end marker after the start
symbol is a pass of its own. -/
def followSetsLogged (g : Grammar) (first : SymbolSets) : SymbolSets × List PassLog :=
  let grown := Growth.saturate (followPass g first) (passLimit g) (initialFollow g)
  (grown.1, OrderedMap.ofList [(g.start, [Symbol.endMarker])] :: grown.2)

def followSets (g : Grammar) (first : SymbolSets) : SymbolSets := (followSetsLogged g first).1

structure FirstFollow where
  first : SymbolSets
  follow : SymbolSets
  deriving DecidableEq

def FirstFollow.ofGrammar (g : Grammar) : FirstFollow :=
  let first := firstSets g
  { first, follow := followSets g first }

end TableParsing
