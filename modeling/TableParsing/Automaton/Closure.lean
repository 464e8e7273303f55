import TableParsing.Automaton.Item

/-!
Closed sets of items. With an item whose dot is before a nonterminal, a closed set holds the
initial items of that nonterminal. `closure` adds what is missing, `goto` moves the dot over one
symbol and closes the result.
-/

namespace TableParsing

abbrev State := SortedSet Item

def Item.predictions (a : Augmented) (i : Item) : List Item :=
  match i.next? with
  | none => []
  | some s => if a.isNonterminal s then (a.productionsFor s).map Item.ofProduction else []

/-- The members of `found` and the items that those in `queue` call for, directly or not. Each
round takes one item off the queue, `limit` of them at most. -/
def closeFrom (a : Augmented) : Nat → List Item → State → State
  | 0, _, found => found
  | _, [], found => found
  | limit + 1, i :: queue, found =>
    let fresh := SortedSet.ofList (i.predictions a) |>.diff found
    closeFrom a limit (queue ++ fresh.toList) (found.union fresh)

/-- More items than a queue can ever take: the given ones, and one for every production. -/
def closureLimit (a : Augmented) (items : State) : Nat :=
  items.size + a.grammar.productions.length + 1

def closure (a : Augmented) (items : List Item) : State :=
  let given : State := SortedSet.ofList items
  closeFrom a (closureLimit a given) given.toList given

def advanceOver (items : List Item) (s : Symbol) : List Item :=
  (items.filter fun i => !i.isReduce && i.next? == some s).map Item.advance

def goto (a : Augmented) (items : List Item) (s : Symbol) : State :=
  match advanceOver items s with
  | [] => ∅
  | moved => closure a moved

end TableParsing
