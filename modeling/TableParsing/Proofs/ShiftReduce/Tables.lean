import TableParsing.Proofs.Automaton.Collection
import TableParsing.Proofs.ShiftReduce.Safety

/- What finished tables hold, read off the items of their states, whatever symbols are said to
   follow. The claims of a state are what its items call for. Every claim of a cell but a displaced
   reduction is in the cell, and the only thing that displaces is acceptance, so acceptance comes
   first, then a shift, then a reduction, and no cell holds anything else. -/
namespace TableParsing.ShiftReduce
open Automaton

variable {g : Grammar} {follow : SymbolSets}

/-- The end marker behind the whole start item. -/
def Accepting (g : Grammar) (items : State) (s : Symbol) : Prop :=
  s = Symbol.endMarker ∧ Item.dotted (Augmented.ofGrammar g).start [g.start] [] ∈ items

/-- A symbol that is no nonterminal behind the dot of some item, and the number of the state that
the items move to. -/
def Shifting (g : Grammar) (states : List State) (items : State) (s : Symbol) (target : Int) :
    Prop :=
  s ∉ g.nonterminals ∧ (∃ lhs done todo, Item.dotted lhs done (s :: todo) ∈ items) ∧
    ∃ k : Nat, target = k ∧ states[k]? = some (goto (.ofGrammar g) items.toList s)

/-- A symbol that follows the left-hand side of some completed item, and the first production of
that body. -/
def Reducing (g : Grammar) (follow : SymbolSets) (items : State) (s : Symbol) (p : Production) :
    Prop :=
  ∃ lhs body, Item.dotted lhs body [] ∈ items ∧ lhs ≠ (Augmented.ofGrammar g).start ∧
    s ∈ follow.getD lhs ∅ ∧ (g.productionsFor lhs).find? (·.body = body) = some p

/-- The action that is declared for a state under a symbol: acceptance if it is called for, else a
shift, else a reduction. -/
inductive Entry (g : Grammar) (follow : SymbolSets) (states : List State) (items : State)
    (s : Symbol) : Action → Prop where
  | accept (accepts : Accepting g items s) : Entry g follow states items s .accept
  | shift {target : Int} (unaccepted : ¬ Accepting g items s)
      (shifts : Shifting g states items s target) : Entry g follow states items s (.shift target)
  | reduce {p : Production} (unaccepted : ¬ Accepting g items s)
      (unshifted : ∀ target, ¬ Shifting g states items s target)
      (reduces : Reducing g follow items s p) : Entry g follow states items s (.reduce p)

theorem productionOf_eq_ok_iff {lhs : Symbol} {body : List Symbol} {p : Production} :
    productionOf g lhs body = .ok p ↔
      (g.productionsFor lhs).find? (·.body = body) = some p := by
  unfold productionOf
  split
  · rename_i q found
    rw [found, Except.ok.injEq, Option.some.injEq]
  · rename_i none
    simp [none]

section State

variable (d : g.Declared) {k : Nat} {read : List Symbol} {s : Symbol}
include d

theorem claimed_accept_iff : Claimed g follow (automaton g) k read s .accept ↔
    Accepting g (stateAfter (.ofGrammar g) read) s := by
  unfold Accepting
  rw [mem_stateAfter d]
  constructor
  · intro claimed
    cases claimed with
    | accept item => exact ⟨rfl, item⟩
  · intro accepts
    obtain ⟨rfl, item⟩ := accepts
    exact .accept item

theorem claimed_reduce_iff {p : Production} :
    Claimed g follow (automaton g) k read s (.reduce p) ↔
      Reducing g follow (stateAfter (.ofGrammar g) read) s p := by
  constructor
  · intro claimed
    cases claimed with
    | @reduce lhs _ body _ item ne found after =>
      exact ⟨lhs, body, (mem_stateAfter d).mpr item, ne, after, productionOf_eq_ok_iff.mp found⟩
  · intro reduces
    obtain ⟨lhs, body, member, ne, after, found⟩ := reduces
    exact .reduce ((mem_stateAfter d).mp member) ne (productionOf_eq_ok_iff.mpr found) after

theorem claimed_shift_iff
    (here : (automaton g).states[k]? = some (stateAfter (.ofGrammar g) read)) {target : Int} :
    Claimed g follow (automaton g) k read s (.shift target) ↔
      Shifting g (automaton g).states (stateAfter (.ofGrammar g) read) s target := by
  have transition := (canonical_build d).transition k s
  constructor
  · intro claimed
    cases claimed with
    | @shift lhs _ done todo next item terminal move =>
      obtain ⟨j, items, number, there, _, entry⟩ := (transition next).mp move
      obtain rfl : k = j := Int.ofNat.inj number
      obtain rfl := Option.some.inj (here.symm.trans there)
      refine ⟨d.terminal_not_nonterminal terminal, ?_, next, rfl, entry⟩
      exact ⟨lhs, done, todo, (mem_stateAfter d).mpr item⟩
  · intro shifts
    obtain ⟨plain, ⟨lhs, done, todo, member⟩, next, rfl, entry⟩ := shifts
    have item := (mem_stateAfter d).mp member
    have terminal := (item.mem_todo d List.mem_cons_self).resolve_right plain
    have moved := (mem_stateAfter d).mpr item.advance
    rw [stateAfter_concat] at moved
    have move := (transition next).mpr ⟨k, _, rfl, here, ⟨_, moved⟩, entry⟩
    exact .shift item terminal move

end State

section Tables

variable {t : Tables} (d : g.Declared) (built : build g follow = .ok t)
include d built

/-- The cell of a state holds the action that its items declare. -/
theorem cell_iff_entry {k : Nat} {items : State} (here : (automaton g).states[k]? = some items)
    {s : Symbol} {act : Action} : t.action.get? ((k : Int), s) = some act ↔
      Entry g follow (automaton g).states items s act := by
  obtain ⟨read, rfl⟩ := (finished_automaton g).reached items (List.mem_of_getElem? here)
  have accept : Accepting g (stateAfter (.ofGrammar g) read) s →
      t.action.get? ((k : Int), s) = some .accept := by
    intro accepts
    exact cell_of_kept d built here ((claimed_accept_iff d).mpr accepts) rfl
  have shift : ∀ {target},
      Shifting g (automaton g).states (stateAfter (.ofGrammar g) read) s target →
        t.action.get? ((k : Int), s) = some (.shift target) := by
    intro target shifts
    exact cell_of_kept d built here ((claimed_shift_iff d here).mpr shifts) rfl
  constructor
  · intro found
    have claimed := claimed_of_cell d built here found
    have unaccepted : act ≠ .accept → ¬ Accepting g (stateAfter (.ofGrammar g) read) s := by
      intro other accepts
      exact other (Option.some.inj (found.symm.trans (accept accepts)))
    cases act with
    | accept => exact .accept ((claimed_accept_iff d).mp claimed)
    | shift target =>
      exact .shift (unaccepted (by simp)) ((claimed_shift_iff d here).mp claimed)
    | reduce p =>
      refine .reduce (unaccepted (by simp)) ?_ ((claimed_reduce_iff d).mp claimed)
      intro target shifts
      cases found.symm.trans (shift shifts)
    | reduceUnknown => cases claimed
  · intro entry
    cases entry with
    | accept accepts => exact accept accepts
    | shift _ shifts => exact shift shifts
    | reduce unaccepted _ reduces =>
      rcases cell_of_claimed d built here ((claimed_reduce_iff d).mpr reduces) with
        own | ⟨accepts, _⟩
      · exact own
      · have claimed := claimed_of_cell d built here accepts
        exact absurd ((claimed_accept_iff d).mp claimed) unaccepted

theorem action_iff_entry {n : Int} {s : Symbol} {act : Action} :
    t.action.get? (n, s) = some act ↔ ∃ (k : Nat) (items : State), n = k ∧
      (automaton g).states[k]? = some items ∧ Entry g follow (automaton g).states items s act := by
  constructor
  · intro found
    obtain ⟨k, read, here, rfl, _⟩ := exists_claimed_of_cell d built found
    exact ⟨k, _, rfl, here, (cell_iff_entry d built here).mp found⟩
  · intro spec
    obtain ⟨k, items, rfl, here, entry⟩ := spec
    exact (cell_iff_entry d built here).mpr entry

theorem goto_iff_moved {n : Int} {s : Symbol} {target : Int} :
    t.goto.get? (n, s) = some target ↔ s ∈ g.nonterminals ∧ ∃ (k : Nat) (items : State), n = k ∧
      (automaton g).states[k]? = some items ∧ (∃ i, i ∈ goto (.ofGrammar g) items.toList s) ∧
      ∃ j : Nat, target = j ∧
        (automaton g).states[j]? = some (goto (.ofGrammar g) items.toList s) := by
  rw [get?_goto d built]
  have transition := (canonical_build d).transition n s
  constructor
  · intro found
    obtain ⟨member, j, move, rfl⟩ := found
    obtain ⟨k, items, number, here, moves, entry⟩ := (transition j).mp move
    exact ⟨member, k, items, number, here, moves, j, rfl, entry⟩
  · intro spec
    obtain ⟨member, k, items, number, here, moves, j, rfl, entry⟩ := spec
    exact ⟨member, j, (transition j).mpr ⟨k, items, number, here, moves, entry⟩, rfl⟩

end Tables

/-- Tables that are built for any symbols said to follow hold what the items of their states
declare, and nothing else: an action under each symbol, and the state after each nonterminal. What
they lead to are states. -/
theorem tables_exact (built : g.Built) {t : Tables} (made : build g follow = .ok t) :
    t.states = (automaton g).states ∧
    (∀ (n : Int) (s : Symbol) (act : Action), t.action.get? (n, s) = some act ↔
      ∃ (k : Nat) (items : State), n = k ∧ t.states[k]? = some items ∧
        Entry g follow t.states items s act) ∧
    (∀ (n : Int) (s : Symbol) (target : Int), t.goto.get? (n, s) = some target ↔
      s ∈ g.nonterminals ∧ ∃ (k : Nat) (items : State), n = k ∧ t.states[k]? = some items ∧
        (∃ i, i ∈ goto (.ofGrammar g) items.toList s) ∧
        ∃ j : Nat, target = j ∧ t.states[j]? = some (goto (.ofGrammar g) items.toList s)) ∧
    ∀ (n : Int) (s : Symbol) (target : Int),
      t.action.get? (n, s) = some (.shift target) ∨ t.goto.get? (n, s) = some target →
        ∃ j : Nat, target = j ∧ j < t.states.length := by
  have d := Grammar.built_declared built
  have states := states_of_build d made
  rw [states]
  refine ⟨rfl, fun n s act => action_iff_entry d made, fun n s target => goto_iff_moved d made, ?_⟩
  intro n s target written
  rcases written with shift | goto
  · obtain ⟨_, _, _, _, entry⟩ := (action_iff_entry d made).mp shift
    cases entry with
    | shift _ shifts =>
      obtain ⟨_, _, j, number, there⟩ := shifts
      exact ⟨j, number, (List.getElem?_eq_some_iff.mp there).1⟩
  · obtain ⟨_, _, _, _, _, _, j, number, there⟩ := (goto_iff_moved d made).mp goto
    exact ⟨j, number, (List.getElem?_eq_some_iff.mp there).1⟩

/-- Behind the start symbol the end marker and `b` call for one reduction; acceptance has displaced
it under the end marker only. -/
theorem trailing_tables :
    let follow := (FirstFollow.ofGrammar trailing).follow
    let items := stateAfter (.ofGrammar trailing) [.nonterminal "S"]
    let vanishing : Production := ⟨.nonterminal "A", [.epsilon]⟩
    ∃ t, build trailing follow = .ok t ∧ t.states[2]? = some items ∧
      Reducing trailing follow items .endMarker vanishing ∧
      t.action.get? (2, .endMarker) = some .accept ∧
      t.action.get? (2, .terminal "b") = some (.reduce vanishing) := by
  intro follow items vanishing
  have found : (build trailing follow).toOption.any (fun t => t.states[2]? = some items) := by
    decide +kernel
  have completed : Item.dotted (.nonterminal "A") [] [] ∈ items := by decide +kernel
  have whole : Item.dotted (Augmented.ofGrammar trailing).start [.nonterminal "S"] [] ∈ items := by
    decide +kernel
  have still : ∀ i ∈ items.toList, i.next? ≠ some (.terminal "b") := by decide +kernel
  have reduces : ∀ s ∈ follow.getD (.nonterminal "A") ∅,
      Reducing trailing follow items s vanishing := by
    intro s after
    exact ⟨_, _, completed, by decide, after, by decide⟩
  obtain ⟨t, made, h⟩ := exists_ok_of_any found
  have here := of_decide_eq_true h
  obtain ⟨_, actions, _⟩ := tables_exact trailing_built made
  refine ⟨t, made, here, reduces _ (by decide +kernel), ?_, ?_⟩
  · exact (actions 2 _ _).mpr ⟨2, items, rfl, here, .accept ⟨rfl, whole⟩⟩
  · refine (actions 2 _ _).mpr ⟨2, items, rfl, here, .reduce ?_ ?_ (reduces _ (by decide +kernel))⟩
    · intro accepts
      cases accepts.1
    · intro target shifts
      obtain ⟨_, ⟨_, _, _, member⟩, _⟩ := shifts
      exact still _ member Item.next?_dotted_cons

end TableParsing.ShiftReduce
