import TableParsing.Proofs.Grammar.Reordering
import TableParsing.Proofs.ShiftReduce.Safety

/- Shift-reduce tables of grammars with the same productions. Everything that the automaton takes
   from the grammar goes through sorted sets or asks for one production, so the same states are
   found in the same order and make the same claims. What depends on the number of productions is
   how far the two walks over the states may go, and both may go further than they do. -/
namespace TableParsing

/-- Two grammars with their synthetic start symbols that an automaton cannot tell apart. -/
structure Augmented.Alike (a b : Augmented) : Prop where
  start : a.start = b.start
  original : a.grammar.start = b.grammar.start
  nonterminals : a.grammar.nonterminals = b.grammar.nonterminals
  terminals : a.grammar.terminals = b.grammar.terminals
  closure : ∀ items, closure a items = closure b items
  productionOf : ∀ lhs body,
    ShiftReduce.productionOf a.grammar lhs body = ShiftReduce.productionOf b.grammar lhs body

namespace Augmented

variable {g h : Grammar} (same : g.Reordered h) (d : g.Declared) (d' : h.Declared)
include same d d'

theorem start_reordered : (ofGrammar g).start = (ofGrammar h).start := by
  unfold ofGrammar
  rw [same.nonterminals, same.terminals d d']

theorem mem_predictions_reordered {i j : Item} (call : j ∈ i.predictions (ofGrammar g)) :
    j ∈ i.predictions (ofGrammar h) := by
  have start := start_reordered same d d'
  obtain ⟨s, next, declared, p, member, rfl⟩ := mem_predictions.mp call
  refine mem_predictions.mpr ⟨s, next, ?_, p, ?_, rfl⟩
  · unfold isNonterminal Grammar.isNonterminal at declared ⊢
    rw [← start]
    change (decide (s = (ofGrammar g).start) || decide (s ∈ h.nonterminals)) = true
    rw [← same.nonterminals]
    exact declared
  · unfold productionsFor at member ⊢
    rw [← start]
    split at member
    · rename_i outer
      rw [if_pos outer]
      have own : (ofGrammar h).startProduction = (ofGrammar g).startProduction := by
        unfold startProduction
        rw [start]
        exact congrArg (fun s => (⟨(ofGrammar h).start, [s]⟩ : Production)) same.start.symm
      rw [own]
      exact member
    · rename_i inner
      rw [if_neg inner]
      obtain ⟨rule, left⟩ := d.mem_productionsFor.mp member
      exact d'.mem_productionsFor.mpr ⟨(same.productions p).mp rule, left⟩

theorem called_reordered {items : List Item} {i : Item} (called : Called (ofGrammar g) items i) :
    Called (ofGrammar h) items i := by
  induction called with
  | given member => exact .given member
  | predicted _ call ih => exact .predicted ih (mem_predictions_reordered same d d' call)

theorem productionOf_reordered (distinct : g.DistinctBodies) {lhs : Symbol} {body : List Symbol}
    {p : Production} (found : ShiftReduce.productionOf g lhs body = .ok p) :
    ShiftReduce.productionOf h lhs body = .ok p := by
  obtain ⟨rule, rfl, rfl⟩ := ShiftReduce.productionOf_eq_ok d found
  obtain ⟨q, found'⟩ := ShiftReduce.exists_productionOf d' ((same.productions p).mp rule)
  obtain ⟨rule', left, whole⟩ := ShiftReduce.productionOf_eq_ok d' found'
  rw [found', distinct p rule q ((same.productions q).mpr rule') left.symm whole.symm]

omit same d d' in
theorem error_of_productionOf {lhs : Symbol} {body : List Symbol} {e : ShiftReduce.Error}
    (failed : ShiftReduce.productionOf g lhs body = .error e) : e = .noProduction lhs body := by
  unfold ShiftReduce.productionOf at failed
  split at failed
  · cases failed
  · cases failed
    rfl

theorem alike_of_reordered (distinct : g.DistinctBodies) : (ofGrammar g).Alike (ofGrammar h) where
  start := start_reordered same d d'
  original := same.start
  nonterminals := same.nonterminals
  terminals := same.terminals d d'
  closure := by
    intro items
    refine SortedSet.ext fun i => ?_
    rw [mem_closure, mem_closure]
    exact ⟨called_reordered same d d', called_reordered same.symm d' d⟩
  productionOf := by
    intro lhs body
    cases found : ShiftReduce.productionOf g lhs body with
    | ok p => exact found.trans (productionOf_reordered same d d' distinct found).symm
    | error e =>
      cases found' : ShiftReduce.productionOf h lhs body with
      | ok q =>
        have back := productionOf_reordered same.symm d' d (same.distinctBodies distinct) found'
        cases found.symm.trans back
      | error e' =>
        refine found.trans (Eq.trans ?_ found'.symm)
        rw [error_of_productionOf found, error_of_productionOf found']

end Augmented

namespace Automaton

/-- Two automata with the same states and transitions over grammars that they cannot tell apart. -/
structure Alike (m m' : Automaton) : Prop where
  augmented : m.augmented.Alike m'.augmented
  states : m.states = m'.states
  transitions : m.transitions = m'.transitions

namespace Alike

variable {m m' : Automaton} (alike : Alike m m')
include alike

theorem goto (items : List Item) (s : Symbol) :
    TableParsing.goto m.augmented items s = TableParsing.goto m'.augmented items s := by
  unfold TableParsing.goto
  split
  · rfl
  · exact alike.augmented.closure _

theorem register (s : State) :
    (m.register s).1 = (m'.register s).1 ∧ Alike (m.register s).2 (m'.register s).2 := by
  unfold Automaton.register stateOf?
  rw [alike.states]
  cases m'.states.findIdx? (· = s) with
  | some n => exact ⟨rfl, alike⟩
  | none => exact ⟨rfl, ⟨alike.augmented, rfl, alike.transitions⟩⟩

theorem record (n : Int) (items : State) (s : Symbol) :
    (m.record n items s).1 = (m'.record n items s).1 ∧
      Alike (m.record n items s).2 (m'.record n items s).2 := by
  unfold Automaton.record
  dsimp only
  rw [alike.goto]
  split
  · exact ⟨rfl, alike⟩
  · obtain ⟨number, next⟩ := alike.register (TableParsing.goto m'.augmented items.toList s)
    refine ⟨congrArg some number, next.augmented, next.states, ?_⟩
    dsimp only
    rw [number, next.transitions]

theorem transition (n : Int) (items : State) (s : Symbol) :
    (m.transition n items s).1 = (m'.transition n items s).1 ∧
      Alike (m.transition n items s).2 (m'.transition n items s).2 := by
  unfold Automaton.transition
  rw [alike.transitions]
  cases m'.transitions.get? (n, s) with
  | some target => exact ⟨rfl, alike⟩
  | none => exact alike.record n items s

theorem foldl (n : Int) (items : State) (symbols : List Symbol) :
    Alike (symbols.foldl (fun m s => (m.record n items s).2) m)
      (symbols.foldl (fun m s => (m.record n items s).2) m') := by
  induction symbols generalizing m m' with
  | nil => exact alike
  | cons s rest ih => exact ih (alike.record n items s).2

theorem explore (symbols : List Symbol) (limit n : Nat) :
    Alike (explore symbols limit n m) (explore symbols limit n m') := by
  induction limit generalizing n m m' with
  | zero => exact alike
  | succ limit ih =>
    unfold Automaton.explore
    rw [← alike.states]
    cases m.states[n]? with
    | none => exact alike
    | some items => exact ih (alike.foldl n items symbols) (n + 1)

end Alike

theorem alike_build {a b : Augmented} (alike : a.Alike b) :
    Alike (ofAugmented a).build (ofAugmented b).build := by
  have symbols : a.symbols = b.symbols := by
    unfold Augmented.symbols Grammar.symbols
    rw [alike.terminals, alike.nonterminals]
  have production : a.startProduction = b.startProduction := by
    unfold Augmented.startProduction
    rw [alike.start, alike.original]
  have first : stateAfter a [] = stateAfter b [] := by
    change closure a [Item.ofProduction a.startProduction] =
      closure b [Item.ofProduction b.startProduction]
    rw [production, alike.closure]
  have start : Alike ⟨a, [stateAfter a []], ∅⟩ ⟨b, [stateAfter b []], ∅⟩ :=
    ⟨alike, congrArg (fun s => [s]) first, rfl⟩
  have enough : ∀ c : Augmented,
      (Automaton.explore c.symbols (stateLimit c) 0 ⟨c, [stateAfter c []], ∅⟩).states.length ≤
        0 + stateLimit c := by
    intro c
    rw [Nat.zero_add]
    exact (finished_build c).length_le
  rw [build_ofAugmented, build_ofAugmented, ← explore_limit (enough a) (stateLimit b),
    ← explore_limit (enough b) (stateLimit a), Nat.add_comm (stateLimit b), ← symbols]
  exact start.explore _ _ _

end Automaton

namespace ShiftReduce
open Automaton

variable {follow : SymbolSets} {m m' : Automaton}

/-- Claims of the same entries in the same order, at automata that are alike. -/
structure SameClaims (x y : Claims × Automaton) : Prop where
  entries : x.1.map Prod.fst = y.1.map Prod.fst
  automaton : Automaton.Alike x.2 y.2

theorem followOf_alike {a b : Augmented} (alike : a.Alike b) (s : Symbol) :
    followOf a follow s = followOf b follow s := by
  unfold followOf
  rw [alike.start]

theorem isNonterminal_alike {a b : Augmented} (alike : a.Alike b) (s : Symbol) :
    a.isNonterminal s = b.isNonterminal s := by
  unfold Augmented.isNonterminal Grammar.isNonterminal
  rw [alike.start, alike.nonterminals]

theorem claimsOfItem_alike (n : Nat) (items : State) (i : Item) (alike : Automaton.Alike m m') :
    (claimsOfItem follow n items m i).1 = (claimsOfItem follow n items m' i).1 ∧
      Automaton.Alike (claimsOfItem follow n items m i).2 (claimsOfItem follow n items m' i).2 := by
  unfold claimsOfItem
  rw [alike.augmented.start, alike.augmented.productionOf, followOf_alike alike.augmented]
  split
  · split
    · exact ⟨rfl, alike⟩
    · split
      · exact ⟨rfl, alike⟩
      · exact ⟨rfl, alike⟩
  · split
    · exact ⟨rfl, alike⟩
    · rename_i s _
      rw [isNonterminal_alike alike.augmented]
      split
      · exact ⟨rfl, alike⟩
      · obtain ⟨target, next⟩ := alike.transition n items s
        dsimp only
        rw [target]
        exact ⟨rfl, next⟩

theorem claimsOfNonterminal_alike (n : Nat) (items : State) (s : Symbol)
    (alike : Automaton.Alike m m') :
    (claimsOfNonterminal n items m s).1 = (claimsOfNonterminal n items m' s).1 ∧
      Automaton.Alike (claimsOfNonterminal n items m s).2 (claimsOfNonterminal n items m' s).2 := by
  obtain ⟨target, next⟩ := alike.transition n items s
  unfold claimsOfNonterminal
  dsimp only
  rw [target]
  exact ⟨rfl, next⟩

theorem gather_alike {α : Type} {claim : Automaton → α → List Claim × Automaton}
    (each : ∀ x m m', Automaton.Alike m m' →
      (claim m x).1 = (claim m' x).1 ∧ Automaton.Alike (claim m x).2 (claim m' x).2)
    (xs : List α) (alike : Automaton.Alike m m') :
    SameClaims (gather claim xs m) (gather claim xs m') := by
  induction xs generalizing m m' with
  | nil => exact ⟨rfl, alike⟩
  | cons x rest ih =>
    obtain ⟨mine, next⟩ := each x m m' alike
    obtain ⟨others, last⟩ := ih next
    unfold gather
    refine ⟨?_, last⟩
    dsimp only
    rw [List.map_append, List.map_append, others, mine, List.map_map, List.map_map]
    rfl

theorem claimsOfState_alike (n : Nat) (items : State) (alike : Automaton.Alike m m') :
    SameClaims (claimsOfState follow n items m) (claimsOfState follow n items m') := by
  have ofItems : SameClaims (gather (claimsOfItem follow n items) items.toList m)
      (gather (claimsOfItem follow n items) items.toList m') :=
    gather_alike (fun i _ _ => claimsOfItem_alike n items i) _ alike
  have ofNonterminals := gather_alike (fun s _ _ => claimsOfNonterminal_alike n items s)
    m.augmented.grammar.nonterminals.toList ofItems.automaton
  unfold claimsOfState
  refine ⟨?_, ?_⟩
  · dsimp only
    rw [List.map_append, List.map_append, ofItems.entries, ← alike.augmented.nonterminals,
      ofNonterminals.entries]
  · dsimp only
    rw [← alike.augmented.nonterminals]
    exact ofNonterminals.automaton

theorem claimsFrom_alike (limit n : Nat) (alike : Automaton.Alike m m') :
    SameClaims (claimsFrom follow limit n m) (claimsFrom follow limit n m') := by
  induction limit generalizing n m m' with
  | zero => exact ⟨rfl, alike⟩
  | succ limit ih =>
    unfold claimsFrom
    rw [← alike.states]
    cases m.states[n]? with
    | none => exact ⟨rfl, alike⟩
    | some items =>
      have here := @claimsOfState_alike follow m m' n items alike
      have rest := ih (n + 1) here.automaton
      refine ⟨?_, rest.automaton⟩
      dsimp only
      rw [List.map_append, List.map_append, here.entries, rest.entries]

/-- The claims of an automaton whose states have all been asked do not grow with the limit. -/
theorem claimsFrom_limit {limit n : Nat}
    (enough : (claimsFrom follow limit n m).2.states.length ≤ n + limit) (more : Nat) :
    claimsFrom follow (limit + more) n m = claimsFrom follow limit n m := by
  induction limit generalizing n m with
  | zero =>
    have done : m.states[n]? = none := List.getElem?_eq_none enough
    cases more with
    | zero => rfl
    | succ more =>
      rw [Nat.zero_add]
      unfold claimsFrom
      rw [done]
  | succ limit ih =>
    have longer : limit + 1 + more = limit + more + 1 := by omega
    rw [longer]
    unfold claimsFrom at enough ⊢
    cases here : m.states[n]? with
    | none => rfl
    | some items =>
      rw [here] at enough
      dsimp only at enough ⊢
      rw [ih (by omega)]

theorem claims_alike {g h : Grammar} (d : g.Declared) (d' : h.Declared)
    (alike : (Augmented.ofGrammar g).Alike (Augmented.ofGrammar h)) :
    SameClaims (claims follow (automaton g)) (claims follow (automaton h)) := by
  have enough : ∀ {k : Grammar}, k.Declared →
      (claimsFrom follow (stateLimit (automaton k)) 0 (automaton k)).2.states.length ≤
        0 + stateLimit (automaton k) := by
    intro k declared
    rw [claimsFrom_unchanged declared (finished_automaton k)]
    unfold stateLimit
    dsimp only
    omega
  unfold claims
  rw [← claimsFrom_limit (enough d) (stateLimit (automaton h)),
    ← claimsFrom_limit (enough d') (stateLimit (automaton g)),
    Nat.add_comm (stateLimit (automaton h))]
  exact claimsFrom_alike _ _ (alike_build alike)

/-- Builders that hold the same, over automata of their own. -/
structure Builder.Alike (b c : Builder) : Prop where
  mode : b.mode = c.mode
  action : b.action = c.action
  goto : b.goto = c.goto
  conflicts : b.conflicts = c.conflicts

/-- Two attempts come to builders that are alike, or stop on the same error. -/
inductive AlikeResults : Except Stopped Builder → Except Stopped Builder → Prop where
  | ok {b c : Builder} (alike : b.Alike c) : AlikeResults (.ok b) (.ok c)
  | error {s t : Stopped} (same : s.error = t.error) : AlikeResults (.error s) (.error t)

theorem setAction_alike {b c : Builder} (alike : b.Alike c) (state : Int) (s : Symbol)
    (act : Action) : AlikeResults (b.setAction state s act) (c.setAction state s act) := by
  unfold Builder.setAction
  rw [alike.action, alike.conflicts, alike.mode]
  cases c.action.get? (state, s) with
  | none => exact .ok ⟨rfl, rfl, alike.goto, rfl⟩
  | some existing =>
    dsimp only
    split
    · exact .ok alike
    · split
      · exact .ok alike
      · split
        · exact .ok ⟨rfl, rfl, alike.goto, rfl⟩
        · cases c.mode with
          | stop => exact .error rfl
          | collect => exact .ok ⟨rfl, rfl, alike.goto, rfl⟩

theorem setGoto_alike {b c : Builder} (alike : b.Alike c) (state target : Int) (s : Symbol) :
    AlikeResults (b.setGoto state s target) (c.setGoto state s target) := by
  unfold Builder.setGoto
  rw [alike.goto]
  cases c.goto.get? (state, s) with
  | none => exact .ok ⟨alike.mode, alike.action, rfl, alike.conflicts⟩
  | some existing =>
    dsimp only
    split
    · exact .ok alike
    · exact .error rfl

theorem settle_alike {b c : Builder} (alike : b.Alike c) {x y : Claim × Automaton}
    (same : x.1 = y.1) : AlikeResults (b.settle x) (c.settle y) := by
  obtain ⟨claim, m⟩ := x
  obtain ⟨_, m'⟩ := y
  cases same
  have now : Builder.Alike { b with automaton := m } { c with automaton := m' } :=
    ⟨alike.mode, alike.action, alike.goto, alike.conflicts⟩
  cases claim with
  | action state s act => exact setAction_alike now state s act
  | goto state s target => exact setGoto_alike now state target s
  | failure e => exact .error rfl

theorem foldlM_settle_alike {cs cs' : Claims} (same : cs.map Prod.fst = cs'.map Prod.fst)
    {b c : Builder} (alike : b.Alike c) :
    AlikeResults (cs.foldlM Builder.settle b) (cs'.foldlM Builder.settle c) := by
  induction cs generalizing cs' b c with
  | nil =>
    obtain rfl := List.map_eq_nil_iff.mp same.symm
    exact .ok alike
  | cons x rest ih =>
    obtain ⟨y, rest', rfl, first, others⟩ := List.map_eq_cons_iff.mp same.symm
    rw [List.foldlM_cons, List.foldlM_cons]
    have settled := settle_alike alike first.symm
    generalize b.settle x = r at settled ⊢
    generalize c.settle y = r' at settled ⊢
    cases settled with
    | ok alike' => exact ih others.symm alike'
    | error same' => exact .error same'

/-- What tables hold, without the grammar that they belong to. -/
def Tables.contents (t : Tables) : ActionTable × GotoTable × List State :=
  (t.action, t.goto, t.states)

section Grammars

variable {g h : Grammar} (d : g.Declared) (d' : h.Declared)
  (alike : (Augmented.ofGrammar g).Alike (Augmented.ofGrammar h))
include d d' alike

theorem builder_alike (follow : SymbolSets) (mode : OnConflict) : AlikeResults
    (Builder.new g follow mode).build (Builder.new h follow mode).build := by
  have settled := @foldlM_settle_alike _ _ (@claims_alike follow g h d d' alike).entries
    (started g follow mode) (started h follow mode) ⟨rfl, rfl, rfl, rfl⟩
  rw [build_new, build_new]
  generalize (claims follow (automaton g)).2 = m
  generalize (claims follow (automaton h)).2 = m'
  generalize (claims follow (automaton g)).1.foldlM Builder.settle (started g follow mode) = r
    at settled ⊢
  generalize (claims follow (automaton h)).1.foldlM Builder.settle (started h follow mode) = r'
    at settled ⊢
  cases settled with
  | ok held => exact .ok ⟨held.mode, held.action, held.goto, held.conflicts⟩
  | error same => exact .error same

theorem build_alike (follow : SymbolSets) :
    (build g follow).map Tables.contents = (build h follow).map Tables.contents := by
  have results := builder_alike d d' alike follow .stop
  have states : ∀ t t', build g follow = .ok t → build h follow = .ok t' →
      t.states = t'.states := by
    intro t t' built built'
    rw [states_of_build d built, states_of_build d' built']
    exact (alike_build alike).states
  unfold build at states ⊢
  generalize (Builder.new g follow .stop).build = r at results states ⊢
  generalize (Builder.new h follow .stop).build = r' at results states ⊢
  cases results with
  | @ok b c held =>
    have held' : b.tables.contents = c.tables.contents := by
      unfold Tables.contents
      rw [states b.tables c.tables rfl rfl]
      exact congr (congrArg Prod.mk held.action) (congrArg (·, c.tables.states) held.goto)
    exact congrArg Except.ok held'
  | error same => exact congrArg Except.error same

theorem conflicts_alike (follow : SymbolSets) : conflicts g follow = conflicts h follow := by
  have results := builder_alike d d' alike follow .collect
  unfold conflicts
  generalize (Builder.new g follow .collect).build = r at results ⊢
  generalize (Builder.new h follow .collect).build = r' at results ⊢
  cases results with
  | ok held => exact congrArg Except.ok held.conflicts
  | error same => exact congrArg Except.error same

end Grammars

end ShiftReduce
end TableParsing
