import TableParsing.Proofs.Automaton.Collection

/- The items of the synthetic start symbol. Its name is new to the grammar, so no item calls for it:
   the initial item is in the first state only, and the completed one in the one state that the
   first state enters over the start symbol of the grammar. No transition leads back to the first
   state, since a state that is entered has an item whose dot has moved. -/
namespace TableParsing.Automaton

variable {a : Augmented} {g : Grammar} {m k : Automaton} {items : State} {s : Symbol}

/-- An item that a list calls for is one of the list or an initial one. -/
theorem dot_of_called {given : List Item} {i : Item} (called : Called a given i) :
    i ∈ given ∨ i.dot = 0 := by
  cases called with
  | given member => exact Or.inl member
  | predicted _ call =>
    obtain ⟨_, _, _, p, _, rfl⟩ := mem_predictions.mp call
    exact Or.inr rfl

theorem dot_pos_of_advanced {given : List Item} (ahead : ∀ i ∈ given, 0 ≤ i.dot) {j : Item}
    (moved : j ∈ advanceOver given s) : 0 < j.dot := by
  obtain ⟨i, member, _, _, rfl⟩ := mem_advanceOver.mp moved
  have le := ahead i member
  change 0 < i.dot + 1
  omega

theorem dot_zero_of_first {i : Item} (member : i ∈ stateAfter a []) : i.dot = 0 := by
  rcases dot_of_called (mem_closure.mp member) with given | initial
  · rw [List.mem_singleton.mp given]
    rfl
  · exact initial

theorem dot_nonneg_of_goto {given : List Item} (ahead : ∀ i ∈ given, 0 ≤ i.dot) {j : Item}
    (member : j ∈ goto a given s) : 0 ≤ j.dot := by
  rcases dot_of_called (mem_goto.mp member) with moved | initial
  · exact Int.le_of_lt (dot_pos_of_advanced ahead moved)
  · exact Int.le_of_eq initial.symm

/-- A state that is entered has an item whose dot has moved, and the first state has none. -/
theorem goto_ne_first {given : List Item} (ahead : ∀ i ∈ given, 0 ≤ i.dot) (s : Symbol) :
    goto a given s ≠ stateAfter a [] := by
  intro same
  have start : Item.ofProduction a.startProduction ∈ goto a given s := by
    rw [same]
    exact mem_closure.mpr (.given List.mem_cons_self)
  obtain ⟨j, moved⟩ := exists_given (mem_goto.mp start)
  have entered : j ∈ goto a given s := mem_goto.mpr (.given moved)
  rw [same] at entered
  have zero := dot_zero_of_first entered
  have positive := dot_pos_of_advanced ahead moved
  omega

/-- An automaton whose first state has its place and is not entered. -/
structure Rooted (a : Augmented) (m : Automaton) : Prop where
  augmented : m.augmented = a
  first : m.states[0]? = some (stateAfter a [])
  ahead : ∀ items ∈ m.states, ∀ i ∈ items, 0 ≤ i.dot
  forward : ∀ cell target, m.transitions.get? cell = some target → target ≠ 0

theorem rooted_first (a : Augmented) : Rooted a ⟨a, [stateAfter a []], ∅⟩ where
  augmented := rfl
  first := rfl
  ahead := by
    intro items member i hi
    rw [List.mem_singleton.mp member] at hi
    exact Int.le_of_eq (dot_zero_of_first hi).symm
  forward := by
    intro cell target found
    rw [CellMap.get?_empty] at found
    cases found

namespace Rooted

theorem goto_ne (h : Rooted a m) (member : items ∈ m.states) (s : Symbol) :
    goto a items.toList s ≠ stateAfter a [] :=
  goto_ne_first (h.ahead items member) s

theorem register_ne (h : Rooted a m) (member : items ∈ m.states) (s : Symbol) :
    (m.register (goto a items.toList s)).1 ≠ 0 := by
  intro zero
  have place := (register_spec m (goto a items.toList s)).1
  rw [zero, getElem?_register h.first] at place
  exact h.goto_ne member s (Option.some.inj place).symm

theorem record (h : Rooted a m) (member : items ∈ m.states) (source : Int) (s : Symbol) :
    Rooted a (m.record source items s).2 ∧
      ∀ target, (m.record source items s).1 = some target → target ≠ 0 := by
  have apart := h.register_ne member s
  obtain ⟨_, augmented, transitions, grown⟩ := register_spec m (goto a items.toList s)
  unfold Automaton.record
  rw [h.augmented]
  dsimp only
  split
  · refine ⟨h, ?_⟩
    intro target found
    cases found
  · refine ⟨⟨augmented.trans h.augmented, getElem?_register h.first, ?ahead, ?forward⟩, ?answer⟩
    case ahead =>
      intro others known i hi
      rcases grown with same | ⟨_, longer⟩
      · exact h.ahead others (same ▸ known) i hi
      · dsimp only at known
        rw [longer, List.mem_append, List.mem_singleton] at known
        rcases known with old | rfl
        · exact h.ahead others old i hi
        · exact dot_nonneg_of_goto (h.ahead items member) hi
    case forward =>
      intro cell target found
      dsimp only at found
      rw [CellMap.get?_put, transitions] at found
      split at found
      · exact Option.some.inj found ▸ apart
      · exact h.forward cell target found
    case answer =>
      intro target found
      exact Option.some.inj found ▸ apart

theorem lookup (h : Rooted a m) {n : Int} {found : Option Nat}
    (answer : m.gotoState n s = .ok (found, k)) :
    Rooted a k ∧ ∀ target, found = some target → target ≠ 0 := by
  rcases gotoState_cases answer with ⟨target, recorded, rfl, rfl⟩ | ⟨_, items, there, made⟩
  · refine ⟨h, ?_⟩
    intro other same
    exact Option.some.inj same ▸ h.forward _ _ recorded
  · have kept := h.record (mem_of_getState there) n s
    rw [made] at kept
    exact kept

end Rooted

theorem rooted_build (a : Augmented) : Rooted a (ofAugmented a).build := by
  apply (walk_build a).keeps _ (rooted_first a)
  intro m n items s here h
  exact (h.record (List.mem_of_getElem? here) n s).1

theorem rooted_of_asked (asked : Asked (ofAugmented a).build k) : Rooted a k := by
  induction asked with
  | start => exact rooted_build a
  | lookup _ answer ih => exact (ih.lookup answer).1

section Items

variable (d : g.Declared) {read : List Symbol}
include d

theorem mem_stateAfter_start :
    Item.ofProduction (Augmented.ofGrammar g).startProduction ∈ stateAfter (.ofGrammar g) read ↔
      read = [] := by
  rw [ofProduction_start d, mem_stateAfter d, Valid.start_iff d]
  exact and_iff_left rfl

theorem mem_stateAfter_completed :
    (Item.ofProduction (Augmented.ofGrammar g).startProduction).advance ∈
      stateAfter (.ofGrammar g) read ↔ read = [g.start] := by
  rw [ofProduction_start d, Item.advance_dotted, mem_stateAfter d, Valid.start_iff d]
  exact and_iff_left rfl

theorem eq_start_of_mem {i : Item} (member : i ∈ stateAfter (.ofGrammar g) read)
    (own : i.lhs = (Augmented.ofGrammar g).start) (initial : i.dot = 0) :
    i = Item.ofProduction (Augmented.ofGrammar g).startProduction := by
  obtain ⟨lhs, done, todo, rfl, item⟩ := valid_of_mem d member
  obtain rfl : lhs = (Augmented.ofGrammar g).start := own
  obtain rfl : done = [] := List.length_eq_zero_iff.mp (Int.ofNat.inj initial)
  have whole := item.start_body d
  rw [List.nil_append] at whole
  rw [ofProduction_start d, whole]

end Items

/-- The first state and the state of number `accepting` share the items of the synthetic start
symbol: the one has the initial item, and the other, which the first one enters over the start
symbol of the grammar, has the completed one. -/
structure StartItems (g : Grammar) (m : Automaton) (accepting : Nat) : Prop where
  only : ∀ items ∈ m.states, ∀ i ∈ items, i.lhs = (Augmented.ofGrammar g).start → i.dot = 0 →
    i = Item.ofProduction (Augmented.ofGrammar g).startProduction
  initial : ∀ n items, m.states[n]? = some items →
    (Item.ofProduction (Augmented.ofGrammar g).startProduction ∈ items ↔ n = 0)
  completed : ∀ n items, m.states[n]? = some items →
    ((Item.ofProduction (Augmented.ofGrammar g).startProduction).advance ∈ items ↔ n = accepting)
  entered : ∃ first, m.states[0]? = some first ∧
    m.states[accepting]? = some (goto (.ofGrammar g) first.toList g.start)
  move : m.transitions.get? (0, g.start) = some accepting

theorem exists_startItems (d : g.Declared) :
    ∃ accepting, StartItems g (ofAugmented (.ofGrammar g)).build accepting := by
  have c := canonical_build d
  have held := (mem_stateAfter_completed d).mpr (rfl : [g.start] = [g.start])
  have known := c.goto_mem (List.mem_of_getElem? c.first) ⟨_, held⟩
  obtain ⟨accepting, entered⟩ := List.getElem?_of_mem known
  refine ⟨accepting, ?only, ?initial, ?completed, ⟨_, c.first, entered⟩, ?move⟩
  case only =>
    intro items member i hi
    obtain ⟨_, read, rfl⟩ := (c.mem_states items).mp member
    exact eq_start_of_mem d hi
  case initial =>
    intro n items here
    obtain ⟨_, read, rfl⟩ := (c.mem_states items).mp (List.mem_of_getElem? here)
    constructor
    · intro member
      rw [(mem_stateAfter_start d).mp member] at here
      exact number_unique c.distinct here c.first
    · rintro rfl
      rw [Option.some.inj (here.symm.trans c.first)]
      exact (mem_stateAfter_start d).mpr rfl
  case completed =>
    intro n items here
    obtain ⟨_, read, rfl⟩ := (c.mem_states items).mp (List.mem_of_getElem? here)
    constructor
    · intro member
      rw [(mem_stateAfter_completed d).mp member] at here
      exact number_unique c.distinct here entered
    · rintro rfl
      rw [Option.some.inj (here.symm.trans entered)]
      exact held
  case move =>
    exact (c.transition 0 g.start accepting).mpr ⟨0, _, rfl, c.first, ⟨_, held⟩, entered⟩

/-- Lookups leave the items of the synthetic start symbol where they are. -/
theorem StartItems.unmoved {accepting : Nat} (h : StartItems g m accepting)
    (same : Unmoved m k) : StartItems g k accepting where
  only := same.states.symm ▸ h.only
  initial := same.states.symm ▸ h.initial
  completed := same.states.symm ▸ h.completed
  entered := same.states.symm ▸ h.entered
  move := (same.transitions 0 g.start).trans h.move

/-- The name of the synthetic start symbol is primed until no declared symbol has it. Items whose
dots are not below zero never lead to the first state, so no state of the automaton does, whatever
has been looked up. In a grammar that is built rule by rule no alternative has the synthetic symbol,
and two states share its items. -/
theorem synthetic_start_fresh (g : Grammar) :
    let a := Augmented.ofGrammar g
    let first := closure a [Item.ofProduction a.startProduction]
    let found := (ofAugmented a).build
    Priming g.Names "Z" a.start.name ∧
    (∀ s, s ∈ g.terminals ∨ s ∈ g.nonterminals → s.name ≠ a.start.name) ∧
    (∀ items : List Item, (∀ i ∈ items, 0 ≤ i.dot) → ∀ s, goto a items s ≠ first) ∧
    (∀ k, Asked found k → k.states[0]? = some first ∧
      (∀ items ∈ k.states, ∀ s, k.states[0]? ≠ some (goto a items.toList s)) ∧
      ∀ n s target next, k.gotoState n s = .ok (some target, next) → target ≠ 0) ∧
    (g.Built →
      (∀ p ∈ g.productions, a.start ∉ p.rhs) ∧
      ∃ accepting, ∀ k, Asked found k → StartItems g k accepting) := by
  intro a first found
  refine ⟨Augmented.priming_start g, ?names, fun _ => goto_ne_first, ?rooted, ?items⟩
  case names =>
    intro s declared same
    exact Augmented.not_names_start ⟨s, declared, same⟩
  case rooted =>
    intro k asked
    have rooted := rooted_of_asked asked
    refine ⟨rooted.first, ?_, ?_⟩
    · intro items member s same
      exact rooted.goto_ne member s (Option.some.inj (same.symm.trans rooted.first))
    · intro n s target next answer
      exact (rooted.lookup answer).2 target rfl
  case items =>
    intro built
    have d := Grammar.built_declared built
    refine ⟨fun p rule => d.start_not_mem_rhs rule, ?_⟩
    obtain ⟨accepting, places⟩ := exists_startItems d
    refine ⟨accepting, ?_⟩
    intro k asked
    have own : found.augmented = a := (finished_build a).augmented
    exact places.unmoved (unmoved_of_asked (canonical_build d) own asked)

/-- A grammar with a nonterminal `Z` and a terminal `Z'`. -/
def crowded : Grammar :=
  ((Grammar.ofStart (.nonterminal "S")).define (.nonterminal "S")
    [[.terminal "a"], [.nonterminal "Z", .terminal "Z'"]]).define
    (.nonterminal "Z") [[.terminal "Z'", .nonterminal "S"], []]

theorem crowded_built : crowded.Built := by
  refine Grammar.built_define (Grammar.built_define (Grammar.built_ofStart rfl) rfl ?_) rfl ?_
  all_goals decide

/-- It takes two primes to get a new name, and the accepting state is found as the fourth. -/
theorem crowded_start :
    let found := (ofAugmented (.ofGrammar crowded)).build
    (Augmented.ofGrammar crowded).start = .nonterminal "Z''" ∧
    Priming crowded.Names "Z" "Z''" ∧
    (∀ p ∈ crowded.productions, .nonterminal "Z''" ∉ p.rhs) ∧
    ∀ k, Asked found k → StartItems crowded k 3 ∧
      ∀ n s next, k.gotoState n s ≠ .ok (some 0, next) := by
  have name : (Augmented.ofGrammar crowded).start = .nonterminal "Z''" := by
    decide +kernel
  have entered : (ofAugmented (.ofGrammar crowded)).build.transitions.get?
      (0, .nonterminal "S") = some 3 := by
    decide +kernel
  intro found
  obtain ⟨priming, _, _, apart, items⟩ := synthetic_start_fresh crowded
  obtain ⟨unused, accepting, places⟩ := items crowded_built
  rw [name] at priming unused
  obtain rfl : accepting = 3 :=
    Option.some.inj ((places found .start).move.symm.trans entered)
  refine ⟨name, priming, unused, ?_⟩
  intro k asked
  refine ⟨places k asked, ?_⟩
  intro n s next answer
  exact (apart k asked).2.2 n s 0 next answer rfl

end TableParsing.Automaton
