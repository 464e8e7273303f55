import TableParsing.Proofs.Automaton.Validity

/- The automaton that is built is the canonical collection of its grammar. The walk over the states
   comes to their end by itself, each state but the first is entered from one found before it, and
   the states are the nonempty item sets that strings of symbols lead to. The symbols are fixed
   before the walk, but a state moves its dots over declared symbols only, so no transition is
   missing: looking one up in the finished automaton never finds a new state. -/
namespace TableParsing.Automaton

variable {a : Augmented} {g : Grammar} {m : Automaton} {symbols : List Symbol}

/-- The walk over the states from number `n` on, for as long as there are states: it starts with one
automaton and ends with another. -/
inductive Walk (symbols : List Symbol) : Nat → Automaton → Automaton → Prop where
  | done {n : Nat} {m : Automaton} (past : m.states[n]? = none) : Walk symbols n m m
  | visit {n : Nat} {m last : Automaton} {items : State} (here : m.states[n]? = some items)
      (rest : Walk symbols (n + 1) (symbols.foldl (fun m s => (m.record n items s).2) m) last) :
      Walk symbols n m last

/-- A limited walk that comes to the end of the states is the whole walk. -/
theorem walk_explore {limit n : Nat}
    (enough : (explore symbols limit n m).states.length ≤ n + limit) :
    Walk symbols n m (explore symbols limit n m) := by
  induction limit generalizing n m with
  | zero =>
    apply Walk.done
    exact List.getElem?_eq_none enough
  | succ limit ih =>
    unfold explore at enough ⊢
    cases here : m.states[n]? with
    | none => exact .done here
    | some items =>
      rw [here] at enough
      apply Walk.visit here
      apply ih
      dsimp only at enough
      omega

theorem walk_build (a : Augmented) :
    Walk a.symbols 0 ⟨a, [stateAfter a []], ∅⟩ (ofAugmented a).build := by
  have bound := (finished_build a).length_le
  rw [build_ofAugmented] at bound ⊢
  apply walk_explore
  omega

section Keeping

variable {Good : Automaton → Prop}
  (step : ∀ (m : Automaton) (n : Nat) (items : State) (s : Symbol),
    m.states[n]? = some items → Good m → Good (m.record n items s).2)
include step

theorem foldl_record_keeps {n : Nat} {items : State} (here : m.states[n]? = some items)
    (good : Good m) : Good (symbols.foldl (fun m s => (m.record n items s).2) m) := by
  induction symbols generalizing m with
  | nil => exact good
  | cons s rest ih =>
    apply ih
    · exact getElem?_record here
    · exact step m n items s here good

/-- What the recording of one transition keeps, the whole walk keeps. -/
theorem Walk.keeps {n : Nat} {last : Automaton} (walk : Walk symbols n m last) (good : Good m) :
    Good last := by
  induction walk with
  | done => exact good
  | visit here _ ih => exact ih (foldl_record_keeps step here good)

end Keeping

theorem number_unique (distinct : m.states.Nodup) {j k : Nat} {items : State}
    (first : m.states[j]? = some items) (second : m.states[k]? = some items) : j = k := by
  have known := (List.getElem?_eq_some_iff.mp first).1
  exact (List.getElem?_inj known distinct).mp (first.trans second.symm)

theorem register_known {s : State} (known : s ∈ m.states) : (m.register s).2 = m := by
  unfold register stateOf?
  cases found : m.states.findIdx? (· = s) with
  | some n => rfl
  | none =>
    have other := List.findIdx?_eq_none_iff.mp found s known
    simp at other

theorem register_new {s : State} (new : s ∉ m.states) :
    m.register s = (m.states.length, { m with states := m.states ++ [s] }) := by
  unfold register stateOf?
  cases found : m.states.findIdx? (· = s) with
  | some n =>
    obtain ⟨lt, same, _⟩ := List.findIdx?_eq_some_iff_getElem.mp found
    have known : s ∈ m.states := of_decide_eq_true same ▸ List.getElem_mem lt
    exact absurd known new
  | none => rfl

section Recording

variable {done : Nat → Symbol → Prop} (e : Explored a done m) {n : Nat} {items : State}
  (here : m.states[n]? = some items) {s : Symbol}
include e here

/-- A transition that is looked for again leads to the same number. -/
theorem register_recorded {k : Nat} (found : m.transitions.get? ((n : Int), s) = some k) :
    (m.register (goto m.augmented items.toList s)).1 = k := by
  obtain ⟨j, others, number, there, entry, _⟩ := e.sound _ _ _ found
  obtain rfl : n = j := Int.ofNat.inj number
  obtain rfl := Option.some.inj (here.symm.trans there)
  rw [← e.augmented] at entry
  have place := (register_spec m (goto m.augmented items.toList s)).1
  rw [register_known (List.mem_of_getElem? entry)] at place
  exact number_unique e.distinct place entry

theorem get?_record {cell : Int × Symbol} {k : Nat} (found : m.transitions.get? cell = some k) :
    (m.record n items s).2.transitions.get? cell = some k := by
  unfold record
  dsimp only
  split
  · exact found
  · rw [CellMap.get?_put, (register_spec m _).2.2.1]
    split
    · rename_i own
      rw [← own] at found
      rw [register_recorded e here found]
    · exact found

omit e in
/-- A state that is new after a transition is its target. -/
theorem get?_record_new {k : Nat} (new : m.states.length ≤ k)
    (lt : k < (m.record n items s).2.states.length) :
    n < k ∧ (m.record n items s).2.transitions.get? ((n : Int), s) = some k := by
  have source := (List.getElem?_eq_some_iff.mp here).1
  refine ⟨by omega, ?_⟩
  unfold record at lt ⊢
  dsimp only at lt ⊢
  split at lt
  · exact absurd lt (Nat.not_lt_of_le new)
  · rename_i moves
    rw [if_neg moves]
    by_cases known : goto m.augmented items.toList s ∈ m.states
    · rw [register_known known] at lt
      dsimp only at lt
      omega
    · rw [register_new known] at lt ⊢
      rw [List.length_append, List.length_singleton] at lt
      rw [CellMap.get?_put, if_pos rfl]
      congr
      omega

end Recording

/-- Every state but the first has a transition into it from one of a lower number. -/
def Entered (m : Automaton) : Prop :=
  ∀ k, 0 < k → k < m.states.length →
    ∃ (n : Nat) (s : Symbol), n < k ∧ m.transitions.get? ((n : Int), s) = some k

/-- An automaton as the walk has made it so far. -/
structure Grown (a : Augmented) (m : Automaton) : Prop where
  explored : ∃ done, Explored a done m
  entered : Entered m

theorem grown_first (a : Augmented) : Grown a ⟨a, [stateAfter a []], ∅⟩ := by
  refine ⟨⟨_, explored_first a []⟩, ?_⟩
  intro k positive lt
  rw [List.length_singleton] at lt
  omega

theorem Grown.record (h : Grown a m) {n : Nat} {items : State}
    (here : m.states[n]? = some items) (s : Symbol) : Grown a (m.record n items s).2 := by
  obtain ⟨done, e⟩ := h.explored
  refine ⟨⟨_, explored_record e here s⟩, ?_⟩
  intro k positive lt
  by_cases old : k < m.states.length
  · obtain ⟨j, x, less, found⟩ := h.entered k positive old
    exact ⟨j, x, less, get?_record e here found⟩
  · obtain ⟨less, found⟩ := get?_record_new here (Nat.le_of_not_lt old) lt
    exact ⟨n, s, less, found⟩

theorem entered_build (a : Augmented) : Entered (ofAugmented a).build := by
  have grown : Grown a (ofAugmented a).build := by
    apply (walk_build a).keeps _ (grown_first a)
    intro m n items s here h
    exact h.record here s
  exact grown.entered

theorem closure_stateAfter (read : List Symbol) :
    closure a (stateAfter a read).toList = stateAfter a read :=
  closure_of_closed fun _ member _ call => mem_stateAfter_of_prediction member call

theorem exists_given {items : List Item} {i : Item} (called : Called a items i) :
    ∃ j, j ∈ items := by
  induction called with
  | given member => exact ⟨_, member⟩
  | predicted _ _ ih => exact ih

/-- A transition out of a state is over a declared symbol. -/
theorem mem_symbols_of_goto (d : g.Declared) {read : List Symbol} {s : Symbol}
    (moves : ∃ i, i ∈ goto (.ofGrammar g) (stateAfter (.ofGrammar g) read).toList s) :
    s ∈ g.symbols := by
  obtain ⟨i, hi⟩ := moves
  obtain ⟨j, hj⟩ := exists_given (mem_goto.mp hi)
  obtain ⟨k, hk, _, next, _⟩ := mem_advanceOver.mp hj
  obtain ⟨lhs, done, todo, rfl, item⟩ := valid_of_mem d hk
  cases todo with
  | nil => simp at next
  | cons x rest =>
    obtain rfl : x = s := by simpa using next
    exact item.mem_symbols d List.mem_cons_self

/-- What the canonical collection of a grammar is. -/
structure Canonical (a : Augmented) (m : Automaton) : Prop where
  first : m.states[0]? = some (closure a [Item.ofProduction a.startProduction])
  distinct : m.states.Nodup
  closed : ∀ items ∈ m.states, closure a items.toList = items
  mem_states : ∀ items, items ∈ m.states ↔ (∃ i, i ∈ items) ∧ ∃ read, items = stateAfter a read
  transition : ∀ (source : Int) (s : Symbol) (target : Nat),
    m.transitions.get? (source, s) = some target ↔
      ∃ (n : Nat) (items : State), source = n ∧ m.states[n]? = some items ∧
        (∃ i, i ∈ goto a items.toList s) ∧ m.states[target]? = some (goto a items.toList s)
  entered : Entered m

theorem Canonical.goto_mem (c : Canonical a m) {items : State} (member : items ∈ m.states)
    {s : Symbol} (moves : ∃ i, i ∈ goto a items.toList s) : goto a items.toList s ∈ m.states := by
  obtain ⟨_, read, rfl⟩ := (c.mem_states items).mp member
  apply (c.mem_states _).mpr
  exact ⟨moves, read ++ [s], (stateAfter_concat read s).symm⟩

theorem Canonical.get?_eq_none (c : Canonical a m) {n : Nat} {items : State}
    (here : m.states[n]? = some items) {s : Symbol} :
    m.transitions.get? ((n : Int), s) = none ↔ ∀ i, i ∉ goto a items.toList s := by
  constructor
  · intro none i hi
    have member := c.goto_mem (List.mem_of_getElem? here) ⟨i, hi⟩
    obtain ⟨target, there⟩ := List.getElem?_of_mem member
    have found := (c.transition n s target).mpr ⟨n, items, rfl, here, ⟨i, hi⟩, there⟩
    rw [none] at found
    cases found
  · intro empty
    rw [Option.eq_none_iff_forall_not_mem]
    intro target found
    obtain ⟨k, others, same, there, ⟨i, hi⟩, _⟩ := (c.transition n s target).mp found
    obtain rfl : n = k := Int.ofNat.inj same
    obtain rfl := Option.some.inj (here.symm.trans there)
    exact empty i hi

theorem canonical_build (d : g.Declared) :
    Canonical (.ofGrammar g) (ofAugmented (.ofGrammar g)).build := by
  have e := finished_build (.ofGrammar g)
  constructor
  case first => exact e.first
  case distinct => exact e.distinct
  case closed =>
    intro items member
    obtain ⟨read, rfl⟩ := e.reached items member
    exact closure_stateAfter read
  case mem_states =>
    intro items
    constructor
    · intro member
      refine ⟨?_, e.reached items member⟩
      obtain ⟨k, here⟩ := List.getElem?_of_mem member
      rcases Nat.eq_zero_or_pos k with rfl | positive
      · obtain rfl := Option.some.inj (e.first.symm.trans here)
        exact ⟨_, (mem_stateAfter d).mpr .start⟩
      · have known := (List.getElem?_eq_some_iff.mp here).1
        obtain ⟨n, s, _, move⟩ := entered_build _ k positive known
        obtain ⟨_, _, _, _, there, inside⟩ := e.sound _ _ _ move
        obtain rfl := Option.some.inj (there.symm.trans here)
        exact inside
    · intro member
      obtain ⟨⟨i, hi⟩, read, rfl⟩ := member
      obtain ⟨_, _, _, _, item⟩ := valid_of_mem d hi
      obtain ⟨stack, path⟩ := exists_path d e item
      obtain ⟨n, below, rfl⟩ := path.cons
      obtain ⟨k, _, there, _⟩ := path.state e
      exact List.mem_of_getElem? there
  case transition =>
    intro source s target
    constructor
    · intro found
      obtain ⟨n, items, same, here, there, inside⟩ := e.sound _ _ _ found
      exact ⟨n, items, same, here, inside, there⟩
    · intro spec
      obtain ⟨n, items, rfl, here, inside, there⟩ := spec
      obtain ⟨read, rfl⟩ := e.reached items (List.mem_of_getElem? here)
      have known := (List.getElem?_eq_some_iff.mp here).1
      have asked := mem_symbols_of_goto d inside
      obtain ⟨other, found⟩ := e.complete n s _ ⟨known, asked⟩ here inside
      obtain ⟨k, items', same, here', there', _⟩ := e.sound _ _ _ found
      obtain rfl : n = k := Int.ofNat.inj same
      obtain rfl := Option.some.inj (here.symm.trans here')
      rw [found, number_unique e.distinct there' there]
  case entered => exact entered_build _

/-- The automata that lookups of transitions make of one, from any number that names a state and
over any symbols. -/
inductive Asked (m : Automaton) : Automaton → Prop where
  | start : Asked m m
  | lookup {k next : Automaton} {n : Int} {s : Symbol} {found : Option Nat} (before : Asked m k)
      (answer : k.gotoState n s = .ok (found, next)) : Asked m next

/-- An automaton with the same states and the same transitions out of numbered states. A transition
may be known under a negative number as well. -/
structure Unmoved (m k : Automaton) : Prop where
  augmented : k.augmented = m.augmented
  states : k.states = m.states
  transitions : ∀ (n : Nat) (s : Symbol),
    k.transitions.get? ((n : Int), s) = m.transitions.get? ((n : Int), s)

theorem getState_eq_ok {n : Int} {items : State} : m.getState n = .ok items ↔
    (resolveIndex m.states.length n).bind (m.states[·]?) = some items := by
  unfold getState
  split
  · rename_i found
    rw [found, Except.ok.injEq, Option.some.injEq]
  · rename_i none
    simp [none]

theorem getState_natCast {n : Nat} {items : State} :
    m.getState n = .ok items ↔ m.states[n]? = some items := by
  rw [getState_eq_ok]
  by_cases known : n < m.states.length
  · simp [resolveIndex, known]
  · simp [resolveIndex, known]

theorem mem_of_getState {n : Int} {items : State} (there : m.getState n = .ok items) :
    items ∈ m.states := by
  obtain ⟨place, _, here⟩ := Option.bind_eq_some_iff.mp (getState_eq_ok.mp there)
  exact List.mem_of_getElem? here

/-- A lookup gives the transition that is recorded, or else records the one that the items of the
state give. -/
theorem gotoState_cases {next : Automaton} {n : Int} {s : Symbol} {found : Option Nat}
    (answer : m.gotoState n s = .ok (found, next)) :
    (∃ target, m.transitions.get? (n, s) = some target ∧ found = some target ∧ next = m) ∨
      m.transitions.get? (n, s) = none ∧
        ∃ items, m.getState n = .ok items ∧ m.record n items s = (found, next) := by
  unfold gotoState at answer
  cases recorded : m.transitions.get? (n, s) with
  | some target =>
    rw [recorded] at answer
    cases answer
    exact Or.inl ⟨target, rfl, rfl, rfl⟩
  | none =>
    rw [recorded] at answer
    cases there : m.getState n with
    | error e =>
      rw [there] at answer
      cases answer
    | ok items =>
      rw [there] at answer
      exact Or.inr ⟨rfl, items, rfl, Except.ok.inj answer⟩

section Lookup

variable (c : Canonical a m) (own : m.augmented = a) {k : Automaton} (same : Unmoved m k)
include c own same

/-- A lookup in an existing state gives the transition that was recorded. -/
theorem gotoState_unmoved {n : Nat} {items : State} (here : m.states[n]? = some items)
    (s : Symbol) : k.gotoState n s = .ok (m.transitions.get? ((n : Int), s), k) := by
  unfold gotoState
  rw [same.transitions]
  cases found : m.transitions.get? ((n : Int), s) with
  | some target => rfl
  | none =>
    have there : k.getState n = .ok items := by
      rw [getState_natCast, same.states, here]
    have empty : (goto k.augmented items.toList s).isEmpty = true := by
      rw [same.augmented, own, SortedSet.isEmpty_iff]
      exact (c.get?_eq_none here).mp found
    dsimp only
    rw [there]
    unfold record
    simp [Except.map, empty]

theorem unmoved_record {n : Int} {items : State} (there : k.getState n = .ok items) {s : Symbol}
    (missed : k.transitions.get? (n, s) = none) : Unmoved m (k.record n items s).2 := by
  unfold record
  dsimp only
  split
  · exact same
  · rename_i stays
    rw [SortedSet.isEmpty_iff, same.augmented, own] at stays
    push Not at stays
    have member := mem_of_getState there
    rw [same.states] at member
    have known := c.goto_mem member stays
    rw [← same.states, ← own, ← same.augmented] at known
    rw [register_known known]
    refine ⟨same.augmented, same.states, ?_⟩
    intro j x
    dsimp only
    rw [CellMap.get?_put]
    split
    · rename_i cell
      obtain ⟨rfl, rfl⟩ := Prod.mk.inj cell
      -- a numbered state has all its transitions, so the one that was missed is none
      rw [getState_natCast, same.states] at there
      rw [same.transitions, c.get?_eq_none there] at missed
      obtain ⟨i, hi⟩ := stays
      exact absurd hi (missed i)
    · exact same.transitions j x

theorem unmoved_lookup {next : Automaton} {n : Int} {s : Symbol} {found : Option Nat}
    (answer : k.gotoState n s = .ok (found, next)) : Unmoved m next := by
  rcases gotoState_cases answer with ⟨_, _, _, rfl⟩ | ⟨missed, items, there, made⟩
  · exact same
  · have kept := unmoved_record c own same there missed
    rw [made] at kept
    exact kept

end Lookup

theorem unmoved_of_asked (c : Canonical a m) (own : m.augmented = a) {k : Automaton}
    (asked : Asked m k) : Unmoved m k := by
  induction asked with
  | start => exact ⟨rfl, rfl, fun _ _ => rfl⟩
  | lookup _ answer ih => exact unmoved_lookup c own ih answer

/-- The walk that finds the states of a grammar comes to its end, with the canonical collection.
After any lookups a lookup in one of its states gives the transition that the walk recorded, none
if no item moves, and leaves the states as they are. -/
theorem canonical_collection (built : g.Built) :
    let found := (ofAugmented (.ofGrammar g)).build
    let first := closure (.ofGrammar g) [(ofAugmented (.ofGrammar g)).startItem]
    Walk g.symbols 0 ⟨.ofGrammar g, [first], ∅⟩ found ∧
    Canonical (.ofGrammar g) found ∧
    ∀ k, Asked found k → k.states = found.states ∧
      ∀ (n : Nat) (items : State), found.states[n]? = some items → ∀ s,
        k.gotoState n s = .ok (found.transitions.get? ((n : Int), s), k) ∧
        (found.transitions.get? ((n : Int), s) = none ↔
          ∀ i, i ∉ goto (.ofGrammar g) items.toList s) := by
  intro found first
  have c : Canonical (.ofGrammar g) found := canonical_build (Grammar.built_declared built)
  have own : found.augmented = .ofGrammar g := (finished_build (.ofGrammar g)).augmented
  refine ⟨walk_build (.ofGrammar g), c, ?_⟩
  intro k asked
  have same := unmoved_of_asked c own asked
  refine ⟨same.states, ?_⟩
  intro n items here s
  exact ⟨gotoState_unmoved c own same here s, c.get?_eq_none here⟩

/-- The state after an opening bracket is entered again from itself. -/
theorem brackets_collection :
    let found := (ofAugmented (.ofGrammar Grammar.brackets)).build
    found.states.length = 5 ∧ Canonical (.ofGrammar Grammar.brackets) found ∧
    ∀ k, Asked found k → k.states = found.states ∧
      k.gotoState 1 (.terminal "a") = .ok (some 1, k) ∧
      k.gotoState 4 (.nonterminal "S") = .ok (none, k) := by
  have size : (ofAugmented (.ofGrammar Grammar.brackets)).build.states.length = 5 := by
    decide +kernel
  have again : (ofAugmented (.ofGrammar Grammar.brackets)).build.transitions.get?
      (1, .terminal "a") = some 1 := by
    decide +kernel
  have last : (ofAugmented (.ofGrammar Grammar.brackets)).build.transitions.get?
      (4, .nonterminal "S") = none := by
    decide +kernel
  intro found
  obtain ⟨_, canonical, later⟩ := canonical_collection Grammar.brackets_built
  refine ⟨size, canonical, ?_⟩
  intro k asked
  obtain ⟨states, lookups⟩ := later k asked
  have opened := (lookups 1 _ (List.getElem?_eq_getElem (by omega)) (.terminal "a")).1
  have closed := (lookups 4 _ (List.getElem?_eq_getElem (by omega)) (.nonterminal "S")).1
  refine ⟨states, ?_, ?_⟩
  · exact opened.trans (by rw [← again]; rfl)
  · exact closed.trans (by rw [← last]; rfl)

end TableParsing.Automaton
