import TableParsing.Proofs.ShiftReduce.Safety

/- When shift-reduce tables can be built. A shift and a reduction under one lookahead exclude
   tables, and so do two reductions, unless acceptance has the cell. There the order of the claims
   counts: acceptance keeps the cell against every later reduction and takes it from one earlier
   reduction, but two reductions that come before it are a conflict. The claims of a state come in
   the order of its items, so those before acceptance are the ones whose left-hand side is less than
   the synthetic start symbol. -/
namespace TableParsing.ShiftReduce
open Automaton Std

variable {g : Grammar} {follow : SymbolSets} {m : Automaton}

/-- The left-hand side of the item from which an action comes; a shift does not tell it. -/
def Action.left? (start : Symbol) : Action → Option Symbol
  | .reduce p => some p.lhs
  | .accept => some start
  | _ => none

/-- Two claims of one state, neither of them a shift, come in the order of their items. -/
def InOrder (start : Symbol) (x y : Claim × Automaton) : Prop :=
  ∀ n s t act other left right, x.1 = .action n s act → y.1 = .action n t other →
    act.left? start = some left → other.left? start = some right → (compare left right).isLE

theorem gather_eq {α : Type} {claim : Automaton → α → List Claim × Automaton} {xs : List α}
    (same : ∀ x ∈ xs, (claim m x).2 = m) :
    (gather claim xs m).1 = xs.flatMap fun x => (claim m x).1.map (·, m) := by
  induction xs with
  | nil => rfl
  | cons x rest ih =>
    have first := same x List.mem_cons_self
    unfold gather
    dsimp only
    rw [first, ih fun y hy => same y (List.mem_cons_of_mem x hy), List.flatMap_cons]

section Order

variable (d : g.Declared) (e : Finished (.ofGrammar g) g.symbols m) {n : Nat}
include d e

/-- The claims of an item carry its left-hand side. -/
theorem left_of_claim {read : List Symbol}
    (here : m.states[n]? = some (stateAfter (.ofGrammar g) read)) {i : Item}
    (hi : i ∈ stateAfter (.ofGrammar g) read) {state : Int} {s left : Symbol} {act : Action}
    (claim : Claim.action state s act ∈
      (claimsOfItem follow n (stateAfter (.ofGrammar g) read) m i).1)
    (placed : act.left? (Augmented.ofGrammar g).start = some left) : left = i.lhs := by
  obtain ⟨lhs, done, todo, rfl, item⟩ := valid_of_mem d hi
  cases todo with
  | nil =>
    by_cases outer : lhs = (Augmented.ofGrammar g).start
    · subst outer
      rw [claimsOfItem_accept e, List.mem_singleton] at claim
      cases claim
      exact (Option.some.inj placed).symm
    · obtain ⟨p, rule, rfl, whole⟩ := item.rule_of_ne_start outer
      obtain ⟨q, found⟩ := exists_productionOf d rule
      obtain ⟨_, own, _⟩ := productionOf_eq_ok d found
      rw [whole, List.append_nil] at found
      rw [claimsOfItem_reduce e outer found, List.mem_map] at claim
      obtain ⟨_, _, same⟩ := claim
      cases same
      exact (Option.some.inj placed).symm.trans own
  | cons x rest =>
    rcases item.mem_todo d List.mem_cons_self with terminal | member
    · rw [claimsOfItem_shift e d here terminal, List.mem_map] at claim
      obtain ⟨_, _, same⟩ := claim
      cases same
      cases placed
    · rw [claimsOfItem_nonterminal e (Augmented.start_name_free (Or.inl member)) member] at claim
      exact absurd claim List.not_mem_nil

theorem inOrder_of_items {read : List Symbol}
    (here : m.states[n]? = some (stateAfter (.ofGrammar g) read)) {i j : Item}
    (hi : i ∈ stateAfter (.ofGrammar g) read) (hj : j ∈ stateAfter (.ofGrammar g) read)
    (le : (compare i.lhs j.lhs).isLE) {x y : Claim × Automaton}
    (hx : x ∈ (claimsOfItem follow n (stateAfter (.ofGrammar g) read) m i).1.map (·, m))
    (hy : y ∈ (claimsOfItem follow n (stateAfter (.ofGrammar g) read) m j).1.map (·, m)) :
    InOrder (Augmented.ofGrammar g).start x y := by
  intro k s t act other left right first second placed placed'
  obtain ⟨_, claim, rfl⟩ := List.mem_map.mp hx
  obtain ⟨_, claim', rfl⟩ := List.mem_map.mp hy
  dsimp only at first second
  subst first second
  rw [left_of_claim d e here hi claim placed, left_of_claim d e here hj claim' placed']
  exact le

/-- A state claims what its items call for, one after the other, and then its transitions. -/
theorem claimsOfState_eq {read : List Symbol}
    (here : m.states[n]? = some (stateAfter (.ofGrammar g) read)) :
    (claimsOfState follow n (stateAfter (.ofGrammar g) read) m).1 =
      ((stateAfter (.ofGrammar g) read).toList.flatMap fun i =>
        (claimsOfItem follow n (stateAfter (.ofGrammar g) read) m i).1.map (·, m)) ++
      g.nonterminals.toList.flatMap fun s =>
        (claimsOfNonterminal n (stateAfter (.ofGrammar g) read) m s).1.map (·, m) := by
  have kept : ∀ i ∈ (stateAfter (.ofGrammar g) read).toList,
      (claimsOfItem follow n (stateAfter (.ofGrammar g) read) m i).2 = m :=
    fun i hi => claimsOfItem_unchanged d e here hi
  have keptToo : ∀ s ∈ g.nonterminals.toList,
      (claimsOfNonterminal n (stateAfter (.ofGrammar g) read) m s).2 = m := by
    intro s hs
    rw [claimsOfNonterminal_eq e here hs]
  unfold claimsOfState
  dsimp only
  rw [(gather_unchanged kept).1, gather_eq kept, e.augmented]
  change _ ++ (gather _ g.nonterminals.toList m).1 = _
  rw [gather_eq keptToo]

theorem claimsOfState_inOrder {items : State} (here : m.states[n]? = some items) :
    (claimsOfState follow n items m).1.Pairwise (InOrder (Augmented.ofGrammar g).start) := by
  obtain ⟨read, rfl⟩ := e.reached items (List.mem_of_getElem? here)
  rw [claimsOfState_eq d e here]
  -- what comes after the claims of the items are transitions, about which nothing is said
  have plain : ∀ c ∈ g.nonterminals.toList.flatMap fun s =>
      (claimsOfNonterminal n (stateAfter (.ofGrammar g) read) m s).1.map (·, m),
      ∀ k s act, c.1 ≠ .action k s act := by
    intro c hc k s act same
    obtain ⟨x, hx, claim⟩ := List.mem_flatMap.mp hc
    rw [claimsOfNonterminal_eq e here hx, List.map_map, List.mem_map] at claim
    obtain ⟨_, _, rfl⟩ := claim
    cases same
  rw [List.pairwise_append]
  refine ⟨List.pairwise_flatMap.mpr ⟨?_, ?_⟩, ?_, ?_⟩
  · intro i hi
    refine List.pairwise_of_forall_mem_list ?_
    intro x hx y hy
    refine inOrder_of_items d e here hi hi ?_ hx hy
    rw [@ReflCmp.compare_self Symbol compare _ i.lhs]
    rfl
  · refine (stateAfter (.ofGrammar g) read).sorted.imp_of_mem ?_
    intro i j hi hj less x hx y hy
    refine inOrder_of_items d e here hi hj ?_ hx hy
    rw [Item.compare_def, Ordering.then_eq_lt] at less
    rcases less with less | ⟨same, _⟩
    · rw [less]
      rfl
    · rw [same]
      rfl
  · refine List.pairwise_of_forall_mem_list ?_
    intro x hx y _ k s t act other left right first
    exact absurd first (plain x hx k s act)
  · intro x _ y hy k s t act other left right _ second
    exact absurd second (plain y hy k t other)

theorem state_of_claim {items : State} (here : m.states[n]? = some items) {state : Int}
    {s : Symbol} {act : Action} (claim : StateClaims follow m n items (.action state s act)) :
    state = n := by
  obtain ⟨read, rfl⟩ := e.reached items (List.mem_of_getElem? here)
  rcases claim with ofItem | ⟨x, hx, ofNonterminal⟩
  · obtain ⟨_, _, same, _⟩ := (mem_claimsOfItem d e here).mp ofItem
    cases same
    rfl
  · rw [e.augmented] at hx
    rw [claimsOfNonterminal_eq e here hx, List.mem_map] at ofNonterminal
    obtain ⟨_, _, same⟩ := ofNonterminal
    cases same

theorem claimsFrom_inOrder (limit : Nat) :
    (claimsFrom follow limit n m).1.Pairwise (InOrder (Augmented.ofGrammar g).start) := by
  induction limit generalizing n with
  | zero => exact .nil
  | succ limit ih =>
    unfold claimsFrom
    cases here : m.states[n]? with
    | none => exact .nil
    | some items =>
      obtain ⟨same, members⟩ := @claimsOfState_unchanged g follow m d e n items here
      dsimp only
      rw [same]
      refine List.pairwise_append.mpr ⟨claimsOfState_inOrder d e here, ih, ?_⟩
      -- claims of different states
      intro x hx y hy k s t act other left right first second
      have own := ((members x).mp hx).2
      obtain ⟨_, j, others, le, _, there, claim⟩ := (mem_claimsFrom d e y).mp hy
      rw [first] at own
      rw [second] at claim
      have number := state_of_claim d e here own
      have number' := state_of_claim d e there claim
      omega

end Order

/-- A reduction that is claimed under a lookahead after a string. -/
def Reduces (g : Grammar) (follow : SymbolSets) (read : List Symbol) (ahead lhs : Symbol)
    (body : List Symbol) : Prop :=
  Valid g read lhs body [] ∧ lhs ≠ (Augmented.ofGrammar g).start ∧ ahead ∈ follow.getD lhs ∅

/-- A reduction that is claimed in the cell of acceptance. -/
def Rival (g : Grammar) (follow : SymbolSets) (lhs : Symbol) (body : List Symbol) : Prop :=
  Reduces g follow [g.start] Symbol.endMarker lhs body

/-- No shift meets a reduction, and two reductions meet in the cell of acceptance only. -/
structure Peaceful (g : Grammar) (follow : SymbolSets) : Prop where
  shift : ∀ {read ahead lhs body lhs' done todo}, Reduces g follow read ahead lhs body →
    Valid g read lhs' done (ahead :: todo) → ahead ∉ g.terminals
  reduce : ∀ {read ahead lhs body lhs' body'}, Reduces g follow read ahead lhs body →
    Reduces g follow read ahead lhs' body' →
      (lhs = lhs' ∧ body = body') ∨ (read = [g.start] ∧ ahead = Symbol.endMarker)

/-- No two reductions come before acceptance in its cell. -/
def Ordered (g : Grammar) (follow : SymbolSets) : Prop :=
  ∀ lhs body lhs' body', Rival g follow lhs body → Rival g follow lhs' body' →
    compare lhs (Augmented.ofGrammar g).start = .lt →
    compare lhs' (Augmented.ofGrammar g).start = .lt → lhs = lhs' ∧ body = body'

theorem exists_claimed_of_reduces (d : g.Declared) {read body : List Symbol} {ahead lhs : Symbol}
    (h : Reduces g follow read ahead lhs body) (n : Int) :
    ∃ p, p.lhs = lhs ∧ p.body = body ∧ Claimed g follow m n read ahead (.reduce p) := by
  obtain ⟨item, ne, after⟩ := h
  obtain ⟨p, rule, rfl, whole⟩ := item.rule_of_ne_start ne
  obtain ⟨q, found⟩ := exists_productionOf d rule
  rw [whole, List.append_nil] at found
  obtain ⟨_, own, body⟩ := productionOf_eq_ok d found
  exact ⟨q, own, body, .reduce item ne found after⟩

theorem reduces_of_claimed (d : g.Declared) {read : List Symbol} {ahead : Symbol} {p : Production}
    {n : Int} (h : Claimed g follow m n read ahead (.reduce p)) :
    Reduces g follow read ahead p.lhs p.body ∧ productionOf g p.lhs p.body = .ok p := by
  cases h with
  | reduce item ne found after =>
    obtain ⟨_, rfl, rfl⟩ := productionOf_eq_ok d found
    exact ⟨⟨item, ne, after⟩, found⟩

/-- Two claims for one cell agree, or acceptance is one of them, or both are its rivals. -/
theorem Peaceful.claimed (peaceful : Peaceful g follow) (d : g.Declared) {n : Int}
    {read : List Symbol} {s : Symbol} {act old : Action}
    (new : Claimed g follow m n read s act) (before : Claimed g follow m n read s old) :
    old = act ∨ (old = .accept ∧ act.isReduce = true) ∨ (act = .accept ∧ old.isReduce = true) ∨
      (read = [g.start] ∧ s = Symbol.endMarker ∧ ∃ p q, old = .reduce p ∧ act = .reduce q) := by
  cases new with
  | accept item =>
    cases before with
    | accept => exact Or.inl rfl
    | reduce => exact Or.inr (Or.inr (Or.inl ⟨rfl, rfl⟩))
    | shift _ terminal => exact absurd terminal d.endMarker_not_terminal
  | @reduce lhs _ body q item ne found after =>
    cases before with
    | accept => exact Or.inr (Or.inl ⟨rfl, rfl⟩)
    | @reduce lhs' _ body' p item' ne' found' after' =>
      rcases peaceful.reduce ⟨item, ne, after⟩ ⟨item', ne', after'⟩ with
        ⟨rfl, rfl⟩ | ⟨start, marker⟩
      · cases found.symm.trans found'
        exact Or.inl rfl
      · exact Or.inr (Or.inr (Or.inr ⟨start, marker, p, q, rfl, rfl⟩))
    | shift item' terminal _ => exact absurd terminal (peaceful.shift ⟨item, ne, after⟩ item')
  | shift item terminal move =>
    cases before with
    | accept => exact absurd terminal d.endMarker_not_terminal
    | reduce item' ne after => exact absurd terminal (peaceful.shift ⟨item', ne, ‹_›⟩ item)
    | shift item' _ move' =>
      cases move.symm.trans move'
      exact Or.inl rfl

/-- A claim is settled if its cell is free or holds what can stand beside it. -/
theorem exists_setAction_iff {b : Builder} (mode : b.mode = .stop) {state : Int} {s : Symbol}
    {act : Action} : (∃ e, b.setAction state s act = .ok e) ↔
      ∀ old, b.action.get? (state, s) = some old → old = act ∨
        (old = .accept ∧ act.isReduce = true) ∨ (act = .accept ∧ old.isReduce = true) := by
  unfold Builder.setAction
  cases b.action.get? (state, s) with
  | none => simp
  | some old =>
    dsimp only
    rw [mode]
    by_cases same : old = act
    · simp [same]
    · by_cases kept : old = .accept ∧ act.isReduce = true
      · simp [kept]
      · by_cases displaced : act = .accept ∧ old.isReduce = true
        · obtain ⟨rfl, reduces⟩ := displaced
          simp [same, reduces]
        · simp [same, kept, displaced]

theorem mode_of_foldlM_settle {cs : Claims} {b e : Builder}
    (h : cs.foldlM Builder.settle b = .ok e) : e.mode = b.mode := by
  induction cs generalizing b with
  | nil =>
    cases h
    rfl
  | cons claim rest ih =>
    rw [List.foldlM_cons] at h
    cases first : b.settle claim with
    | error stopped =>
      rw [first] at h
      cases h
    | ok next =>
      rw [first] at h
      refine (ih h).trans ?_
      obtain ⟨c, found⟩ := claim
      cases c with
      | failure error => cases first
      | goto state s target => exact (get?_setGoto first).1
      | action state s act =>
        rcases setAction_result { b with automaton := found } state s act with
          ⟨other, settled, kept, _⟩ | ⟨_, failed⟩
        · cases first.symm.trans settled
          exact kept
        · cases first.symm.trans failed

theorem exists_build_iff_settled : (∃ t, build g follow = .ok t) ↔ ∃ e,
    (claims follow (automaton g)).1.foldlM Builder.settle (started g follow .stop) = .ok e := by
  unfold build
  rw [build_new]
  cases (claims follow (automaton g)).1.foldlM Builder.settle (started g follow .stop) with
  | error stopped => simp [Except.map]
  | ok e => simp [Except.map]

section Building

variable (d : g.Declared)
include d

theorem mem_claims_of_claimed {n : Int} {below : List Int} {read : List Symbol} {s : Symbol}
    {act : Action} (path : Path (automaton g) (n :: below) read)
    (claimed : Claimed g follow (automaton g) n read s act) :
    (Claim.action n s act, automaton g) ∈ (claims follow (automaton g)).1 := by
  obtain ⟨k, rfl, here, _⟩ := path.state (finished_automaton g)
  exact (action_mem_claims d (finished_automaton g)).mpr ⟨k, read, here, rfl, claimed⟩

theorem peaceful_of_build {t : Tables} (built : build g follow = .ok t) : Peaceful g follow := by
  constructor
  case shift =>
    intro read ahead lhs body lhs' done todo reduces item terminal
    obtain ⟨stack, path⟩ := exists_path d (finished_automaton g) item
    obtain ⟨n, below, rfl⟩ := path.cons
    obtain ⟨target, shifts, _⟩ := exists_shift d built path item terminal
    obtain ⟨p, _, _, claimed⟩ := exists_claimed_of_reduces d reduces n
    rcases action_of_claimed d built path claimed with own | ⟨accepts, _⟩
    · cases shifts.symm.trans own
    · cases shifts.symm.trans accepts
  case reduce =>
    intro read ahead lhs body lhs' body' reduces reduces'
    obtain ⟨stack, path⟩ := exists_path d (finished_automaton g) reduces.1
    obtain ⟨n, below, rfl⟩ := path.cons
    obtain ⟨p, rfl, rfl, claimed⟩ := exists_claimed_of_reduces d reduces n
    obtain ⟨q, rfl, rfl, claimed'⟩ := exists_claimed_of_reduces d reduces' n
    have accepted : t.action.get? (n, ahead) = some .accept →
        read = [g.start] ∧ ahead = Symbol.endMarker := by
      intro found
      cases claimed_of_action d built path found with
      | accept item => exact ⟨item.start_read d, rfl⟩
    rcases action_of_claimed d built path claimed with own | ⟨accepts, _⟩
    · rcases action_of_claimed d built path claimed' with own' | ⟨accepts, _⟩
      · cases own.symm.trans own'
        exact Or.inl ⟨rfl, rfl⟩
      · exact Or.inr (accepted accepts)
    · exact Or.inr (accepted accepts)

theorem claims_inOrder :
    (claims follow (automaton g)).1.Pairwise (InOrder (Augmented.ofGrammar g).start) :=
  claimsFrom_inOrder d (finished_automaton g) _

/-- Behind one reduction another one is not settled while acceptance is still to come. -/
theorem eq_of_settled {e next : Builder} {before after : Claims} {n : Int} {p q : Production}
    {m : Automaton} (split : (claims follow (automaton g)).1 =
      before ++ (.action n Symbol.endMarker (.reduce q), m) :: after)
    (reached : before.foldlM Builder.settle (started g follow .stop) = .ok e)
    (settled : e.settle (.action n Symbol.endMarker (.reduce q), m) = .ok next)
    (earlier : (.action n Symbol.endMarker (.reduce p), m) ∈ before)
    (less : compare q.lhs (Augmented.ofGrammar g).start = .lt) : p = q := by
  have mode : e.mode = .stop := mode_of_foldlM_settle reached
  obtain ⟨filled, only, _⟩ := foldlM_settle rfl reached
  have notYet : e.action.get? (n, Symbol.endMarker) ≠ some .accept := by
    intro accepts
    rcases only _ _ accepts with none | ⟨m', member⟩
    · cases (CellMap.get?_empty _).symm.trans none
    · have sorted := @claims_inOrder g follow d
      rw [split, List.pairwise_append] at sorted
      have le := sorted.2.2 _ member _ List.mem_cons_self _ _ _ _ _ _ _ rfl rfl rfl rfl
      have loop := TransCmp.lt_of_isLE_of_lt le less
      rw [@ReflCmp.compare_self Symbol compare _ _] at loop
      cases loop
  have here : e.action.get? (n, Symbol.endMarker) = some (.reduce p) := by
    rcases filled (n, Symbol.endMarker) (.reduce p) (Or.inr ⟨m, earlier⟩) with own | ⟨accepts, _⟩
    · exact own
    · exact absurd accepts notYet
  have mode' : ({ e with automaton := m } : Builder).mode = .stop := mode
  rcases (exists_setAction_iff mode').mp ⟨next, settled⟩ _ here with same | ⟨same, _⟩ | ⟨same, _⟩
  · exact Action.reduce.inj same
  · cases same
  · cases same

theorem ordered_of_build {t : Tables} (built : build g follow = .ok t) : Ordered g follow := by
  intro lhs body lhs' body' rival rival' less less'
  obtain ⟨last, settled⟩ := exists_build_iff_settled.mp ⟨t, built⟩
  obtain ⟨stack, path⟩ := exists_path d (finished_automaton g) rival.1
  obtain ⟨n, below, rfl⟩ := path.cons
  obtain ⟨p, rfl, rfl, claimed⟩ := exists_claimed_of_reduces d rival n
  obtain ⟨q, rfl, rfl, claimed'⟩ := exists_claimed_of_reduces d rival' n
  have equal : p = q := by
    by_contra ne
    have apart : (Claim.action n Symbol.endMarker (.reduce p), automaton g) ≠
        (.action n Symbol.endMarker (.reduce q), automaton g) := by
      simpa using ne
    rcases exists_split_of_mem (mem_claims_of_claimed d path claimed)
      (mem_claims_of_claimed d path claimed') apart with
      ⟨before, after, split, earlier⟩ | ⟨before, after, split, earlier⟩
    · obtain ⟨e, next, reached, step⟩ := foldlM_ok_split (split ▸ settled)
      exact ne (eq_of_settled d split reached step earlier less')
    · obtain ⟨e, next, reached, step⟩ := foldlM_ok_split (split ▸ settled)
      exact ne (eq_of_settled d split reached step earlier less).symm
  exact ⟨congrArg Production.lhs equal, congrArg Production.body equal⟩

/-- While acceptance is still to come, the reductions in its cell are those that come first. -/
theorem eq_of_ordered (ordered : Ordered g follow) {e : Builder} {before after : Claims} {n : Nat}
    (place : (automaton g).states[n]? = some (stateAfter (.ofGrammar g) [g.start]))
    {p q : Production} {m : Automaton} (split : (claims follow (automaton g)).1 =
      before ++ (.action n Symbol.endMarker (.reduce q), m) :: after)
    (reached : before.foldlM Builder.settle (started g follow .stop) = .ok e)
    (here : e.action.get? ((n : Int), Symbol.endMarker) = some (.reduce p))
    (claimed : Claimed g follow (automaton g) n [g.start] Symbol.endMarker (.reduce p))
    (claimed' : Claimed g follow (automaton g) n [g.start] Symbol.endMarker (.reduce q)) :
    p = q := by
  obtain ⟨filled, only, _⟩ := foldlM_settle rfl reached
  obtain ⟨rival, found⟩ := reduces_of_claimed d claimed
  obtain ⟨rival', found'⟩ := reduces_of_claimed d claimed'
  have sorted := @claims_inOrder g follow d
  have accept : (Claim.action n Symbol.endMarker .accept, automaton g) ∈
      (claims follow (automaton g)).1 :=
    (action_mem_claims d (finished_automaton g)).mpr
      ⟨n, [g.start], place, rfl, .accept (.advance .start)⟩
  rw [split] at sorted accept
  rw [List.pairwise_append, List.pairwise_cons] at sorted
  rcases List.mem_append.mp accept with early | late
  · rcases filled ((n : Int), Symbol.endMarker) .accept (Or.inr ⟨_, early⟩) with own | ⟨own, _⟩
    all_goals cases here.symm.trans own
  · rcases List.mem_cons.mp late with same | late
    · cases same
    · rcases only _ _ here with none | ⟨m', earlier⟩
      · cases (CellMap.get?_empty _).symm.trans none
      · have le := sorted.2.2 _ earlier _ List.mem_cons_self _ _ _ _ _ _ _ rfl rfl rfl rfl
        have less : compare q.lhs (Augmented.ofGrammar g).start = .lt := by
          have le' := sorted.2.1.1 _ late _ _ _ _ _ _ _ rfl rfl rfl rfl
          cases h : compare q.lhs (Augmented.ofGrammar g).start with
          | lt => rfl
          | eq => exact absurd (LawfulEqOrd.eq_of_compare h) rival'.2.1
          | gt =>
            rw [h] at le'
            cases le'
        obtain ⟨lhs, body⟩ :=
          ordered _ _ _ _ rival rival' (TransCmp.lt_of_isLE_of_lt le less) less
        rw [lhs, body] at found
        exact Except.ok.inj (found.symm.trans found')

theorem exists_build_of_peaceful (peaceful : Peaceful g follow) (ordered : Ordered g follow) :
    ∃ t, build g follow = .ok t := by
  refine exists_build_iff_settled.mpr (exists_foldlM_ok ?_)
  rintro before ⟨claim, m⟩ after split e reached
  have whole : ∀ c ∈ before, c ∈ (claims follow (automaton g)).1 := by
    intro c hc
    rw [split]
    exact List.mem_append_left _ hc
  have member : (claim, m) ∈ (claims follow (automaton g)).1 := split ▸ by simp
  obtain ⟨filled, only, gotos⟩ := foldlM_settle rfl reached
  obtain rfl : m = automaton g := ((mem_claims d (finished_automaton g) _).mp member).1
  rcases lawful_of_mem_claims d (finished_automaton g) member with
    ⟨state, s, act, rfl⟩ | ⟨state, s, k, rfl, move⟩
  · obtain ⟨n, read, here, rfl, claimed⟩ :=
      (action_mem_claims d (finished_automaton g)).mp member
    have mode : ({ e with automaton := automaton g } : Builder).mode = .stop :=
      mode_of_foldlM_settle reached
    refine (exists_setAction_iff mode).mpr ?_
    intro old found
    -- what is in the cell was claimed by the same state
    have claimedOld : Claimed g follow (automaton g) n read s old := by
      rcases only _ _ found with none | ⟨m', earlier⟩
      · cases (CellMap.get?_empty _).symm.trans none
      · have listed := whole _ earlier
        obtain rfl : m' = automaton g := ((mem_claims d (finished_automaton g) _).mp listed).1
        obtain ⟨j, other, there, same, claimedThere⟩ :=
          (action_mem_claims d (finished_automaton g)).mp listed
        obtain rfl : j = n := by
          have : (n : Int) = j := same
          omega
        exact claimedThere.congr d (Option.some.inj (there.symm.trans here))
    rcases peaceful.claimed d claimed claimedOld with
      same | kept | displaced | ⟨rfl, rfl, p, q, rfl, rfl⟩
    · exact Or.inl same
    · exact Or.inr (Or.inl kept)
    · exact Or.inr (Or.inr displaced)
    · have equal := eq_of_ordered d ordered here split reached found claimedOld claimed
      exact Or.inl (congrArg Action.reduce equal)
  · -- a transition has one target
    refine exists_setGoto ?_
    intro existing entry
    rcases (gotos _ _).mp entry with none | ⟨m', earlier⟩
    · cases (CellMap.get?_empty _).symm.trans none
    · have listed := whole _ earlier
      obtain rfl : m' = automaton g := ((mem_claims d (finished_automaton g) _).mp listed).1
      obtain ⟨_, j, move', rfl⟩ := (goto_mem_claims d (finished_automaton g)).mp listed
      rw [Option.some.inj (move.symm.trans move')]

/-- There are tables exactly if the claims are at peace and those in the cell of acceptance come in
an order that keeps them so. -/
theorem exists_build_iff_peaceful :
    (∃ t, build g follow = .ok t) ↔ Peaceful g follow ∧ Ordered g follow := by
  constructor
  · rintro ⟨t, built⟩
    exact ⟨peaceful_of_build d built, ordered_of_build d built⟩
  · rintro ⟨peaceful, ordered⟩
    exact exists_build_of_peaceful d peaceful ordered

end Building

end TableParsing.ShiftReduce
