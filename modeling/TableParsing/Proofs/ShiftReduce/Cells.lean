import TableParsing.Proofs.Automaton.Validity
import TableParsing.ShiftReduce.Builder

/- What finished shift-reduce tables hold, for any sets of following symbols. The automaton is
   complete before the first claim, so no claim changes it. A cell holds a claimed action, and a
   claimed action is in its cell unless acceptance has displaced a reduction there. -/
namespace TableParsing.ShiftReduce
open Automaton

variable {g : Grammar} {follow : SymbolSets} {m : Automaton}

theorem transition_finished {a : Augmented} {symbols : List Symbol} (e : Finished a symbols m)
    {n : Nat} {items : State} (here : m.states[n]? = some items) {s : Symbol} (hs : s ∈ symbols) :
    m.transition n items s = (m.transitions.get? ((n : Int), s), m) := by
  unfold transition
  cases found : m.transitions.get? ((n : Int), s) with
  | some target => rfl
  | none =>
    have known : n < m.states.length := (List.getElem?_eq_some_iff.mp here).1
    have empty : (goto m.augmented items.toList s).isEmpty = true := by
      refine SortedSet.isEmpty_iff.mpr fun i hi => ?_
      rw [e.augmented] at hi
      obtain ⟨target, some⟩ := e.complete n s items ⟨known, hs⟩ here ⟨i, hi⟩
      rw [found] at some
      cases some
    unfold record
    dsimp only
    rw [if_pos empty]

theorem productionOf_eq_ok (d : g.Declared) {lhs : Symbol} {body : List Symbol} {p : Production}
    (found : productionOf g lhs body = .ok p) :
    p ∈ g.productions ∧ p.lhs = lhs ∧ p.body = body := by
  unfold productionOf at found
  split at found
  · rename_i q first
    cases found
    obtain ⟨rule, own⟩ := d.mem_productionsFor.mp (List.mem_of_find?_eq_some first)
    have same := List.find?_some first
    exact ⟨rule, own, of_decide_eq_true same⟩
  · cases found

theorem exists_productionOf (d : g.Declared) {p : Production} (rule : p ∈ g.productions) :
    ∃ q, productionOf g p.lhs p.body = .ok q := by
  unfold productionOf
  split
  · rename_i q _
    exact ⟨q, rfl⟩
  · rename_i none
    have other := List.find?_eq_none.mp none p (d.mem_productionsFor.mpr ⟨rule, rfl⟩)
    simp at other

/-- The actions that a state claims: `read` leads to the state, and `n` is its number. -/
inductive Claimed (g : Grammar) (follow : SymbolSets) (m : Automaton) (n : Int)
    (read : List Symbol) : Symbol → Action → Prop where
  | accept (item : Valid g read (Augmented.ofGrammar g).start [g.start] []) :
      Claimed g follow m n read Symbol.endMarker .accept
  | reduce {lhs ahead : Symbol} {body : List Symbol} {p : Production}
      (item : Valid g read lhs body []) (ne : lhs ≠ (Augmented.ofGrammar g).start)
      (found : productionOf g lhs body = .ok p) (after : ahead ∈ follow.getD lhs ∅) :
      Claimed g follow m n read ahead (.reduce p)
  | shift {lhs s : Symbol} {done todo : List Symbol} {target : Nat}
      (item : Valid g read lhs done (s :: todo)) (terminal : s ∈ g.terminals)
      (move : m.transitions.get? (n, s) = some target) :
      Claimed g follow m n read s (.shift target)

section Items

variable (e : Finished (.ofGrammar g) g.symbols m) {n : Nat} {items : State} {lhs s : Symbol}
  {done todo : List Symbol}
include e

theorem claimsOfItem_accept :
    claimsOfItem follow n items m (.dotted (Augmented.ofGrammar g).start done []) =
      ([.action n Symbol.endMarker .accept], m) := by
  simp [claimsOfItem, e.augmented]

theorem claimsOfItem_reduce (ne : lhs ≠ (Augmented.ofGrammar g).start) {p : Production}
    (found : productionOf g lhs done = .ok p) :
    claimsOfItem follow n items m (.dotted lhs done []) =
      ((follow.getD lhs ∅).toList.map fun t => .action n t (.reduce p), m) := by
  have found' : productionOf (Augmented.ofGrammar g).grammar lhs done = .ok p := found
  simp [claimsOfItem, e.augmented, ne, found', followOf]

theorem claimsOfItem_nonterminal (ne : s ≠ (Augmented.ofGrammar g).start)
    (member : s ∈ g.nonterminals) :
    claimsOfItem follow n items m (.dotted lhs done (s :: todo)) = ([], m) := by
  simp [claimsOfItem, e.augmented, (isNonterminal_ofGrammar ne).mpr member]

theorem claimsOfItem_shift (d : g.Declared) (here : m.states[n]? = some items)
    (terminal : s ∈ g.terminals) :
    claimsOfItem follow n items m (.dotted lhs done (s :: todo)) =
      ((m.transitions.get? ((n : Int), s)).toList.map
        fun (target : Nat) => .action n s (.shift target), m) := by
  have ne := Augmented.start_name_free (Or.inr terminal)
  have plain : (Augmented.ofGrammar g).isNonterminal s = false := by
    rw [← Bool.not_eq_true, isNonterminal_ofGrammar ne]
    exact d.terminal_not_nonterminal terminal
  have move := transition_finished e here (List.mem_append_left _ terminal)
  simp [claimsOfItem, e.augmented, plain, move]

end Items

section States

variable (d : g.Declared) (e : Finished (.ofGrammar g) g.symbols m) {n : Nat}
  {read : List Symbol} (here : m.states[n]? = some (stateAfter (.ofGrammar g) read))
include d e here

theorem claimsOfItem_unchanged {i : Item} (hi : i ∈ stateAfter (.ofGrammar g) read) :
    (claimsOfItem follow n (stateAfter (.ofGrammar g) read) m i).2 = m := by
  obtain ⟨lhs, done, todo, rfl, item⟩ := valid_of_mem d hi
  cases todo with
  | nil =>
    by_cases outer : lhs = (Augmented.ofGrammar g).start
    · rw [outer, claimsOfItem_accept e]
    · obtain ⟨p, rule, rfl, whole⟩ := item.rule_of_ne_start outer
      obtain ⟨q, found⟩ := exists_productionOf d rule
      rw [whole, List.append_nil] at found
      rw [claimsOfItem_reduce e outer found]
  | cons s rest =>
    rcases item.mem_todo d List.mem_cons_self with terminal | member
    · rw [claimsOfItem_shift e d here terminal]
    · rw [claimsOfItem_nonterminal e (Augmented.start_name_free (Or.inl member)) member]

theorem mem_claimsOfItem {c : Claim} :
    (∃ i ∈ stateAfter (.ofGrammar g) read,
        c ∈ (claimsOfItem follow n (stateAfter (.ofGrammar g) read) m i).1) ↔
      ∃ s act, c = .action n s act ∧ Claimed g follow m n read s act := by
  constructor
  · rintro ⟨i, hi, claim⟩
    obtain ⟨lhs, done, todo, rfl, item⟩ := valid_of_mem d hi
    cases todo with
    | nil =>
      by_cases outer : lhs = (Augmented.ofGrammar g).start
      · subst outer
        rw [claimsOfItem_accept e, List.mem_singleton] at claim
        have whole := item.start_body d
        rw [List.append_nil] at whole
        exact ⟨_, _, claim, .accept (whole ▸ item)⟩
      · obtain ⟨p, rule, rfl, whole⟩ := item.rule_of_ne_start outer
        obtain ⟨q, found⟩ := exists_productionOf d rule
        rw [whole, List.append_nil] at found
        rw [claimsOfItem_reduce e outer found, List.mem_map] at claim
        obtain ⟨ahead, after, same⟩ := claim
        exact ⟨_, _, same.symm, .reduce item outer found after⟩
    | cons x rest =>
      rcases item.mem_todo d List.mem_cons_self with terminal | member
      · rw [claimsOfItem_shift e d here terminal, List.mem_map] at claim
        obtain ⟨target, move, same⟩ := claim
        exact ⟨_, _, same.symm, .shift item terminal (Option.mem_toList.mp move)⟩
      · rw [claimsOfItem_nonterminal e (Augmented.start_name_free (Or.inl member)) member] at claim
        exact absurd claim List.not_mem_nil
  · rintro ⟨s, act, rfl, claimed⟩
    cases claimed with
    | accept item =>
      refine ⟨_, (mem_stateAfter d).mpr item, ?_⟩
      rw [claimsOfItem_accept e]
      exact List.mem_cons_self
    | @reduce lhs _ body p item ne found after =>
      refine ⟨_, (mem_stateAfter d).mpr item, ?_⟩
      rw [claimsOfItem_reduce e ne found]
      exact List.mem_map.mpr ⟨s, after, rfl⟩
    | @shift lhs _ done todo target item terminal move =>
      refine ⟨_, (mem_stateAfter d).mpr item, ?_⟩
      rw [claimsOfItem_shift e d here terminal]
      exact List.mem_map.mpr ⟨target, Option.mem_toList.mpr move, rfl⟩

omit d in
theorem claimsOfNonterminal_eq {s : Symbol} (hs : s ∈ g.nonterminals) :
    claimsOfNonterminal n (stateAfter (.ofGrammar g) read) m s =
      ((m.transitions.get? ((n : Int), s)).toList.map
        fun (target : Nat) => .goto n s target, m) := by
  have move := transition_finished e here
    (List.mem_append_right _ (List.mem_cons_of_mem _ hs))
  simp [claimsOfNonterminal, move]

end States

/-- Sources that leave the automaton as it is are gathered independently. -/
theorem gather_unchanged {α : Type} {claim : Automaton → α → List Claim × Automaton}
    {xs : List α} (same : ∀ x ∈ xs, (claim m x).2 = m) :
    (gather claim xs m).2 = m ∧
      ∀ c, c ∈ (gather claim xs m).1 ↔ c.2 = m ∧ ∃ x ∈ xs, c.1 ∈ (claim m x).1 := by
  induction xs with
  | nil => simp [gather]
  | cons x rest ih =>
    obtain ⟨last, members⟩ := ih fun y hy => same y (List.mem_cons_of_mem x hy)
    have first := same x List.mem_cons_self
    unfold gather
    dsimp only
    rw [first]
    refine ⟨last, ?_⟩
    rintro ⟨claim', m'⟩
    rw [List.mem_append, members, List.mem_map]
    dsimp only
    constructor
    · rintro (⟨c, hc, same'⟩ | ⟨rfl, y, hy, hc⟩)
      · cases same'
        exact ⟨rfl, x, List.mem_cons_self, hc⟩
      · exact ⟨rfl, y, List.mem_cons_of_mem x hy, hc⟩
    · rintro ⟨rfl, y, hy, hc⟩
      rcases List.mem_cons.mp hy with rfl | hy
      · exact Or.inl ⟨claim', hc, rfl⟩
      · exact Or.inr ⟨rfl, y, hy, hc⟩

/-- The claims that a state makes in a finished automaton. -/
def StateClaims (follow : SymbolSets) (m : Automaton) (n : Nat) (items : State) (c : Claim) :
    Prop :=
  (∃ i ∈ items, c ∈ (claimsOfItem follow n items m i).1) ∨
    ∃ s ∈ m.augmented.grammar.nonterminals, c ∈ (claimsOfNonterminal n items m s).1

section Claims

variable (d : g.Declared) (e : Finished (.ofGrammar g) g.symbols m)
include d e

theorem claimsOfState_unchanged {n : Nat} {items : State} (here : m.states[n]? = some items) :
    (claimsOfState follow n items m).2 = m ∧
      ∀ c, c ∈ (claimsOfState follow n items m).1 ↔
        c.2 = m ∧ StateClaims follow m n items c.1 := by
  obtain ⟨read, rfl⟩ := e.reached items (List.mem_of_getElem? here)
  obtain ⟨first, ofItems⟩ := @gather_unchanged m _
    (claimsOfItem follow n (stateAfter (.ofGrammar g) read)) _
    (fun i hi => claimsOfItem_unchanged d e here hi)
  have kept : ∀ s ∈ m.augmented.grammar.nonterminals.toList,
      (claimsOfNonterminal n (stateAfter (.ofGrammar g) read) m s).2 = m := by
    intro s hs
    rw [e.augmented] at hs
    rw [claimsOfNonterminal_eq e here hs]
  obtain ⟨second, ofNonterminals⟩ := gather_unchanged kept
  unfold claimsOfState StateClaims
  dsimp only
  rw [first]
  refine ⟨second, ?_⟩
  intro c
  rw [List.mem_append, ofItems, ofNonterminals, ← and_or_left]
  rfl

theorem mem_claimsFrom {limit n : Nat} (c : Claim × Automaton) :
    c ∈ (claimsFrom follow limit n m).1 ↔ c.2 = m ∧ ∃ k items, n ≤ k ∧ k < n + limit ∧
      m.states[k]? = some items ∧ StateClaims follow m k items c.1 := by
  induction limit generalizing n with
  | zero =>
    simp only [claimsFrom, List.not_mem_nil, false_iff]
    rintro ⟨_, k, _, le, lt, _⟩
    omega
  | succ limit ih =>
    unfold claimsFrom
    cases here : m.states[n]? with
    | none =>
      simp only [List.not_mem_nil, false_iff]
      rintro ⟨_, k, items, le, _, there, _⟩
      have short := List.getElem?_eq_none_iff.mp here
      have known := (List.getElem?_eq_some_iff.mp there).1
      omega
    | some items =>
      obtain ⟨same, members⟩ := @claimsOfState_unchanged g follow m d e n items here
      dsimp only
      rw [same, List.mem_append, members, ih]
      constructor
      · rintro (⟨own, claims⟩ | ⟨own, k, others, le, lt, there, claims⟩)
        · exact ⟨own, n, items, Nat.le_refl n, by omega, here, claims⟩
        · exact ⟨own, k, others, by omega, by omega, there, claims⟩
      · rintro ⟨own, k, others, le, lt, there, claims⟩
        by_cases first : k = n
        · subst first
          obtain rfl := Option.some.inj (here.symm.trans there)
          exact Or.inl ⟨own, claims⟩
        · exact Or.inr ⟨own, k, others, by omega, by omega, there, claims⟩

theorem mem_claims (c : Claim × Automaton) :
    c ∈ (claims follow m).1 ↔ c.2 = m ∧ ∃ n items, m.states[n]? = some items ∧
      StateClaims follow m n items c.1 := by
  unfold claims
  rw [mem_claimsFrom d e]
  constructor
  · rintro ⟨own, k, items, _, _, here, claims⟩
    exact ⟨own, k, items, here, claims⟩
  · rintro ⟨own, k, items, here, claims⟩
    have known := (List.getElem?_eq_some_iff.mp here).1
    refine ⟨own, k, items, Nat.zero_le k, ?_, here, claims⟩
    unfold stateLimit
    dsimp only
    omega

theorem action_mem_claims {state : Int} {s : Symbol} {act : Action} :
    (Claim.action state s act, m) ∈ (claims follow m).1 ↔
      ∃ (n : Nat) (read : List Symbol), m.states[n]? = some (stateAfter (.ofGrammar g) read) ∧
        state = n ∧ Claimed g follow m n read s act := by
  rw [mem_claims d e]
  dsimp only
  constructor
  · rintro ⟨_, n, items, here, ofItem | ⟨x, hx, claim⟩⟩
    · obtain ⟨read, rfl⟩ := e.reached items (List.mem_of_getElem? here)
      obtain ⟨_, _, same, claimed⟩ := (mem_claimsOfItem d e here).mp ofItem
      cases same
      exact ⟨n, read, here, rfl, claimed⟩
    · obtain ⟨read, rfl⟩ := e.reached items (List.mem_of_getElem? here)
      rw [e.augmented] at hx
      rw [claimsOfNonterminal_eq e here hx, List.mem_map] at claim
      obtain ⟨_, _, same⟩ := claim
      cases same
  · rintro ⟨n, read, here, rfl, claimed⟩
    exact ⟨rfl, n, _, here, Or.inl ((mem_claimsOfItem d e here).mpr ⟨s, act, rfl, claimed⟩)⟩

theorem goto_mem_claims {state target : Int} {s : Symbol} :
    (Claim.goto state s target, m) ∈ (claims follow m).1 ↔
      s ∈ g.nonterminals ∧ ∃ k : Nat, m.transitions.get? (state, s) = some k ∧ target = k := by
  rw [mem_claims d e]
  dsimp only
  constructor
  · rintro ⟨_, n, items, here, ofItem | ⟨x, hx, claim⟩⟩
    · obtain ⟨read, rfl⟩ := e.reached items (List.mem_of_getElem? here)
      obtain ⟨_, _, same, _⟩ := (mem_claimsOfItem d e here).mp ofItem
      cases same
    · obtain ⟨read, rfl⟩ := e.reached items (List.mem_of_getElem? here)
      rw [e.augmented] at hx
      rw [claimsOfNonterminal_eq e here hx, List.mem_map] at claim
      obtain ⟨k, move, same⟩ := claim
      cases same
      exact ⟨hx, k, Option.mem_toList.mp move, rfl⟩
  · rintro ⟨hs, k, move, rfl⟩
    obtain ⟨n, items, rfl, here, _⟩ := e.sound _ _ _ move
    obtain ⟨read, rfl⟩ := e.reached items (List.mem_of_getElem? here)
    refine ⟨rfl, n, _, here, Or.inr ⟨s, by rw [e.augmented]; exact hs, ?_⟩⟩
    rw [claimsOfNonterminal_eq e here hs]
    exact List.mem_map.mpr ⟨k, Option.mem_toList.mpr move, rfl⟩

end Claims

/-- A settled action is in its cell, or it is a reduction and acceptance is there. -/
def Builder.Settled (b : Builder) (cell : Int × Symbol) (act : Action) : Prop :=
  b.action.get? cell = some act ∨ b.action.get? cell = some .accept ∧ act.isReduce = true

/-- What settling an action does to the cells: its own is filled, what was settled stays so, and
nothing else is written. -/
structure ActionSettled (b e : Builder) (cell : Int × Symbol) (act : Action) : Prop where
  mode : e.mode = b.mode
  goto : e.goto = b.goto
  own : e.Settled cell act
  keeps : ∀ other old, b.Settled other old → e.Settled other old
  only : ∀ other new, e.action.get? other = some new →
    b.action.get? other = some new ∨ other = cell ∧ new = act

theorem actionSettled_put {b : Builder} {cell : Int × Symbol} {act : Action}
    (stronger : ∀ old, b.Settled cell old → act = old ∨ act = .accept ∧ old.isReduce = true) :
    ActionSettled b { b with action := b.action.put cell act } cell act := by
  constructor
  case mode => rfl
  case goto => rfl
  case own =>
    left
    rw [CellMap.get?_put, if_pos rfl]
  case keeps =>
    intro other old settled
    unfold Builder.Settled
    rw [CellMap.get?_put]
    by_cases here : cell = other
    · subst here
      rw [if_pos rfl]
      rcases stronger old settled with rfl | ⟨rfl, reduces⟩
      · exact Or.inl rfl
      · exact Or.inr ⟨rfl, reduces⟩
    · rw [if_neg here]
      exact settled
  case only =>
    intro other new found
    rw [CellMap.get?_put] at found
    split at found
    · rename_i here
      exact Or.inr ⟨here.symm, (Option.some.inj found).symm⟩
    · exact Or.inl found

/-- Acceptance prevails over reductions. -/
def Action.prevails (act other : Action) : Bool := act = .accept && other.isReduce

@[simp] theorem Action.prevails_iff {act other : Action} :
    act.prevails other = true ↔ act = .accept ∧ other.isReduce = true := by
  rw [Action.prevails, Bool.and_eq_true, decide_eq_true_eq]

/-- Everything that settling an action can do. -/
theorem setAction_cases {b next : Builder} {n : Int} {s : Symbol} {act : Action}
    (settled : b.setAction n s act = .ok next) :
    b.action.get? (n, s) = none ∧ next = { b with action := b.action.put (n, s) act } ∨
      ∃ existing, b.action.get? (n, s) = some existing ∧
        ((existing = act ∨ existing.prevails act = true) ∧ next = b ∨
          existing ≠ act ∧ existing.prevails act = false ∧ act.prevails existing = true ∧
            next = { b with action := b.action.put (n, s) act } ∨
          existing ≠ act ∧ existing.prevails act = false ∧ act.prevails existing = false ∧
            b.mode = .collect ∧
            next = { b with conflicts := b.conflicts ++ [⟨n, s, existing, act⟩] }) := by
  unfold Builder.setAction at settled
  cases found : b.action.get? (n, s) with
  | none =>
    rw [found] at settled
    cases settled
    exact Or.inl ⟨rfl, rfl⟩
  | some existing =>
    rw [found] at settled
    refine Or.inr ⟨existing, rfl, ?_⟩
    change (if existing = act then _ else if existing.prevails act = true then _ else
      if act.prevails existing = true then _ else _) = _ at settled
    by_cases same : existing = act
    · rw [if_pos same] at settled
      cases settled
      exact Or.inl ⟨Or.inl same, rfl⟩
    · rw [if_neg same] at settled
      cases keeps : existing.prevails act with
      | true =>
        rw [if_pos keeps] at settled
        cases settled
        exact Or.inl ⟨Or.inr rfl, rfl⟩
      | false =>
        rw [if_neg (Bool.eq_false_iff.mp keeps)] at settled
        cases takes : act.prevails existing with
        | true =>
          rw [if_pos takes] at settled
          cases settled
          exact Or.inr (Or.inl ⟨same, rfl, rfl, rfl⟩)
        | false =>
          rw [if_neg (Bool.eq_false_iff.mp takes)] at settled
          cases mode : b.mode with
          | stop =>
            rw [mode] at settled
            cases settled
          | collect =>
            rw [mode] at settled
            cases settled
            exact Or.inr (Or.inr ⟨same, rfl, rfl, rfl, rfl⟩)

theorem actionSettled_of_setAction {b e : Builder} {state : Int} {s : Symbol} {act : Action}
    (mode : b.mode = .stop) (h : b.setAction state s act = .ok e) :
    ActionSettled b e (state, s) act := by
  rcases setAction_cases h with ⟨free, rfl⟩ | ⟨existing, found, ⟨kept, rfl⟩ |
    ⟨_, _, takes, rfl⟩ | ⟨_, _, _, collects, _⟩⟩
  · apply actionSettled_put
    rintro old (here | ⟨here, _⟩)
    all_goals
      rw [free] at here
      cases here
  · have own : e.Settled (state, s) act := by
      rcases kept with rfl | keeps
      · exact Or.inl found
      · obtain ⟨rfl, reduces⟩ := Action.prevails_iff.mp keeps
        exact Or.inr ⟨found, reduces⟩
    exact ⟨rfl, rfl, own, fun _ _ old => old, fun _ _ old => Or.inl old⟩
  · obtain ⟨rfl, reduces⟩ := Action.prevails_iff.mp takes
    apply actionSettled_put
    rintro old (here | ⟨here, _⟩)
    · obtain rfl := Option.some.inj (found.symm.trans here)
      exact Or.inr ⟨rfl, reduces⟩
    · obtain rfl := Option.some.inj (found.symm.trans here)
      cases reduces
  · rw [mode] at collects
    cases collects

theorem get?_setGoto {b e : Builder} {state target : Int} {s : Symbol}
    (h : b.setGoto state s target = .ok e) :
    e.mode = b.mode ∧ e.action = b.action ∧ ∀ cell k, e.goto.get? cell = some k ↔
      b.goto.get? cell = some k ∨ cell = (state, s) ∧ k = target := by
  unfold Builder.setGoto at h
  cases found : b.goto.get? (state, s) with
  | none =>
    rw [found] at h
    cases h
    refine ⟨rfl, rfl, ?_⟩
    intro cell k
    rw [CellMap.get?_put]
    by_cases here : (state, s) = cell
    · subst here
      simp [found, eq_comm]
    · rw [if_neg here]
      simp [Ne.symm here]
  | some existing =>
    rw [found] at h
    dsimp only at h
    split at h
    · rename_i same
      cases h
      refine ⟨rfl, rfl, ?_⟩
      intro cell k
      constructor
      · exact Or.inl
      · rintro (old | ⟨rfl, rfl⟩)
        · exact old
        · exact same ▸ found
    · cases h

theorem foldlM_settle {cs : Claims} {b e : Builder} (mode : b.mode = .stop)
    (h : cs.foldlM Builder.settle b = .ok e) :
    (∀ cell act, b.Settled cell act ∨ (∃ m, (Claim.action cell.1 cell.2 act, m) ∈ cs) →
      e.Settled cell act) ∧
    (∀ cell act, e.action.get? cell = some act →
      b.action.get? cell = some act ∨ ∃ m, (Claim.action cell.1 cell.2 act, m) ∈ cs) ∧
    ∀ cell k, e.goto.get? cell = some k ↔
      b.goto.get? cell = some k ∨ ∃ m, (Claim.goto cell.1 cell.2 k, m) ∈ cs := by
  induction cs generalizing b with
  | nil =>
    cases h
    simp
  | cons claim rest ih =>
    rw [List.foldlM_cons] at h
    cases first : b.settle claim with
    | error stopped =>
      rw [first] at h
      cases h
    | ok k =>
      rw [first] at h
      obtain ⟨c, m⟩ := claim
      cases c with
      | failure error => cases first
      | action state s act =>
        have one : ActionSettled { b with automaton := m } k (state, s) act :=
          actionSettled_of_setAction mode first
        obtain ⟨settled, only, gotos⟩ := ih (one.mode.trans mode) h
        refine ⟨?_, ?_, ?_⟩
        · rintro cell act' (old | ⟨m', member⟩)
          · exact settled cell act' (Or.inl (one.keeps cell act' old))
          · rcases List.mem_cons.mp member with same | member
            · cases same
              exact settled _ _ (Or.inl one.own)
            · exact settled cell act' (Or.inr ⟨m', member⟩)
        · intro cell act' found
          rcases only cell act' found with here | ⟨m', member⟩
          · rcases one.only cell act' here with old | ⟨rfl, rfl⟩
            · exact Or.inl old
            · exact Or.inr ⟨m, List.mem_cons_self⟩
          · exact Or.inr ⟨m', List.mem_cons_of_mem _ member⟩
        · intro cell target
          rw [gotos, one.goto]
          simp
      | goto state s target =>
        obtain ⟨mode', action, cells⟩ := get?_setGoto first
        obtain ⟨settled, only, gotos⟩ := ih (mode'.trans mode) h
        refine ⟨?_, ?_, ?_⟩
        · rintro cell act (old | ⟨m', member⟩)
          · refine settled cell act (Or.inl ?_)
            unfold Builder.Settled
            rw [action]
            exact old
          · rcases List.mem_cons.mp member with same | member
            · cases same
            · exact settled cell act (Or.inr ⟨m', member⟩)
        · intro cell act found
          rcases only cell act found with here | ⟨m', member⟩
          · rw [action] at here
            exact Or.inl here
          · exact Or.inr ⟨m', List.mem_cons_of_mem _ member⟩
        · intro cell j
          rw [gotos, cells]
          constructor
          · rintro ((old | ⟨rfl, rfl⟩) | ⟨m', member⟩)
            · exact Or.inl old
            · exact Or.inr ⟨m, List.mem_cons_self⟩
            · exact Or.inr ⟨m', List.mem_cons_of_mem _ member⟩
          · rintro (old | ⟨m', member⟩)
            · exact Or.inl (Or.inl old)
            · rcases List.mem_cons.mp member with same | member
              · cases same
                exact Or.inl (Or.inr ⟨rfl, rfl⟩)
              · exact Or.inr ⟨m', member⟩

def automaton (g : Grammar) : Automaton := (Automaton.ofAugmented (.ofGrammar g)).build

theorem finished_automaton (g : Grammar) : Finished (.ofGrammar g) g.symbols (automaton g) :=
  finished_build _

theorem Claimed.congr (d : g.Declared) {n : Int} {read other : List Symbol} {s : Symbol}
    {act : Action} (h : Claimed g follow m n read s act)
    (same : stateAfter (.ofGrammar g) read = stateAfter (.ofGrammar g) other) :
    Claimed g follow m n other s act := by
  have transfer : ∀ {lhs done todo}, Valid g read lhs done todo → Valid g other lhs done todo := by
    intro lhs done todo item
    exact (mem_stateAfter d).mp (same ▸ (mem_stateAfter d).mpr item)
  cases h with
  | accept item => exact .accept (transfer item)
  | reduce item ne found after => exact .reduce (transfer item) ne found after
  | shift item terminal move => exact .shift (transfer item) terminal move

theorem foldlM_of_builder {b last : Builder} (h : b.build = .ok last) :
    ∃ e, (claims b.follow b.automaton.build).1.foldlM Builder.settle
        { b with automaton := b.automaton.build } = .ok e ∧
      last.action = e.action ∧ last.goto = e.goto := by
  unfold Builder.build at h
  dsimp only at h
  cases settled : (claims b.follow b.automaton.build).1.foldlM Builder.settle
      { b with automaton := b.automaton.build } with
  | error stopped =>
    rw [settled] at h
    cases h
  | ok e =>
    rw [settled] at h
    cases h
    exact ⟨e, rfl, rfl, rfl⟩

/-- The tables come from empty ones by settling the claims of the whole automaton. -/
theorem foldlM_of_build {t : Tables} (built : build g follow = .ok t) :
    ∃ b e : Builder, b.mode = .stop ∧ b.action = ∅ ∧ b.goto = ∅ ∧
      (claims follow (automaton g)).1.foldlM Builder.settle b = .ok e ∧
      t.action = e.action ∧ t.goto = e.goto := by
  unfold build at built
  cases made : (Builder.new g follow .stop).build with
  | error stopped =>
    rw [made] at built
    cases built
  | ok last =>
    rw [made] at built
    cases built
    obtain ⟨e, settled, action, goto⟩ := foldlM_of_builder made
    exact ⟨_, e, rfl, rfl, rfl, settled, action, goto⟩

section Tables

variable {t : Tables} (d : g.Declared) (built : build g follow = .ok t)
include d built

/-- The cells for the states after reductions are the transitions over nonterminals. -/
theorem get?_goto {n target : Int} {s : Symbol} :
    t.goto.get? (n, s) = some target ↔ s ∈ g.nonterminals ∧
      ∃ k : Nat, (automaton g).transitions.get? (n, s) = some k ∧ target = k := by
  obtain ⟨b, e, mode, _, empty, settled, _, same⟩ := foldlM_of_build built
  rw [same, (foldlM_settle mode settled).2.2, ← goto_mem_claims d (finished_automaton g), empty,
    CellMap.get?_empty]
  constructor
  · rintro (none | ⟨m, member⟩)
    · cases none
    · obtain rfl : m = automaton g := ((mem_claims d (finished_automaton g) _).mp member).1
      exact member
  · intro member
    exact Or.inr ⟨_, member⟩

/-- A cell holds an action that a state claims. -/
theorem exists_claimed_of_cell {n : Int} {s : Symbol} {act : Action}
    (found : t.action.get? (n, s) = some act) : ∃ (k : Nat) (read : List Symbol),
      (automaton g).states[k]? = some (stateAfter (.ofGrammar g) read) ∧ n = k ∧
        Claimed g follow (automaton g) k read s act := by
  obtain ⟨b, e, mode, empty, _, settled, same, _⟩ := foldlM_of_build built
  rw [same] at found
  rcases (foldlM_settle mode settled).2.1 _ _ found with none | ⟨m, member⟩
  · rw [empty, CellMap.get?_empty] at none
    cases none
  · obtain rfl : m = automaton g := ((mem_claims d (finished_automaton g) _).mp member).1
    exact (action_mem_claims d (finished_automaton g)).mp member

section Numbered

variable {k : Nat} {read : List Symbol}
  (here : (automaton g).states[k]? = some (stateAfter (.ofGrammar g) read))
include here

theorem claimed_of_cell {s : Symbol} {act : Action}
    (found : t.action.get? ((k : Int), s) = some act) :
    Claimed g follow (automaton g) k read s act := by
  obtain ⟨j, other, there, number, claimed⟩ := exists_claimed_of_cell d built found
  obtain rfl : k = j := Int.ofNat.inj number
  exact claimed.congr d (Option.some.inj (there.symm.trans here))

theorem cell_of_claimed {s : Symbol} {act : Action}
    (claimed : Claimed g follow (automaton g) k read s act) :
    t.action.get? ((k : Int), s) = some act ∨
      t.action.get? ((k : Int), s) = some .accept ∧ act.isReduce = true := by
  obtain ⟨b, e, mode, _, _, settled, same, _⟩ := foldlM_of_build built
  rw [same]
  refine (foldlM_settle mode settled).1 (k, s) act (Or.inr ⟨automaton g, ?_⟩)
  exact (action_mem_claims d (finished_automaton g)).mpr ⟨k, read, here, rfl, claimed⟩

/-- Only a reduction gives way. -/
theorem cell_of_kept {s : Symbol} {act : Action}
    (claimed : Claimed g follow (automaton g) k read s act) (keeps : act.isReduce = false) :
    t.action.get? ((k : Int), s) = some act := by
  rcases cell_of_claimed d built here claimed with own | ⟨_, reduces⟩
  · exact own
  · rw [keeps] at reduces
    cases reduces

end Numbered

variable {n : Int} {below : List Int} {read : List Symbol}
  (path : Path (automaton g) (n :: below) read)
include path

theorem claimed_of_action {s : Symbol} {act : Action}
    (found : t.action.get? (n, s) = some act) :
    Claimed g follow (automaton g) n read s act := by
  obtain ⟨k, rfl, here, _⟩ := path.state (finished_automaton g)
  exact claimed_of_cell d built here found

theorem action_of_claimed {s : Symbol} {act : Action}
    (claimed : Claimed g follow (automaton g) n read s act) :
    t.action.get? (n, s) = some act ∨
      t.action.get? (n, s) = some .accept ∧ act.isReduce = true := by
  obtain ⟨k, rfl, here, _⟩ := path.state (finished_automaton g)
  exact cell_of_claimed d built here claimed

/-- A valid item with its dot before a terminal has its shift in the table. -/
theorem exists_shift {lhs s : Symbol} {done todo : List Symbol}
    (item : Valid g read lhs done (s :: todo)) (terminal : s ∈ g.terminals) :
    ∃ target : Nat, t.action.get? (n, s) = some (.shift target) ∧
      Path (automaton g) ((target : Int) :: n :: below) (read ++ [s]) := by
  obtain ⟨target, move, longer⟩ := exists_transition d (finished_automaton g) path item
  obtain ⟨k, rfl, here, _⟩ := path.state (finished_automaton g)
  exact ⟨target, cell_of_kept d built here (.shift item terminal move) rfl, longer⟩

/-- A completed item has a reduction in the table, unless acceptance has its cell. -/
theorem exists_reduce {p : Production} (item : Valid g read p.lhs p.body [])
    (rule : p ∈ g.productions) {ahead : Symbol} (after : ahead ∈ follow.getD p.lhs ∅) :
    t.action.get? (n, ahead) = some .accept ∨
      ∃ q, q.lhs = p.lhs ∧ q.body = p.body ∧ t.action.get? (n, ahead) = some (.reduce q) := by
  obtain ⟨q, found⟩ := exists_productionOf d rule
  obtain ⟨_, left, body⟩ := productionOf_eq_ok d found
  have ne := Augmented.start_name_free (Or.inl (d.lhs_mem rule))
  rcases action_of_claimed d built path (.reduce item ne found after) with own | ⟨accepts, _⟩
  · exact Or.inr ⟨q, left, body, own⟩
  · exact Or.inl accepts

theorem exists_accept (item : Valid g read (Augmented.ofGrammar g).start [g.start] []) :
    t.action.get? (n, Symbol.endMarker) = some .accept := by
  obtain ⟨k, rfl, here, _⟩ := path.state (finished_automaton g)
  exact cell_of_kept d built here (.accept item) rfl

end Tables

end TableParsing.ShiftReduce
