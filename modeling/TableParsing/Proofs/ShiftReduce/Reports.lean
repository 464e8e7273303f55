import TableParsing.Proofs.Data.Contest
import TableParsing.Proofs.Modes
import TableParsing.Proofs.ShiftReduce.Tables

/- What a report of shift-reduce conflicts is made of, whatever symbols are said to follow. The
   claims for one cell are the actions that the items of its state call for, in the order of the
   items. Where acceptance is not among them the first one keeps the cell, and each other action is
   reported against it. -/
namespace TableParsing.ShiftReduce
open Automaton Contest

variable {g : Grammar} {follow : SymbolSets} {m : Automaton} {s : Symbol} {act other : Action}

/-- An item of a state calls for an action under a symbol. -/
inductive Calls (g : Grammar) (follow : SymbolSets) (states : List State) (items : State)
    (s : Symbol) (i : Item) : Action → Prop where
  | accept (whole : i = .dotted (Augmented.ofGrammar g).start [g.start] [])
      (marker : s = Symbol.endMarker) : Calls g follow states items s i .accept
  | shift {lhs : Symbol} {done todo : List Symbol} {target : Nat}
      (ahead : i = .dotted lhs done (s :: todo)) (plain : s ∉ g.nonterminals)
      (entered : states[target]? = some (goto (.ofGrammar g) items.toList s)) :
      Calls g follow states items s i (.shift target)
  | reduce {lhs : Symbol} {body : List Symbol} {p : Production}
      (completed : i = .dotted lhs body []) (inner : lhs ≠ (Augmented.ofGrammar g).start)
      (after : s ∈ follow.getD lhs ∅)
      (found : (g.productionsFor lhs).find? (·.body = body) = some p) :
      Calls g follow states items s i (.reduce p)

/-- Some item of a state calls for an action. -/
def CalledFor (g : Grammar) (follow : SymbolSets) (states : List State) (items : State)
    (s : Symbol) (act : Action) : Prop :=
  ∃ i ∈ items, Calls g follow states items s i act

/-- The first item of a state that calls for an action calls for this one. -/
def CalledFirst (g : Grammar) (follow : SymbolSets) (states : List State) (items : State)
    (s : Symbol) (act : Action) : Prop :=
  ∃ before i after, items.toList = before ++ i :: after ∧ Calls g follow states items s i act ∧
    ∀ j ∈ before, ∀ other, ¬ Calls g follow states items s j other

/-- A conflict of two actions that a state calls for, neither of them acceptance. -/
structure Genuine (g : Grammar) (follow : SymbolSets) (states : List State) (items : State)
    (c : Conflict) : Prop where
  existing : CalledFor g follow states items c.symbol c.existing
  new : CalledFor g follow states items c.symbol c.new
  apart : c.existing ≠ c.new
  unaccepted : c.existing ≠ .accept ∧ c.new ≠ .accept
  kind : c.existing.isReduce = true ∧ c.new.isReduce = true ∧ c.kind = "reduce/reduce" ∨
    c.existing.isShift ≠ c.new.isShift ∧ c.kind = "shift/reduce"

/-- What a claim is for one cell. -/
def Claim.at? (n : Int) (s : Symbol) : Claim → Option Action
  | .action k x act => if k = n ∧ x = s then some act else none
  | _ => none

/-- The two actions of a conflict, if it is about one cell. -/
def Conflict.at? (n : Int) (s : Symbol) (c : Conflict) : Option (Action × Action) :=
  if c.state = n ∧ c.symbol = s then some (c.existing, c.new) else none

/-- What has become of one cell. -/
def Builder.contest (n : Int) (s : Symbol) (b : Builder) : Contest Action :=
  ⟨b.action.get? (n, s), b.conflicts.filterMap (Conflict.at? n s)⟩

theorem contest_setAction_own {b next : Builder} {n : Int}
    (settled : b.setAction n s act = .ok next) :
    next.contest n s = (b.contest n s).claim Action.prevails act := by
  rcases setAction_cases settled with ⟨found, rfl⟩ | ⟨existing, found, ⟨same | keeps, rfl⟩ |
    ⟨apart, keeps, takes, rfl⟩ | ⟨apart, keeps, takes, _, rfl⟩⟩
  · simp [Builder.contest, Contest.claim, found, CellMap.get?_put]
  · simp [Builder.contest, Contest.claim, found, same]
  · simp [Builder.contest, Contest.claim, found, keeps]
  · simp [Builder.contest, Contest.claim, found, apart, keeps, takes, CellMap.get?_put]
  · simp [Builder.contest, Contest.claim, found, apart, keeps, takes, Conflict.at?]

theorem contest_setAction_other {b next : Builder} {k n : Int} {x : Symbol}
    (apart : ¬ (k = n ∧ x = s)) (settled : b.setAction k x act = .ok next) :
    next.contest n s = b.contest n s := by
  have elsewhere : (k, x) ≠ (n, s) := fun same => apart (Prod.mk.inj same)
  rcases setAction_cases settled with ⟨_, rfl⟩ | ⟨existing, _, ⟨_, rfl⟩ | ⟨_, _, _, rfl⟩ |
    ⟨_, _, _, _, rfl⟩⟩
  · simp [Builder.contest, CellMap.get?_put, elsewhere]
  · rfl
  · simp [Builder.contest, CellMap.get?_put, elsewhere]
  · simp [Builder.contest, Conflict.at?, apart]

theorem contest_settle {n : Int} (b : Builder) (claim : Claim × Automaton) (next : Builder)
    (settled : b.settle claim = .ok next) :
    next.contest n s =
      (claim.1.at? n s).elim (b.contest n s) ((b.contest n s).claim Action.prevails) := by
  obtain ⟨claim, found⟩ := claim
  cases claim with
  | failure e => cases settled
  | goto state x target =>
    have done : { b with automaton := found }.setGoto state x target = .ok next := settled
    unfold Builder.setGoto at done
    split at done
    · cases done
      rfl
    · split at done
      · cases done
        rfl
      · cases done
  | action k x act =>
    have done : { b with automaton := found }.setAction k x act = .ok next := settled
    have unseen : ({ b with automaton := found } : Builder).contest n s = b.contest n s := rfl
    rw [← unseen]
    by_cases here : k = n ∧ x = s
    · obtain ⟨rfl, rfl⟩ := here
      have own : Claim.at? k x (.action k x act) = some act := if_pos ⟨rfl, rfl⟩
      rw [own]
      exact contest_setAction_own done
    · have none : Claim.at? n s (.action k x act) = none := if_neg here
      rw [none]
      exact contest_setAction_other here done

section Finished

variable (d : g.Declared) (e : Finished (.ofGrammar g) g.symbols m) {n k : Nat}
include d e

theorem rivals_claimsOfState {read : List Symbol}
    (here : m.states[n]? = some (stateAfter (.ofGrammar g) read)) :
    ((claimsOfState follow n (stateAfter (.ofGrammar g) read) m).1.filterMap
        fun c => c.1.at? n s) =
      (stateAfter (.ofGrammar g) read).toList.flatMap fun i =>
        (claimsOfItem follow n (stateAfter (.ofGrammar g) read) m i).1.filterMap
          (Claim.at? n s) := by
  have transitions : ((g.nonterminals.toList.flatMap fun x =>
      (claimsOfNonterminal n (stateAfter (.ofGrammar g) read) m x).1.map (·, m)).filterMap
        fun c => c.1.at? n s) = [] := by
    apply List.filterMap_eq_nil_iff.mpr
    intro c member
    obtain ⟨x, declared, claim⟩ := List.mem_flatMap.mp member
    rw [claimsOfNonterminal_eq e here declared, List.map_map, List.mem_map] at claim
    obtain ⟨_, _, rfl⟩ := claim
    rfl
  rw [claimsOfState_eq d e here, List.filterMap_append, transitions, List.append_nil,
    List.filterMap_flatMap]
  congr 1
  funext i
  rw [List.filterMap_map]
  rfl

theorem at?_of_other {items : State} (there : m.states[n]? = some items) (apart : n ≠ k)
    {claim : Claim} (own : StateClaims follow m n items claim) : claim.at? k s = none := by
  cases claim with
  | action state x act =>
    have number := state_of_claim d e there own
    exact if_neg fun same => apart (Int.ofNat.inj (number.symm.trans same.1))
  | goto => rfl
  | failure => rfl

/-- The claims of the other states fall away. -/
theorem rivals_claimsFrom {items : State} (here : m.states[k]? = some items) {limit : Nat}
    (le : n ≤ k) (lt : k < n + limit) :
    ((claimsFrom follow limit n m).1.filterMap fun c => c.1.at? k s) =
      (claimsOfState follow k items m).1.filterMap fun c => c.1.at? k s := by
  induction limit generalizing n with
  | zero => omega
  | succ limit ih =>
    unfold claimsFrom
    cases there : m.states[n]? with
    | none =>
      have short := List.getElem?_eq_none_iff.mp there
      have known := (List.getElem?_eq_some_iff.mp here).1
      omega
    | some others =>
      dsimp only
      rw [(claimsOfState_unchanged d e there).1, List.filterMap_append]
      by_cases same : n = k
      · subst same
        obtain rfl := Option.some.inj (here.symm.trans there)
        -- the states behind this one have other numbers
        have later : ((claimsFrom follow limit (n + 1) m).1.filterMap
            fun c => c.1.at? n s) = [] := by
          apply List.filterMap_eq_nil_iff.mpr
          intro c member
          obtain ⟨_, j, items, le, _, there, own⟩ := (mem_claimsFrom d e c).mp member
          exact at?_of_other d e there (by omega) own
        rw [later, List.append_nil]
      · have earlier : ((claimsOfState follow n others m).1.filterMap
            fun c => c.1.at? k s) = [] := by
          apply List.filterMap_eq_nil_iff.mpr
          intro c member
          exact at?_of_other d e there same (((claimsOfState_unchanged d e there).2 c).mp member).2
        rw [earlier, List.nil_append]
        exact ih (by omega) (by omega)

theorem rivals_claims {items : State} (here : m.states[k]? = some items) :
    ((claims follow m).1.filterMap fun c => c.1.at? k s) =
      items.toList.flatMap fun i =>
        (claimsOfItem follow k items m i).1.filterMap (Claim.at? k s) := by
  have known := (List.getElem?_eq_some_iff.mp here).1
  have enough : k < 0 + stateLimit m := by
    unfold stateLimit
    dsimp only
    omega
  obtain ⟨read, rfl⟩ := e.reached items (List.mem_of_getElem? here)
  unfold claims
  rw [rivals_claimsFrom d e here (Nat.zero_le k) enough, rivals_claimsOfState d e here]

end Finished

theorem Claim.at?_eq_some_iff {n : Int} {claim : Claim} :
    claim.at? n s = some act ↔ claim = .action n s act := by
  constructor
  · intro here
    cases claim with
    | action k x a =>
      unfold Claim.at? at here
      dsimp only at here
      split at here
      · rename_i place
        rw [place.1, place.2, Option.some.inj here]
      · cases here
    | goto => cases here
    | failure => cases here
  · rintro rfl
    exact if_pos ⟨rfl, rfl⟩

theorem mem_filterMap_at {cs : List Claim} {n : Int} :
    act ∈ cs.filterMap (Claim.at? n s) ↔ Claim.action n s act ∈ cs := by
  simp only [List.mem_filterMap, Claim.at?_eq_some_iff, exists_eq_right]

theorem Conflict.at?_eq_some_iff {n : Int} {c : Conflict} :
    c.at? n s = some (act, other) ↔ c = ⟨n, s, act, other⟩ := by
  obtain ⟨k, x, existing, new⟩ := c
  simp [Conflict.at?, and_assoc]

section States

variable (d : g.Declared)
include d

section Items

variable {k : Nat} {read done : List Symbol} {lhs : Symbol}
  (here : (automaton g).states[k]? = some (stateAfter (.ofGrammar g) read))
include here

omit here in
theorem mem_claims_start (item : Valid g read (Augmented.ofGrammar g).start done []) :
    Claim.action k s act ∈ (claimsOfItem follow k (stateAfter (.ofGrammar g) read) (automaton g)
        (.dotted (Augmented.ofGrammar g).start done [])).1 ↔
      Calls g follow (automaton g).states (stateAfter (.ofGrammar g) read) s
        (.dotted (Augmented.ofGrammar g).start done []) act := by
  rw [claimsOfItem_accept (finished_automaton g), List.mem_singleton]
  constructor
  · intro claim
    cases claim
    have whole := item.start_body d
    rw [List.append_nil] at whole
    exact .accept (by rw [whole]) rfl
  · intro calls
    cases calls with
    | accept _ marker => rw [marker]
    | shift ahead => cases (Item.dotted_inj.mp ahead).2.2
    | reduce completed inner => exact absurd (Item.dotted_inj.mp completed).1.symm inner

omit here in
theorem mem_claims_completed (item : Valid g read lhs done [])
    (inner : lhs ≠ (Augmented.ofGrammar g).start) :
    Claim.action k s act ∈ (claimsOfItem follow k (stateAfter (.ofGrammar g) read) (automaton g)
        (.dotted lhs done [])).1 ↔
      Calls g follow (automaton g).states (stateAfter (.ofGrammar g) read) s
        (.dotted lhs done []) act := by
  obtain ⟨p, rule, rfl, whole⟩ := item.rule_of_ne_start inner
  obtain ⟨q, found⟩ := exists_productionOf d rule
  rw [whole, List.append_nil] at found
  rw [claimsOfItem_reduce (finished_automaton g) inner found, List.mem_map]
  constructor
  · rintro ⟨_, after, same⟩
    cases same
    exact .reduce rfl inner after (productionOf_eq_ok_iff.mp found)
  · intro calls
    cases calls with
    | accept whole => exact absurd (Item.dotted_inj.mp whole).1 inner
    | shift ahead => cases (Item.dotted_inj.mp ahead).2.2
    | reduce completed _ after found' =>
      obtain ⟨rfl, rfl, _⟩ := Item.dotted_inj.mp completed
      cases found.symm.trans (productionOf_eq_ok_iff.mpr found')
      exact ⟨s, after, rfl⟩

theorem mem_claims_reading {x : Symbol} {rest : List Symbol}
    (item : Valid g read lhs done (x :: rest)) (terminal : x ∈ g.terminals) :
    Claim.action k s act ∈ (claimsOfItem follow k (stateAfter (.ofGrammar g) read) (automaton g)
        (.dotted lhs done (x :: rest))).1 ↔
      Calls g follow (automaton g).states (stateAfter (.ofGrammar g) read) s
        (.dotted lhs done (x :: rest)) act := by
  have entered := (canonical_build d).transition k x
  rw [claimsOfItem_shift (finished_automaton g) d here terminal, List.mem_map]
  constructor
  · rintro ⟨target, move, same⟩
    cases same
    obtain ⟨j, items, number, there, _, entry⟩ := (entered target).mp (Option.mem_toList.mp move)
    obtain rfl : k = j := Int.ofNat.inj number
    obtain rfl := Option.some.inj (here.symm.trans there)
    exact .shift rfl (d.terminal_not_nonterminal terminal) entry
  · intro calls
    cases calls with
    | accept whole => cases (Item.dotted_inj.mp whole).2.2
    | reduce completed => cases (Item.dotted_inj.mp completed).2.2
    | @shift _ _ _ target ahead _ entry =>
      obtain ⟨rfl, _⟩ := List.cons.inj (Item.dotted_inj.mp ahead).2.2
      have moved := (mem_stateAfter d).mpr item.advance
      rw [stateAfter_concat] at moved
      have move := (entered target).mpr ⟨k, _, rfl, here, ⟨_, moved⟩, entry⟩
      exact ⟨target, Option.mem_toList.mpr move, rfl⟩

omit d here in
theorem not_calls_of_nonterminal {x : Symbol} {rest : List Symbol} (declared : x ∈ g.nonterminals) :
    ¬ Calls g follow (automaton g).states (stateAfter (.ofGrammar g) read) s
      (.dotted lhs done (x :: rest)) act := by
  intro calls
  cases calls with
  | accept whole => cases (Item.dotted_inj.mp whole).2.2
  | reduce completed => cases (Item.dotted_inj.mp completed).2.2
  | shift ahead plain =>
    obtain ⟨rfl, _⟩ := List.cons.inj (Item.dotted_inj.mp ahead).2.2
    exact plain declared

end Items

variable {k : Nat} {items : State} (here : (automaton g).states[k]? = some items)
include here

/-- The claims of an item for one cell are the actions that it calls for. -/
theorem mem_rivals_item {i : Item} (member : i ∈ items) :
    act ∈ (claimsOfItem follow k items (automaton g) i).1.filterMap (Claim.at? k s) ↔
      Calls g follow (automaton g).states items s i act := by
  have e := finished_automaton g
  obtain ⟨read, rfl⟩ := e.reached items (List.mem_of_getElem? here)
  obtain ⟨lhs, done, todo, rfl, item⟩ := valid_of_mem d member
  rw [mem_filterMap_at]
  cases todo with
  | nil =>
    by_cases outer : lhs = (Augmented.ofGrammar g).start
    · subst outer
      exact mem_claims_start d item
    · exact mem_claims_completed d item outer
  | cons x rest =>
    rcases item.mem_todo d List.mem_cons_self with terminal | declared
    · exact mem_claims_reading d here item terminal
    · rw [claimsOfItem_nonterminal e (Augmented.start_name_free (Or.inl declared)) declared]
      constructor
      · intro claim
        exact absurd claim List.not_mem_nil
      · intro calls
        exact absurd calls (not_calls_of_nonterminal declared)

omit here in
/-- Shifts of one state under one symbol lead to one state. -/
theorem eq_of_shifts {i j : Item} {target target' : Int}
    (calls : Calls g follow (automaton g).states items s i (.shift target))
    (calls' : Calls g follow (automaton g).states items s j (.shift target')) :
    target = target' := by
  cases calls with
  | shift _ _ entered =>
    cases calls' with
    | shift _ _ entered' =>
      have known := (List.getElem?_eq_some_iff.mp entered).1
      have same := (List.getElem?_inj known (canonical_build d).distinct).mp
        (entered.trans entered'.symm)
      rw [same]

omit here in
/-- An item calls for one action under a symbol at most. -/
theorem Calls.unique {i : Item} (calls : Calls g follow (automaton g).states items s i act)
    (calls' : Calls g follow (automaton g).states items s i other) : act = other := by
  have first := calls
  have second := calls'
  cases calls with
  | accept whole =>
    cases calls' with
    | accept => rfl
    | shift ahead => cases (Item.dotted_inj.mp (whole.symm.trans ahead)).2.2
    | reduce completed inner =>
      exact absurd (Item.dotted_inj.mp (whole.symm.trans completed)).1.symm inner
  | shift ahead =>
    cases calls' with
    | accept whole => cases (Item.dotted_inj.mp (ahead.symm.trans whole)).2.2
    | shift => exact congrArg Action.shift (eq_of_shifts d first second)
    | reduce completed => cases (Item.dotted_inj.mp (ahead.symm.trans completed)).2.2
  | reduce completed inner _ found =>
    cases calls' with
    | accept whole => exact absurd (Item.dotted_inj.mp (completed.symm.trans whole)).1 inner
    | shift ahead => cases (Item.dotted_inj.mp (completed.symm.trans ahead)).2.2
    | reduce completed' _ _ found' =>
      obtain ⟨rfl, rfl, _⟩ := Item.dotted_inj.mp (completed.symm.trans completed')
      rw [Option.some.inj (found.symm.trans found')]

theorem mem_rivals : act ∈ (claims follow (automaton g)).1.filterMap (fun c => c.1.at? k s) ↔
    CalledFor g follow (automaton g).states items s act := by
  rw [rivals_claims d (finished_automaton g) here, List.mem_flatMap]
  constructor
  · rintro ⟨i, member, claim⟩
    exact ⟨i, member, (mem_rivals_item d here member).mp claim⟩
  · rintro ⟨i, member, calls⟩
    exact ⟨i, member, (mem_rivals_item d here member).mpr calls⟩

theorem head_rivals :
    ((claims follow (automaton g)).1.filterMap fun c => c.1.at? k s).head? = some act ↔
      CalledFirst g follow (automaton g).states items s act := by
  rw [rivals_claims d (finished_automaton g) here]
  apply head?_flatMap_iff
  · intro i member act
    exact mem_rivals_item d here member
  · intro i _ act other calls calls'
    exact calls.unique d calls'

omit d here in
theorem accepting_of_calledFor
    (called : CalledFor g follow (automaton g).states items s .accept) : Accepting g items s := by
  obtain ⟨i, member, calls⟩ := called
  cases calls with
  | accept whole marker => exact ⟨marker, whole ▸ member⟩

theorem not_shift_of_accepting (accepting : Accepting g items s) {target : Int} :
    ¬ CalledFor g follow (automaton g).states items s (.shift target) := by
  rintro ⟨i, member, calls⟩
  obtain ⟨read, rfl⟩ := (finished_automaton g).reached items (List.mem_of_getElem? here)
  cases calls with
  | shift ahead plain =>
    have item := (mem_stateAfter d).mp (ahead ▸ member)
    have terminal := (item.mem_todo d List.mem_cons_self).resolve_right plain
    exact d.endMarker_not_terminal (accepting.1 ▸ terminal)

theorem unaccepted_of_called (called : CalledFor g follow (automaton g).states items s act)
    (called' : CalledFor g follow (automaton g).states items s other) (apart : act ≠ other)
    (keeps : act.prevails other = false) : act ≠ .accept := by
  rintro rfl
  have accepting := accepting_of_calledFor called
  cases other with
  | accept => exact apart rfl
  | shift target => exact not_shift_of_accepting d here accepting called'
  | reduce p => simp [Action.prevails, Action.isReduce] at keeps
  | reduceUnknown => simp [Action.prevails, Action.isReduce] at keeps

/-- Two actions that a state calls for and of which neither prevails are in conflict. -/
theorem genuine_of_called (called : CalledFor g follow (automaton g).states items s act)
    (called' : CalledFor g follow (automaton g).states items s other) (apart : act ≠ other)
    (keeps : act.prevails other = false) (stays : other.prevails act = false) :
    Genuine g follow (automaton g).states items ⟨k, s, act, other⟩ := by
  have unaccepted := unaccepted_of_called d here called called' apart keeps
  have unaccepted' := unaccepted_of_called d here called' called (Ne.symm apart) stays
  refine ⟨called, called', apart, ⟨unaccepted, unaccepted'⟩, ?_⟩
  obtain ⟨i, _, calls⟩ := called
  obtain ⟨j, _, calls'⟩ := called'
  have first := calls
  have second := calls'
  cases calls with
  | accept => exact absurd rfl unaccepted
  | shift =>
    cases calls' with
    | accept => exact absurd rfl unaccepted'
    | shift => exact absurd (congrArg Action.shift (eq_of_shifts d first second)) apart
    | reduce => exact Or.inr ⟨by simp [Action.isShift], rfl⟩
  | reduce =>
    cases calls' with
    | accept => exact absurd rfl unaccepted'
    | shift => exact Or.inr ⟨by simp [Action.isShift], rfl⟩
    | reduce => exact Or.inl ⟨rfl, rfl, rfl⟩

/-- Where nothing calls for acceptance, no action prevails. -/
theorem peaceful_of_unaccepted (unaccepted : ¬ Accepting g items s) :
    ∀ u ∈ (claims follow (automaton g)).1.filterMap (fun c => c.1.at? k s),
      ∀ v ∈ (claims follow (automaton g)).1.filterMap (fun c => c.1.at? k s),
        u.prevails v = false := by
  intro u member v _
  have plain : u ≠ .accept := by
    rintro rfl
    exact unaccepted (accepting_of_calledFor ((mem_rivals d here).mp member))
  simp [Action.prevails, plain]

end States

/-- What is reported about a cell is what its contest has refused. -/
theorem filterMap_conflicts (d : g.Declared) {cs : List Conflict}
    (listed : conflicts g follow = .ok cs) {n : Int} : cs.filterMap (Conflict.at? n s) =
      (((claims follow (automaton g)).1.filterMap
        fun c => c.1.at? n s).foldl (Contest.claim Action.prevails) free).refused := by
  obtain ⟨last, settled⟩ := @exists_settled_collect g follow d
  rw [conflicts, build_new, settled] at listed
  obtain rfl : last.conflicts = cs := Except.ok.inj listed
  have start : (started g follow .collect).contest n s = free := by
    simp [Builder.contest, started, Builder.new, free]
  rw [← start, ← foldlM_contest contest_settle settled]
  rfl

theorem mem_conflicts_iff_refused (d : g.Declared) {cs : List Conflict}
    (listed : conflicts g follow = .ok cs) {n : Int} : ⟨n, s, act, other⟩ ∈ cs ↔
      (act, other) ∈ (((claims follow (automaton g)).1.filterMap
        fun c => c.1.at? n s).foldl (Contest.claim Action.prevails) free).refused := by
  rw [← filterMap_conflicts d listed]
  simp only [List.mem_filterMap, Conflict.at?_eq_some_iff, exists_eq_right]

theorem genuine_of_mem (d : g.Declared) {cs : List Conflict}
    (listed : conflicts g follow = .ok cs) {c : Conflict} (member : c ∈ cs) :
    ∃ (k : Nat) (items : State), c.state = k ∧ (automaton g).states[k]? = some items ∧
      Genuine g follow (automaton g).states items c := by
  obtain ⟨n, s, act, other⟩ := c
  obtain ⟨rival, rival', apart, keeps, stays⟩ :=
    refused_sound ((mem_conflicts_iff_refused d listed).mp member)
  obtain ⟨⟨claim, m⟩, claimed, place⟩ := List.mem_filterMap.mp rival
  obtain rfl := Claim.at?_eq_some_iff.mp place
  obtain ⟨_, k, items, here, own⟩ := (mem_claims d (finished_automaton g) _).mp claimed
  obtain rfl : n = k := state_of_claim d (finished_automaton g) here own
  exact ⟨k, items, rfl, here, genuine_of_called d here ((mem_rivals d here).mp rival)
    ((mem_rivals d here).mp rival') apart keeps stays⟩

/-- Outside the cell of acceptance, each action but the first is reported against the first. -/
theorem mem_conflicts_iff_calledFirst (d : g.Declared) {cs : List Conflict}
    (listed : conflicts g follow = .ok cs) {k : Nat} {items : State}
    (here : (automaton g).states[k]? = some items) (unaccepted : ¬ Accepting g items s) :
    ⟨k, s, act, other⟩ ∈ cs ↔ CalledFirst g follow (automaton g).states items s act ∧
      CalledFor g follow (automaton g).states items s other ∧ other ≠ act := by
  rw [mem_conflicts_iff_refused d listed,
    mem_refused_iff (peaceful_of_unaccepted d here unaccepted), head_rivals d here,
    mem_rivals d here]

theorem reported_iff (d : g.Declared) {cs : List Conflict}
    (listed : conflicts g follow = .ok cs) {k : Nat} {items : State}
    (here : (automaton g).states[k]? = some items) (unaccepted : ¬ Accepting g items s) :
    (∃ act other, ⟨k, s, act, other⟩ ∈ cs) ↔
      ∃ act other, CalledFor g follow (automaton g).states items s act ∧
        CalledFor g follow (automaton g).states items s other ∧ act ≠ other := by
  constructor
  · rintro ⟨act, other, member⟩
    obtain ⟨rival, rival', apart, _⟩ :=
      refused_sound ((mem_conflicts_iff_refused d listed).mp member)
    exact ⟨act, other, (mem_rivals d here).mp rival, (mem_rivals d here).mp rival', apart⟩
  · rintro ⟨act, other, called, called', apart⟩
    have some := List.isSome_head?.mpr (List.ne_nil_of_mem ((mem_rivals d here).mpr called))
    obtain ⟨first, head⟩ := Option.isSome_iff_exists.mp some
    have calledFirst := (head_rivals d here).mp head
    -- at least one of the two is not the first
    by_cases same : act = first
    · subst same
      exact ⟨act, other, (mem_conflicts_iff_calledFirst d listed here unaccepted).mpr
        ⟨calledFirst, called', Ne.symm apart⟩⟩
    · exact ⟨first, act, (mem_conflicts_iff_calledFirst d listed here unaccepted).mpr
        ⟨calledFirst, called, same⟩⟩

/-- For any symbols said to follow, the conflicts come as a list. Each is one of two actions that
the items of one state call for under one symbol, and acceptance is neither. Outside the cell of
acceptance the list holds, for every action that is called for after another one, that action
against the first, so a cell is reported exactly if two actions are called for. -/
theorem reported_conflicts_exact (built : g.Built) (follow : SymbolSets) :
    ∃ cs, conflicts g follow = .ok cs ∧
      (∀ c ∈ cs, c.kind ≠ "shift/shift" ∧ ∃ (k : Nat) (items : State), c.state = k ∧
        (automaton g).states[k]? = some items ∧
        Genuine g follow (automaton g).states items c) ∧
      ∀ (k : Nat) (items : State), (automaton g).states[k]? = some items →
        ∀ s, ¬ Accepting g items s →
          (∀ act other, ⟨k, s, act, other⟩ ∈ cs ↔
            CalledFirst g follow (automaton g).states items s act ∧
              CalledFor g follow (automaton g).states items s other ∧ other ≠ act) ∧
          ((∃ act other, ⟨k, s, act, other⟩ ∈ cs) ↔
            ∃ act other, CalledFor g follow (automaton g).states items s act ∧
              CalledFor g follow (automaton g).states items s other ∧ act ≠ other) := by
  have d := Grammar.built_declared built
  obtain ⟨cs, listed, _⟩ := build_stopsAtHead d follow
  refine ⟨cs, listed, ?_, ?_⟩
  · intro c member
    obtain ⟨k, items, number, here, genuine⟩ := genuine_of_mem d listed member
    refine ⟨?_, k, items, number, here, genuine⟩
    rcases genuine.kind with ⟨_, _, kind⟩ | ⟨_, kind⟩
    · rw [kind]
      decide
    · rw [kind]
      decide
  · intro k items here s unaccepted
    exact ⟨fun _ _ => mem_conflicts_iff_calledFirst d listed here unaccepted,
      reported_iff d listed here unaccepted⟩

/-- Behind two strings a letter can be read on or the two be put together; the item before the
letter comes first. -/
theorem pairs_reported :
    let follow := (FirstFollow.ofGrammar pairs).follow
    let pair : Production := ⟨.nonterminal "S", [.nonterminal "S", .nonterminal "S"]⟩
    ∃ cs, conflicts pairs follow = .ok cs ∧
      (automaton pairs).states[4]? = some (stateAfter (.ofGrammar pairs) pair.rhs) ∧
      ⟨4, .terminal "a", .shift 1, .reduce pair⟩ ∈ cs := by
  intro follow pair
  obtain ⟨cs, listed, _, cells⟩ := reported_conflicts_exact pairs_built follow
  have here : (automaton pairs).states[4]? = some (stateAfter (.ofGrammar pairs) pair.rhs) := by
    decide +kernel
  have sorted : (stateAfter (.ofGrammar pairs) pair.rhs).toList =
      .dotted (.nonterminal "S") [] [.terminal "a"] ::
        (stateAfter (.ofGrammar pairs) pair.rhs).toList.tail := by
    decide +kernel
  have entered : (automaton pairs).states[1]? = some
      (goto (.ofGrammar pairs) (stateAfter (.ofGrammar pairs) pair.rhs).toList
        (.terminal "a")) := by
    decide +kernel
  have completed : Item.dotted (.nonterminal "S") [.nonterminal "S", .nonterminal "S"] [] ∈
      stateAfter (.ofGrammar pairs) pair.rhs := by
    decide +kernel
  have reads : CalledFirst pairs follow (automaton pairs).states
      (stateAfter (.ofGrammar pairs) pair.rhs) (.terminal "a") (.shift 1) :=
    ⟨[], _, _, sorted, .shift rfl (by decide +kernel) entered, by simp⟩
  have joins : CalledFor pairs follow (automaton pairs).states
      (stateAfter (.ofGrammar pairs) pair.rhs) (.terminal "a") (.reduce pair) :=
    ⟨_, completed, .reduce rfl (by decide +kernel) (by decide +kernel) (by decide +kernel)⟩
  have unaccepted : ¬ Accepting pairs (stateAfter (.ofGrammar pairs) pair.rhs)
      (.terminal "a") := by
    intro accepting
    cases accepting.1
  refine ⟨cs, listed, here, ?_⟩
  exact ((cells 4 _ here _ unaccepted).1 _ _).mpr ⟨reads, joins, by simp⟩

end TableParsing.ShiftReduce
