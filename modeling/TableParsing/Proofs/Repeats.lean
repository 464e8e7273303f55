import Mathlib.Algebra.Group.Nat.Units
import Mathlib.Data.List.Nodup
import TableParsing.Proofs.Predictive.Tables
import TableParsing.Proofs.ShiftReduce.Reports

/- How often a conflict is reported. A claim that is refused is refused as often as it is made, so a
   conflict comes once for every time that its second production or action claims the cell. A
   production claims a cell twice if it does so through FIRST and through FOLLOW, and a shift claims a
   cell once for every item of the state that waits for the symbol. -/
namespace TableParsing

theorem count_flatMap_own {α : Type} [DecidableEq α] {xs : List α} {f : α → List α} {v : α}
    (own : ∀ x ∈ xs, v ∈ f x → v = x) : (xs.flatMap f).count v = xs.count v * (f v).count v := by
  induction xs with
  | nil => simp
  | cons x rest ih =>
    obtain ⟨here, later⟩ := List.forall_mem_cons.mp own
    rw [List.flatMap_cons, List.count_append, ih later]
    by_cases same : x = v
    · subst same
      rw [List.count_cons_self, Nat.succ_mul, Nat.add_comm]
    · have absent : v ∉ f x := fun member => same (here member).symm
      rw [List.count_eq_zero.mpr absent, List.count_cons_of_ne same, Nat.zero_add]

theorem count_flatMap_of_nodup {α β : Type} [DecidableEq β] {xs : List α} {f : α → List β} {v : β}
    (distinct : ∀ x ∈ xs, (f x).Nodup) : (xs.flatMap f).count v = xs.countP fun x => v ∈ f x := by
  induction xs with
  | nil => rfl
  | cons x rest ih =>
    obtain ⟨here, later⟩ := List.forall_mem_cons.mp distinct
    rw [List.flatMap_cons, List.count_append, ih later, List.countP_cons, here.count,
      Nat.add_comm]
    simp

theorem count_filterMap_of_iff {α β : Type} [BEq α] [LawfulBEq α] [BEq β] [LawfulBEq β]
    {xs : List α} {f : α → Option β} {x : α} {v : β} (own : ∀ z, f z = some v ↔ z = x) :
    (xs.filterMap f).count v = xs.count x := by
  rw [List.count_filterMap, List.count_eq_countP]
  refine List.countP_congr fun z _ => ?_
  rw [beq_iff_eq, beq_iff_eq, own]

namespace Predictive
open Contest

variable {g : Grammar} {ff : FirstFollow} {p q : Production} {s a : Symbol}

/-- A production claims a cell because its alternative can begin with the lookahead. -/
def ThroughFirst (g : Grammar) (ff : FirstFollow) (p : Production) (a : Symbol) : Prop :=
  a ∈ firstOf g ff.first p.rhs ∧ a ≠ Symbol.epsilon

/-- A production claims a cell because its alternative can vanish before the lookahead. -/
def ThroughFollow (g : Grammar) (ff : FirstFollow) (p : Production) (a : Symbol) : Prop :=
  Symbol.epsilon ∈ firstOf g ff.first p.rhs ∧ a ∈ ff.follow.getD p.lhs ∅

instance : Decidable (ThroughFirst g ff p a) := inferInstanceAs (Decidable (_ ∧ _))
instance : Decidable (ThroughFollow g ff p a) := inferInstanceAs (Decidable (_ ∧ _))

/-- In how many ways a production claims a cell. -/
def ways (g : Grammar) (ff : FirstFollow) (p : Production) (a : Symbol) : Nat :=
  (if ThroughFirst g ff p a then 1 else 0) + if ThroughFollow g ff p a then 1 else 0

theorem ways_eq_one_iff (predicts : Predicts g ff p a) :
    ways g ff p a = 1 ↔ ¬ (ThroughFirst g ff p a ∧ ThroughFollow g ff p a) := by
  have claimed : ThroughFirst g ff p a ∨ ThroughFollow g ff p a := predicts
  unfold ways
  by_cases first : ThroughFirst g ff p a
  · by_cases follow : ThroughFollow g ff p a <;> simp [first, follow]
  · simp [first, claimed.resolve_left first]

theorem count_own_cells (xs : SymbolSet) :
    ((xs.toList.map (Claim.cell p)).filterMap (Claim.at? p.lhs a)).count p =
      if a ∈ xs then 1 else 0 := by
  have own : ∀ b, (Claim.at? p.lhs a ∘ Claim.cell p) b = some p ↔ b = a := by
    intro b
    simp [Claim.at?]
  rw [List.filterMap_map, count_filterMap_of_iff own, xs.nodup.count]
  rfl

theorem count_own_rivals (p : Production) (a : Symbol) :
    ((claimsOf g ff p).filterMap (Claim.at? p.lhs a)).count p = ways g ff p a := by
  unfold claimsOf ways
  dsimp only
  rw [List.filterMap_append, List.count_append, count_own_cells]
  congr 1
  · simp [ThroughFirst, and_comm]
  · by_cases vanishes : Symbol.epsilon ∈ firstOf g ff.first p.rhs
    · rw [if_pos vanishes]
      cases found : ff.follow.get? p.lhs with
      | none =>
        have nowhere : ¬ ThroughFollow g ff p a := by
          simp [ThroughFollow, OrderedMap.getD, found]
        rw [if_neg nowhere]
        rfl
      | some after =>
        have there : ThroughFollow g ff p a ↔ a ∈ after := by
          simp [ThroughFollow, OrderedMap.getD, found, vanishes]
        simp only [count_own_cells, there]
    · rw [if_neg vanishes, if_neg fun through => vanishes through.1]
      rfl

/-- A production claims a cell once in each way for every time that it is listed. -/
theorem count_rivals (row : p.lhs = s) :
    (rivals g ff s a).count p = g.productions.count p * ways g ff p a := by
  have own : ∀ r ∈ g.productions,
      p ∈ (claimsOf g ff r).filterMap (Claim.at? s a) → p = r :=
    fun _ _ member => (mem_own_rivals.mp member).1
  subst row
  rw [rivals, claims, List.filterMap_flatMap, count_flatMap_own own, count_own_rivals]

theorem count_conflict {cs : List Conflict} (listed : conflicts g ff = .ok cs) {c : Conflict}
    (member : c ∈ cs) : cs.count c = g.productions.count c.new * ways g ff c.new c.lookahead := by
  obtain ⟨s, a, p, q⟩ := c
  obtain ⟨_, claims, _⟩ := (mem_conflicts_iff listed).mp member
  have own : ∀ c : Conflict, c.at? s a = some (p, q) ↔ c = ⟨s, a, p, q⟩ :=
    fun _ => Conflict.at?_eq_some_iff
  have refused : (p, q) ∈ cs.filterMap (Conflict.at? s a) :=
    List.mem_filterMap.mpr ⟨_, member, (own _).mpr rfl⟩
  have peaceful : ∀ u ∈ rivals g ff s a, ∀ v ∈ rivals g ff s a, never u v = false :=
    fun _ _ _ _ => rfl
  rw [← count_filterMap_of_iff own]
  rw [filterMap_conflicts listed] at refused ⊢
  rw [count_refused peaceful refused, count_rivals claims.row]

theorem nodup_conflicts_iff {cs : List Conflict} (listed : conflicts g ff = .ok cs) :
    cs.Nodup ↔ ∀ c ∈ cs, g.productions.count c.new = 1 ∧
      ¬ (ThroughFirst g ff c.new c.lookahead ∧ ThroughFollow g ff c.new c.lookahead) := by
  rw [List.nodup_iff_count_eq_one]
  refine forall₂_congr fun c member => ?_
  obtain ⟨_, claims, _⟩ := (mem_conflicts_iff listed).mp member
  rw [count_conflict listed member, mul_eq_one, ways_eq_one_iff claims.predicts]

end Predictive

namespace ShiftReduce
open Automaton Contest

variable {g : Grammar} {follow : SymbolSets} {s : Symbol} {act other : Action}

/-- The number of items of a state that wait for a symbol. -/
def waiting (items : State) (s : Symbol) : Nat := items.toList.countP (·.next? = some s)

section Items

variable (d : g.Declared) {k : Nat} {items : State}
  (here : (automaton g).states[k]? = some items)
include d here

theorem nodup_claimsOfItem {i : Item} (member : i ∈ items) :
    (claimsOfItem follow k items (automaton g) i).1.Nodup := by
  have e := finished_automaton g
  obtain ⟨read, rfl⟩ := e.reached items (List.mem_of_getElem? here)
  obtain ⟨lhs, done, todo, rfl, item⟩ := valid_of_mem d member
  cases todo with
  | nil =>
    by_cases outer : lhs = (Augmented.ofGrammar g).start
    · rw [outer, claimsOfItem_accept e]
      exact List.nodup_singleton _
    · obtain ⟨p, rule, rfl, whole⟩ := item.rule_of_ne_start outer
      obtain ⟨q, found⟩ := exists_productionOf d rule
      rw [whole, List.append_nil] at found
      rw [claimsOfItem_reduce e outer found]
      exact (SortedSet.nodup _).map fun _ _ same => (Claim.action.inj same).2.1
  | cons x rest =>
    rcases item.mem_todo d List.mem_cons_self with terminal | declared
    · rw [claimsOfItem_shift e d here terminal]
      cases (automaton g).transitions.get? ((k : Int), x) with
      | none => exact List.nodup_nil
      | some target => exact List.nodup_singleton _
    · rw [claimsOfItem_nonterminal e (Augmented.start_name_free (Or.inl declared)) declared]
      exact List.nodup_nil

/-- An action is claimed once for every item that calls for it. -/
theorem count_rivals {calls : Item → Bool}
    (own : ∀ i ∈ items, Calls g follow (automaton g).states items s i act ↔ calls i = true) :
    ((claims follow (automaton g)).1.filterMap fun c => c.1.at? k s).count act =
      items.toList.countP calls := by
  have single : ∀ c c' : Claim, ∀ a, a ∈ c.at? k s → a ∈ c'.at? k s → c = c' := by
    intro c c' a first second
    rw [Claim.at?_eq_some_iff.mp first, Claim.at?_eq_some_iff.mp second]
  have distinct : ∀ i ∈ items.toList,
      ((claimsOfItem follow k items (automaton g) i).1.filterMap (Claim.at? k s)).Nodup :=
    fun i member => (nodup_claimsOfItem d here member).filterMap single
  rw [rivals_claims d (finished_automaton g) here, count_flatMap_of_nodup distinct]
  refine List.countP_congr fun i member => ?_
  rw [decide_eq_true_eq, mem_rivals_item d here member]
  exact own i member

theorem count_shift {target : Int}
    (called : CalledFor g follow (automaton g).states items s (.shift target)) :
    ((claims follow (automaton g)).1.filterMap fun c => c.1.at? k s).count (.shift target) =
      waiting items s := by
  refine count_rivals d here fun i member => ?_
  rw [decide_eq_true_eq]
  constructor
  · intro calls
    cases calls with
    | shift ahead =>
      rw [ahead]
      exact Item.next?_dotted_cons
  · intro waits
    obtain ⟨_, _, calls⟩ := called
    obtain ⟨read, rfl⟩ := (finished_automaton g).reached items (List.mem_of_getElem? here)
    obtain ⟨lhs, done, todo, rfl, _⟩ := valid_of_mem d member
    cases todo with
    | nil =>
      rw [Item.next?_dotted_nil] at waits
      cases waits
    | cons x rest =>
      rw [Item.next?_dotted_cons] at waits
      cases waits
      cases calls with
      | shift _ plain entered => exact .shift rfl plain entered

theorem count_reduce {p : Production}
    (called : CalledFor g follow (automaton g).states items s (.reduce p)) :
    ((claims follow (automaton g)).1.filterMap fun c => c.1.at? k s).count (.reduce p) = 1 := by
  -- only one item is the completed body of the production
  have completed : ∀ i, Calls g follow (automaton g).states items s i (.reduce p) →
      i = .dotted p.lhs p.body [] := by
    intro i calls
    cases calls with
    | reduce whole _ _ found =>
      obtain ⟨_, left, body⟩ := productionOf_eq_ok d (productionOf_eq_ok_iff.mpr found)
      rw [whole, left, body]
  obtain ⟨i, member, calls⟩ := called
  have own : ∀ j ∈ items, Calls g follow (automaton g).states items s j (.reduce p) ↔
      (j == i) = true := by
    intro j _
    rw [beq_iff_eq]
    constructor
    · intro calls'
      rw [completed i calls, completed j calls']
    · rintro rfl
      exact calls
  rw [count_rivals d here own, ← List.count_eq_countP]
  exact List.count_eq_one_of_mem items.nodup member

theorem count_called (called : CalledFor g follow (automaton g).states items s act)
    (plain : act ≠ .accept) :
    ((claims follow (automaton g)).1.filterMap fun c => c.1.at? k s).count act =
      if act.isShift then waiting items s else 1 := by
  obtain ⟨i, member, calls⟩ := called
  cases act with
  | shift => exact count_shift d here ⟨i, member, calls⟩
  | reduce => exact count_reduce d here ⟨i, member, calls⟩
  | reduceUnknown => cases calls
  | accept => exact absurd rfl plain

theorem count_refused_called (called : CalledFor g follow (automaton g).states items s other)
    (plain : other ≠ .accept)
    (noted : (act, other) ∈ (((claims follow (automaton g)).1.filterMap
      fun c => c.1.at? k s).foldl (Contest.claim Action.prevails) free).refused) :
    (((claims follow (automaton g)).1.filterMap
      fun c => c.1.at? k s).foldl (Contest.claim Action.prevails) free).refused.count (act, other) =
        if other.isShift then waiting items s else 1 := by
  have made := count_called d here called plain
  by_cases accepting : Accepting g items s
  · -- acceptance may come in between, but only reductions are claimed there, each of them once
    have still : other.isShift = false := by
      cases other with
      | shift => exact absurd called (not_shift_of_accepting d here accepting)
      | _ => rfl
    rw [still, if_neg Bool.false_ne_true] at made ⊢
    have most := (count_refused_le Action.prevails _ act other).trans (Nat.le_of_eq made)
    exact Nat.le_antisymm most (List.count_pos_iff.mpr noted)
  · exact (count_refused (peaceful_of_unaccepted d here accepting) noted).trans made

end Items

theorem count_conflict (d : g.Declared) {cs : List Conflict} (listed : conflicts g follow = .ok cs)
    {c : Conflict} (member : c ∈ cs) {k : Nat} {items : State} (number : c.state = k)
    (here : (automaton g).states[k]? = some items) :
    cs.count c = if c.new.isShift then waiting items c.symbol else 1 := by
  obtain ⟨n, s, act, other⟩ := c
  obtain rfl : n = k := number
  obtain ⟨k', items', number', here', genuine⟩ := genuine_of_mem d listed member
  obtain rfl : k = k' := Int.ofNat.inj number'
  obtain rfl := Option.some.inj (here.symm.trans here')
  have own : ∀ c : Conflict, c.at? k s = some (act, other) ↔ c = ⟨k, s, act, other⟩ :=
    fun _ => Conflict.at?_eq_some_iff
  have noted := (mem_conflicts_iff_refused d listed).mp member
  rw [← count_filterMap_of_iff own, filterMap_conflicts d listed]
  exact count_refused_called d here genuine.new genuine.unaccepted.2 noted

theorem nodup_conflicts_iff (d : g.Declared) {cs : List Conflict}
    (listed : conflicts g follow = .ok cs) : cs.Nodup ↔
      ∀ c ∈ cs, c.new.isShift = true → ∀ (k : Nat) (items : State), c.state = k →
        (automaton g).states[k]? = some items → waiting items c.symbol = 1 := by
  rw [List.nodup_iff_count_eq_one]
  refine forall₂_congr fun c member => ?_
  obtain ⟨k, items, number, here, _⟩ := genuine_of_mem d listed member
  rw [count_conflict d listed member number here]
  constructor
  · intro once shifts k' items' number' here'
    rw [← count_conflict d listed member number here,
      count_conflict d listed member number' here', if_pos shifts] at once
    exact once
  · intro once
    split
    · rename_i shifts
      exact once shifts k items number here
    · rfl

end ShiftReduce

/-- How often the full enumerations report a conflict: for a predictive table, once for each time that
the second production is listed and each way in which it claims the cell; for shift-reduce tables, once
if the second action is a reduction, and otherwise once for each item that waits for the symbol. So a
list is without repetition exactly if each second claim that it reports is made once. -/
theorem repeated_reports {g : Grammar} (built : g.Built) :
    let ff := FirstFollow.ofGrammar g
    (∃ cs, Predictive.conflicts g ff = .ok cs ∧
      (∀ c ∈ cs, cs.count c =
        g.productions.count c.new * Predictive.ways g ff c.new c.lookahead) ∧
      (cs.Nodup ↔ ∀ c ∈ cs, g.productions.count c.new = 1 ∧
        ¬ (Predictive.ThroughFirst g ff c.new c.lookahead ∧
          Predictive.ThroughFollow g ff c.new c.lookahead))) ∧
    ∃ cs, ShiftReduce.conflicts g ff.follow = .ok cs ∧
      (∀ c ∈ cs, ∃ (k : Nat) (items : State), c.state = k ∧
        (ShiftReduce.automaton g).states[k]? = some items ∧
        cs.count c = if c.new.isShift then ShiftReduce.waiting items c.symbol else 1) ∧
      (cs.Nodup ↔ ∀ c ∈ cs, c.new.isShift = true → ∀ (k : Nat) (items : State), c.state = k →
        (ShiftReduce.automaton g).states[k]? = some items →
        ShiftReduce.waiting items c.symbol = 1) := by
  intro ff
  have d := Grammar.built_declared built
  obtain ⟨cs, listed, _⟩ :=
    Predictive.build_stopsAtHead_of_known d (Predictive.followKnown_ofGrammar d)
  obtain ⟨cs', listed', _⟩ := ShiftReduce.build_stopsAtHead d ff.follow
  refine ⟨⟨cs, listed, fun c member => Predictive.count_conflict listed member,
    Predictive.nodup_conflicts_iff listed⟩, cs', listed', ?_,
    ShiftReduce.nodup_conflicts_iff d listed'⟩
  intro c member
  obtain ⟨k, items, number, here, _⟩ := ShiftReduce.genuine_of_mem d listed' member
  exact ⟨k, items, number, here, ShiftReduce.count_conflict d listed' member number here⟩

/-- The strings `t` and `tt`. The alternative `C` of `A` claims the cell of `t` in two ways: it can
begin with `t`, and it can vanish before one. -/
def doubled : Grammar :=
  (((Grammar.ofStart (.nonterminal "S")).define (.nonterminal "S")
      [[.nonterminal "A", .terminal "t"]]).define (.nonterminal "A")
      [[.terminal "t"], [.nonterminal "C"]]).define (.nonterminal "C") [[.terminal "t"], []]

/-- Behind `a` a reduction and two items that wait for `c` claim one cell, the reduction first. -/
def shared : Grammar :=
  (((Grammar.ofStart (.nonterminal "S")).define (.nonterminal "S")
      [[.nonterminal "A", .terminal "c"], [.nonterminal "B"]]).define (.nonterminal "A")
      [[.terminal "a"]]).define (.nonterminal "B")
      [[.terminal "a", .terminal "c"], [.terminal "a", .terminal "c", .terminal "d"]]

theorem doubled_built : doubled.Built :=
  Grammar.built_define (Grammar.built_define (Grammar.built_define (Grammar.built_ofStart rfl) rfl
    (by decide)) rfl (by decide)) rfl (by decide)

theorem doubled_reports : ∃ cs,
    Predictive.conflicts doubled (FirstFollow.ofGrammar doubled) = .ok cs ∧
      cs.count ⟨.nonterminal "A", .terminal "t", ⟨.nonterminal "A", [.terminal "t"]⟩,
        ⟨.nonterminal "A", [.nonterminal "C"]⟩⟩ = 2 := by
  obtain ⟨⟨cs, listed, counts, _⟩, _⟩ := repeated_reports doubled_built
  have reported : (Predictive.conflicts doubled (FirstFollow.ofGrammar doubled)).toOption.any
      (fun cs => ⟨.nonterminal "A", .terminal "t", ⟨.nonterminal "A", [.terminal "t"]⟩,
        ⟨.nonterminal "A", [.nonterminal "C"]⟩⟩ ∈ cs) = true := by
    decide +kernel
  rw [listed] at reported
  have twice : doubled.productions.count ⟨.nonterminal "A", [.nonterminal "C"]⟩ *
      Predictive.ways doubled (FirstFollow.ofGrammar doubled)
        ⟨.nonterminal "A", [.nonterminal "C"]⟩ (.terminal "t") = 2 := by
    decide +kernel
  exact ⟨cs, listed, (counts _ (of_decide_eq_true reported)).trans twice⟩

/-- Neither enumeration is without repetition. -/
theorem reports_repeated :
    (∃ cs, Predictive.conflicts doubled (FirstFollow.ofGrammar doubled) = .ok cs ∧ ¬ cs.Nodup) ∧
      ∃ cs, ShiftReduce.conflicts shared (FirstFollow.ofGrammar shared).follow = .ok cs ∧
        ¬ cs.Nodup := by
  have predictive : (Predictive.conflicts doubled (FirstFollow.ofGrammar doubled)).toOption.any
      (fun cs => ¬ cs.Nodup) = true := by
    decide +kernel
  have shiftReduce : (ShiftReduce.conflicts shared (FirstFollow.ofGrammar shared).follow).toOption.any
      (fun cs => ¬ cs.Nodup) = true := by
    decide +kernel
  obtain ⟨cs, listed, repeats⟩ := exists_ok_of_any predictive
  obtain ⟨cs', listed', repeats'⟩ := exists_ok_of_any shiftReduce
  exact ⟨⟨cs, listed, of_decide_eq_true repeats⟩, cs', listed', of_decide_eq_true repeats'⟩

end TableParsing
