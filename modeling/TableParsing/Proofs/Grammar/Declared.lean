import TableParsing.Grammar.Augmented
import TableParsing.Proofs.Data.Collections

/- What holds of every grammar that comes from a start symbol by adding rules: which symbols are
   declared, where the reserved symbols cannot stand, and what a look-up of productions finds. -/
namespace TableParsing

namespace Grammar

/-- The grammars that come from a start symbol by adding rules. An attempt that fails leaves the
grammar as it was, so it needs no case. -/
inductive Built : Grammar → Prop where
  | new {start : Symbol} {g : Grammar} (made : Grammar.new start = .ok g) : Built g
  | add {g h : Grammar} {lhs : Symbol} {alts : List (List Symbol)} (before : Built g)
      (added : g.add lhs alts = .ok h) : Built h

/-- The declared symbols are in step with the rules. -/
structure Declared (g : Grammar) : Prop where
  start_mem : g.start ∈ g.nonterminals
  key_mem : ∀ e ∈ g.rules.entries, e.1 ∈ g.nonterminals
  lhs_eq : ∀ e ∈ g.rules.entries, ∀ p ∈ e.2, p.lhs = e.1
  kind : ∀ s ∈ g.nonterminals, s.kind = .nonterminal
  named : ∀ p ∈ g.productions, ∀ s ∈ p.rhs, s.kind = .nonterminal → s ∈ g.nonterminals
  unmarked : ∀ p ∈ g.productions, Symbol.endMarker ∉ p.rhs
  mem_terminals : ∀ s, s ∈ g.terminals ↔
    (∃ p ∈ g.productions, s ∈ p.rhs) ∧ s ≠ Symbol.epsilon ∧ s ∉ g.nonterminals

theorem mem_productions {g : Grammar} {p : Production} :
    p ∈ g.productions ↔ ∃ e ∈ g.rules.entries, p ∈ e.2 := by
  simp only [productions, OrderedMap.values, List.mem_flatten, List.mem_map]
  constructor
  · rintro ⟨_, ⟨e, he, rfl⟩, hp⟩
    exact ⟨e, he, hp⟩
  · rintro ⟨e, he, hp⟩
    exact ⟨e.2, ⟨e, he, rfl⟩, hp⟩

theorem mem_rightSymbols {rules : OrderedMap Symbol (List Production)} {s : Symbol} :
    s ∈ rightSymbols rules ↔ ∃ e ∈ rules.entries, ∃ p ∈ e.2, s ∈ p.rhs := by
  simp only [rightSymbols, OrderedMap.values, List.mem_flatMap, List.mem_map]
  constructor
  · rintro ⟨_, ⟨e, he, rfl⟩, p, hp, hs⟩
    exact ⟨e, he, p, hp, hs⟩
  · rintro ⟨e, he, p, hp, hs⟩
    exact ⟨e.2, ⟨e, he, rfl⟩, p, hp, hs⟩

theorem mem_productionsOf {lhs : Symbol} {alts : List (List Symbol)} {p : Production} :
    p ∈ productionsOf lhs alts ↔ ∃ alt ∈ alts, p = ⟨lhs, storedAlternative alt⟩ := by
  simp only [productionsOf, List.mem_map, eq_comm]

theorem define_congr {lhs : Symbol} {alts alts' : List (List Symbol)}
    (same : productionsOf lhs alts = productionsOf lhs alts') (g : Grammar) :
    g.define lhs alts = g.define lhs alts' := by
  simp only [define, same]

theorem storedAlternative_ne_nil (alt : List Symbol) : storedAlternative alt ≠ [] := by
  unfold storedAlternative
  split
  · exact List.cons_ne_nil _ _
  · rename_i filled
    exact fun empty => filled (List.isEmpty_iff.mpr empty)

theorem storedAlternative_of_ne_nil {alt : List Symbol} (filled : alt ≠ []) :
    storedAlternative alt = alt :=
  if_neg fun empty => filled (List.isEmpty_iff.mp empty)

theorem mem_storedAlternative {alt : List Symbol} {s : Symbol}
    (member : s ∈ storedAlternative alt) : s = Symbol.epsilon ∨ s ∈ alt := by
  unfold storedAlternative at member
  split at member
  · exact Or.inl (List.mem_singleton.mp member)
  · exact Or.inr member

theorem mem_productions_define {g : Grammar} {lhs : Symbol} {alts : List (List Symbol)}
    {p : Production} : p ∈ (g.define lhs alts).productions ↔
      p ∈ productionsOf lhs alts ∨ ∃ e ∈ g.rules.entries, e.1 ≠ lhs ∧ p ∈ e.2 := by
  rw [mem_productions]
  constructor
  · rintro ⟨e, he, hp⟩
    rcases (OrderedMap.mem_entries_put e).mp he with rfl | ⟨old, apart⟩
    · exact Or.inl hp
    · exact Or.inr ⟨e, old, apart, hp⟩
  · rintro (hp | ⟨e, old, apart, hp⟩)
    · exact ⟨_, (OrderedMap.mem_entries_put _).mpr (Or.inl rfl), hp⟩
    · exact ⟨e, (OrderedMap.mem_entries_put e).mpr (Or.inr ⟨old, apart⟩), hp⟩

theorem mem_nonterminals_define {g : Grammar} {lhs : Symbol} {alts : List (List Symbol)}
    {s : Symbol} : s ∈ (g.define lhs alts).nonterminals ↔
      s = lhs ∨ s ∈ g.nonterminals ∨
        (s.kind = .nonterminal ∧ ∃ p ∈ productionsOf lhs alts, s ∈ p.rhs) := by
  simp only [define, SortedSet.mem_foldl_insert, SortedSet.mem_insert, List.mem_filter,
    List.mem_flatMap, decide_eq_true_eq, or_assoc, and_comm]

theorem mem_terminals_define {g : Grammar} {lhs : Symbol} {alts : List (List Symbol)}
    {s : Symbol} : s ∈ (g.define lhs alts).terminals ↔
      (∃ p ∈ (g.define lhs alts).productions, s ∈ p.rhs) ∧ s ≠ Symbol.epsilon ∧
        s ∉ (g.define lhs alts).nonterminals := by
  simp only [mem_productions]
  change s ∈ SortedSet.diff (SortedSet.ofList ((rightSymbols (g.define lhs alts).rules).filter
    (· ≠ Symbol.epsilon))) (g.define lhs alts).nonterminals ↔ _
  rw [SortedSet.mem_diff, SortedSet.mem_ofList, List.mem_filter, mem_rightSymbols,
    decide_eq_true_eq, and_assoc]
  constructor
  · rintro ⟨⟨e, he, p, hp, hs⟩, rest⟩
    exact ⟨⟨p, ⟨e, he, hp⟩, hs⟩, rest⟩
  · rintro ⟨⟨p, ⟨e, he, hp⟩, hs⟩, rest⟩
    exact ⟨⟨e, he, p, hp, hs⟩, rest⟩

theorem declared_ofStart {start : Symbol} (kind : start.kind = .nonterminal) :
    Declared (ofStart start) where
  start_mem := by simp [ofStart]
  key_mem := by
    intro e he
    exact absurd he List.not_mem_nil
  lhs_eq := by
    intro e he
    exact absurd he List.not_mem_nil
  kind := by
    intro s hs
    simp only [ofStart, SortedSet.mem_ofList, List.mem_singleton] at hs
    exact hs ▸ kind
  named := by
    intro p hp
    exact absurd hp List.not_mem_nil
  unmarked := by
    intro p hp
    exact absurd hp List.not_mem_nil
  mem_terminals := by
    intro s
    constructor
    · intro hs
      exact absurd hs SortedSet.not_mem_empty
    · rintro ⟨⟨p, hp, _⟩, _⟩
      exact absurd hp List.not_mem_nil

theorem declared_define {g : Grammar} (d : Declared g) {lhs : Symbol}
    {alts : List (List Symbol)} (kind : lhs.kind = .nonterminal)
    (clean : ∀ alt ∈ alts, Symbol.endMarker ∉ alt) : Declared (g.define lhs alts) where
  start_mem := mem_nonterminals_define.mpr (Or.inr (Or.inl d.start_mem))
  key_mem := by
    intro e he
    rcases (OrderedMap.mem_entries_put e).mp he with rfl | ⟨old, _⟩
    · exact mem_nonterminals_define.mpr (Or.inl rfl)
    · exact mem_nonterminals_define.mpr (Or.inr (Or.inl (d.key_mem e old)))
  lhs_eq := by
    intro e he p hp
    rcases (OrderedMap.mem_entries_put e).mp he with rfl | ⟨old, _⟩
    · obtain ⟨alt, _, rfl⟩ := mem_productionsOf.mp hp
      rfl
    · exact d.lhs_eq e old p hp
  kind := by
    intro s hs
    rcases mem_nonterminals_define.mp hs with rfl | old | ⟨new, _⟩
    · exact kind
    · exact d.kind s old
    · exact new
  named := by
    intro p hp s hs named
    rcases mem_productions_define.mp hp with new | ⟨e, old, _, hp⟩
    · exact mem_nonterminals_define.mpr (Or.inr (Or.inr ⟨named, p, new, hs⟩))
    · have before := d.named p (mem_productions.mpr ⟨e, old, hp⟩) s hs named
      exact mem_nonterminals_define.mpr (Or.inr (Or.inl before))
  unmarked := by
    intro p hp
    rcases mem_productions_define.mp hp with new | ⟨e, old, _, hp⟩
    · obtain ⟨alt, member, rfl⟩ := mem_productionsOf.mp new
      simp only [storedAlternative]
      split
      · decide
      · exact clean alt member
    · exact d.unmarked p (mem_productions.mpr ⟨e, old, hp⟩)
  mem_terminals := fun _ => mem_terminals_define

theorem declared_foldl_define {β : Type} {lhs : β → Symbol} {alts : β → List (List Symbol)}
    {rs : List β} (kind : ∀ r ∈ rs, (lhs r).kind = .nonterminal)
    (clean : ∀ r ∈ rs, ∀ alt ∈ alts r, Symbol.endMarker ∉ alt) {g : Grammar} (d : Declared g) :
    Declared (rs.foldl (fun g r => g.define (lhs r) (alts r)) g) := by
  induction rs generalizing g with
  | nil => exact d
  | cons r rest ih =>
    obtain ⟨kind, kinds⟩ := List.forall_mem_cons.mp kind
    obtain ⟨clean, cleans⟩ := List.forall_mem_cons.mp clean
    exact ih kinds cleans (declared_define d kind clean)

theorem add_eq_ok {g h : Grammar} {lhs : Symbol} {alts : List (List Symbol)}
    (added : g.add lhs alts = .ok h) :
    lhs.kind = .nonterminal ∧ (∀ alt ∈ alts, Symbol.endMarker ∉ alt) ∧ h = g.define lhs alts := by
  unfold add at added
  split at added
  · cases added
  · rename_i kind
    split at added
    · cases added
    · rename_i clean
      refine ⟨Decidable.not_not.mp kind, ?_, (Except.ok.inj added).symm⟩
      intro alt member marked
      exact clean (List.any_eq_true.mpr ⟨alt, member, List.contains_iff_mem.mpr marked⟩)

theorem built_ofStart {start : Symbol} (kind : start.kind = .nonterminal) :
    (ofStart start).Built := .new (if_pos kind)

theorem built_define {g : Grammar} (before : g.Built) {lhs : Symbol}
    (kind : lhs.kind = .nonterminal) {alts : List (List Symbol)}
    (clean : ∀ alt ∈ alts, Symbol.endMarker ∉ alt) : (g.define lhs alts).Built := by
  have unmarked : ¬ alts.any (·.contains Symbol.endMarker) = true := by
    simpa using clean
  have added : g.add lhs alts = .ok (g.define lhs alts) := by
    unfold add
    rw [if_neg (Decidable.not_not.mpr kind), if_neg unmarked]
  exact .add before added

/-- Brackets `a` and `b` around brackets, with an epsilon marker inside the alternative. -/
def brackets : Grammar :=
  (ofStart (.nonterminal "S")).define (.nonterminal "S")
    [[.terminal "a", .epsilon, .nonterminal "S", .terminal "b"], []]

theorem brackets_built : brackets.Built :=
  built_define (built_ofStart rfl) rfl (by decide)

theorem built_declared {g : Grammar} (built : g.Built) : g.Declared := by
  induction built with
  | @new start g made =>
    unfold Grammar.new at made
    split at made
    · rename_i kind
      exact Except.ok.inj made ▸ declared_ofStart kind
    · cases made
  | add _ added ih =>
    obtain ⟨kind, clean, rfl⟩ := add_eq_ok added
    exact declared_define ih kind clean

namespace Declared

variable {g : Grammar} (d : g.Declared)
include d

theorem epsilon_not_nonterminal : Symbol.epsilon ∉ g.nonterminals := by
  intro h
  exact absurd (d.kind _ h) (by decide)

theorem nonterminal_ne_epsilon {s : Symbol} (h : s ∈ g.nonterminals) : s ≠ Symbol.epsilon := by
  intro eq
  exact d.epsilon_not_nonterminal (eq ▸ h)

theorem endMarker_not_nonterminal : Symbol.endMarker ∉ g.nonterminals := by
  intro h
  exact absurd (d.kind _ h) (by decide)

theorem endMarker_not_terminal : Symbol.endMarker ∉ g.terminals := by
  intro h
  obtain ⟨⟨p, hp, hs⟩, _⟩ := (d.mem_terminals _).mp h
  exact d.unmarked p hp hs

theorem terminal_not_nonterminal {s : Symbol} (h : s ∈ g.terminals) : s ∉ g.nonterminals :=
  ((d.mem_terminals s).mp h).2.2

theorem ne_epsilon {s : Symbol} (h : s ∈ g.terminals) : s ≠ Symbol.epsilon :=
  ((d.mem_terminals s).mp h).2.1

theorem ne_endMarker {s : Symbol} (h : s ∈ g.terminals) : s ≠ Symbol.endMarker := by
  intro eq
  exact d.endMarker_not_terminal (eq ▸ h)

theorem mem_productionsFor {lhs : Symbol} {p : Production} :
    p ∈ g.productionsFor lhs ↔ p ∈ g.productions ∧ p.lhs = lhs := by
  rw [mem_productions]
  unfold productionsFor OrderedMap.getD
  constructor
  · intro hp
    cases found : g.rules.get? lhs with
    | none => simp [found] at hp
    | some ps =>
      have entry := OrderedMap.get?_eq_some_iff.mp found
      have hp : p ∈ ps := by simpa [found] using hp
      exact ⟨⟨(lhs, ps), entry, hp⟩, d.lhs_eq _ entry p hp⟩
  · rintro ⟨⟨e, he, hp⟩, same⟩
    have key : e.1 = lhs := (d.lhs_eq e he p hp).symm.trans same
    have found : g.rules.get? lhs = some e.2 := OrderedMap.get?_eq_some_iff.mpr (key ▸ he)
    simpa [found] using hp

theorem lhs_mem {p : Production} (hp : p ∈ g.productions) : p.lhs ∈ g.nonterminals := by
  obtain ⟨e, he, hp⟩ := mem_productions.mp hp
  exact d.lhs_eq e he p hp ▸ d.key_mem e he

/-- A new rule leaves the productions of the other left-hand sides. -/
theorem mem_define {lhs : Symbol} {alts : List (List Symbol)} {p : Production} :
    p ∈ (g.define lhs alts).productions ↔
      p ∈ productionsOf lhs alts ∨ p ∈ g.productions ∧ p.lhs ≠ lhs := by
  rw [mem_productions_define, mem_productions]
  refine or_congr_right ⟨?_, ?_⟩
  · rintro ⟨e, entry, apart, member⟩
    exact ⟨⟨e, entry, member⟩, d.lhs_eq e entry p member ▸ apart⟩
  · rintro ⟨⟨e, entry, member⟩, apart⟩
    exact ⟨e, entry, d.lhs_eq e entry p member ▸ apart, member⟩

theorem mem_rhs {p : Production} (hp : p ∈ g.productions) {s : Symbol} (hs : s ∈ p.rhs)
    (ne : s ≠ Symbol.epsilon) : s ∈ g.terminals ∨ s ∈ g.nonterminals := by
  by_cases hn : s ∈ g.nonterminals
  · exact Or.inr hn
  · exact Or.inl ((d.mem_terminals s).mpr ⟨⟨p, hp, hs⟩, ne, hn⟩)

theorem mem_body {p : Production} (hp : p ∈ g.productions) {s : Symbol} (hs : s ∈ p.body) :
    s ∈ g.terminals ∨ s ∈ g.nonterminals := by
  obtain ⟨hs, ne⟩ := List.mem_filter.mp hs
  exact d.mem_rhs hp hs (of_decide_eq_true ne)

end Declared
end Grammar
end TableParsing
