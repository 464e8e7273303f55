import TableParsing.Proofs.Caching

/- A grammar on the workbench while rules are added to it, some of which are refused. A refused rule
   leaves the workbench as it was; after every other one the declared symbols are in step with the
   rules again. -/
namespace TableParsing

namespace Grammar

/-- The declared symbols are in step with the rules, and each symbol of a rule is of one kind. -/
structure Consistent (g : Grammar) : Prop extends Declared g where
  filled : ∀ p ∈ g.productions, p.rhs ≠ []
  disjoint : ∀ s ∈ g.terminals, s ∉ g.nonterminals
  unreserved : ∀ s ∈ [Symbol.epsilon, Symbol.endMarker], s ∉ g.terminals ∧ s ∉ g.nonterminals
  classified : ∀ p ∈ g.productions, ∀ s ∈ p.rhs,
    g.classify s = .epsilon ∧ s = Symbol.epsilon ∨ g.classify s = .nonterminal ∧ s ∈ g.nonterminals ∨
      g.classify s = .terminal ∧ s ∈ g.terminals

/-- A rule that a grammar takes. -/
def Acceptable (lhs : Symbol) (alts : List (List Symbol)) : Prop :=
  lhs.kind = .nonterminal ∧ ∀ alt ∈ alts, Symbol.endMarker ∉ alt

/-- Why any other rule is refused. -/
def refusal (lhs : Symbol) : Error :=
  if lhs.kind = .nonterminal then .endMarkerInAlternative else .leftNotNonterminal lhs

variable {g h : Grammar} {lhs : Symbol} {alts : List (List Symbol)}

theorem built_filled (built : g.Built) : ∀ p ∈ g.productions, p.rhs ≠ [] := by
  induction built with
  | new made =>
    unfold Grammar.new at made
    split at made
    · cases made
      exact nofun
    · cases made
  | add _ added ih =>
    obtain ⟨_, _, rfl⟩ := add_eq_ok added
    intro p member
    rcases mem_productions_define.mp member with new | ⟨e, old, _, inside⟩
    · obtain ⟨alt, _, rfl⟩ := mem_productionsOf.mp new
      exact storedAlternative_ne_nil alt
    · exact ih p (mem_productions.mpr ⟨e, old, inside⟩)

namespace Declared

variable (d : g.Declared)
include d

theorem classify_nonterminal {s : Symbol} (declared : s ∈ g.nonterminals) :
    g.classify s = .nonterminal := by
  have unmarked : s ≠ Symbol.endMarker := by
    rintro rfl
    exact d.endMarker_not_nonterminal declared
  rw [classify, if_neg (d.nonterminal_ne_epsilon declared), if_neg unmarked, if_pos declared]

theorem classify_terminal {s : Symbol} (declared : s ∈ g.terminals) : g.classify s = .terminal := by
  rw [classify, if_neg (d.ne_epsilon declared), if_neg (d.ne_endMarker declared),
    if_neg (d.terminal_not_nonterminal declared)]

end Declared

theorem built_consistent (built : g.Built) : g.Consistent := by
  have d := built_declared built
  refine { d with filled := built_filled built, disjoint := ?_, unreserved := ?_, classified := ?_ }
  · intro s declared
    exact d.terminal_not_nonterminal declared
  · intro s reserved
    simp only [List.mem_cons, List.not_mem_nil, or_false] at reserved
    rcases reserved with rfl | rfl
    · exact ⟨fun declared => d.ne_epsilon declared rfl, d.epsilon_not_nonterminal⟩
    · exact ⟨d.endMarker_not_terminal, d.endMarker_not_nonterminal⟩
  · intro p rule s used
    by_cases marker : s = Symbol.epsilon
    · exact Or.inl ⟨if_pos marker, marker⟩
    · rcases d.mem_rhs rule used marker with terminal | nonterminal
      · exact Or.inr (Or.inr ⟨d.classify_terminal terminal, terminal⟩)
      · exact Or.inr (Or.inl ⟨d.classify_nonterminal nonterminal, nonterminal⟩)

theorem productionsFor_define (g : Grammar) (lhs : Symbol) (alts : List (List Symbol))
    (s : Symbol) : (g.define lhs alts).productionsFor s =
      if s = lhs then productionsOf lhs alts else g.productionsFor s := by
  unfold productionsFor define
  simp only [OrderedMap.getD_put, eq_comm (a := lhs)]

theorem add_acceptable (acceptable : Acceptable lhs alts) :
    g.add lhs alts = .ok (g.define lhs alts) := by
  obtain ⟨kind, clean⟩ := acceptable
  have unmarked : ¬ alts.any (·.contains Symbol.endMarker) = true := by
    simpa using clean
  rw [add, if_neg (Decidable.not_not.mpr kind), if_neg unmarked]

theorem add_refused (unacceptable : ¬ Acceptable lhs alts) :
    g.add lhs alts = .error (refusal lhs) := by
  unfold add refusal
  by_cases kind : lhs.kind = .nonterminal
  · have marked : alts.any (·.contains Symbol.endMarker) = true := by
      refine Decidable.byContradiction fun clean => unacceptable ⟨kind, ?_⟩
      simpa using clean
    rw [if_neg (Decidable.not_not.mpr kind), if_pos marked, if_pos kind]
  · rw [if_pos kind, if_neg kind]

end Grammar

namespace Workbench
open Grammar

/-- How many of some steps, taken one after the other, succeed. -/
def successes (w : Workbench) : List Command → Nat
  | [] => 0
  | c :: cs => (if (w.step c).1.isOk then 1 else 0) + (w.step c).2.successes cs

/-- The current grammar of a workbench, with its number. -/
structure Stands (w : Workbench) (n : Nat) (g : Grammar) : Prop where
  here : w.current = some n
  held : w.grammar? n = some g

/-- Rules to be added, as steps at the workbench. -/
def additions (rules : List (Symbol × List (List Symbol))) : List Command :=
  rules.map fun r => .add r.1 r.2

variable {w : Workbench} {n : Nat} {g : Grammar} {lhs : Symbol} {alts : List (List Symbol)}

theorem stands_startGrammar (w : Workbench) {start : Symbol} (kind : start.kind = .nonterminal) :
    (w.step (.startGrammar start)).2.Stands w.grammars.length (ofStart start) := by
  have made : Grammar.new start = .ok (ofStart start) := if_pos kind
  have mapped : (Grammar.new start).mapError GrammarSource.Error.rules = .ok (ofStart start) := by
    rw [made]
    rfl
  have placed : w.step (.startGrammar start) = w.place (.ok (ofStart start)) :=
    congrArg w.place mapped
  rw [placed]
  exact ⟨rfl, by simp [place, grammar?]⟩

namespace Stands

theorem step_acceptable (stands : w.Stands n g) (acceptable : Acceptable lhs alts) :
    w.step (.add lhs alts) = (.ok (.grammar (g.define lhs alts)),
      { w with grammars := w.grammars.set n (g.define lhs alts) }) :=
  step_add_ok stands.here stands.held (add_acceptable acceptable)

theorem step_refused (stands : w.Stands n g) (unacceptable : ¬ Acceptable lhs alts) :
    w.step (.add lhs alts) = (.error (.source (.rules (refusal lhs))), w) :=
  step_add_error stands.here stands.held (add_refused unacceptable)

theorem define (stands : w.Stands n g) (lhs : Symbol) (alts : List (List Symbol)) :
    { w with grammars := w.grammars.set n (g.define lhs alts) }.Stands n (g.define lhs alts) where
  here := stands.here
  held := List.getElem?_set_self (List.getElem?_eq_some_iff.mp stands.held).1

/-- What additions leave: the grammar has taken the acceptable ones and has counted them. -/
theorem after (stands : w.Stands n g) (built : g.Built)
    (rules : List (Symbol × List (List Symbol))) :
    ∃ h, (w.after (additions rules)).Stands n h ∧ h.Built ∧ h.start = g.start ∧
      h.revision = g.revision + w.successes (additions rules) := by
  induction rules generalizing w g with
  | nil => exact ⟨g, stands, built, rfl, rfl⟩
  | cons r rest ih =>
    obtain ⟨lhs, alts⟩ := r
    change ∃ h, ((w.step (.add lhs alts)).2.after (additions rest)).Stands n h ∧ h.Built ∧
      h.start = g.start ∧ h.revision = g.revision +
        ((if (w.step (.add lhs alts)).1.isOk then 1 else 0) +
          (w.step (.add lhs alts)).2.successes (additions rest))
    by_cases acceptable : Acceptable lhs alts
    · have grown : (g.define lhs alts).Built := built_define built acceptable.1 acceptable.2
      rw [stands.step_acceptable acceptable]
      obtain ⟨h, stands', built', start, count⟩ := ih (stands.define lhs alts) grown
      have raised : (g.define lhs alts).revision = g.revision + 1 := rfl
      refine ⟨h, stands', built', start, ?_⟩
      rw [count, raised, Nat.add_assoc]
      rfl
    · rw [stands.step_refused acceptable]
      obtain ⟨h, stands', built', start, count⟩ := ih stands built
      refine ⟨h, stands', built', start, ?_⟩
      rw [count]
      simp [Except.isOk, Except.toBool]

end Stands

/-- Whatever rules are added to a new grammar, one after the other: it keeps its start symbol, its
symbols are in step with its rules, and its revision is the number of additions that succeed. A
further rule is refused exactly if it is not acceptable, and then nothing at the workbench changes;
else it becomes the rule for its left-hand side, and the other rules stay. -/
theorem grammar_upkeep (w : Workbench) {start : Symbol} (kind : start.kind = .nonterminal)
    (rules : List (Symbol × List (List Symbol))) :
    let fresh := (w.step (.startGrammar start)).2
    let grown := fresh.after (additions rules)
    ∃ g, grown.Stands w.grammars.length g ∧ g.start = start ∧ g.Consistent ∧
      g.revision = fresh.successes (additions rules) ∧
      ∀ lhs alts,
        (Acceptable lhs alts → ∃ h, (grown.step (.add lhs alts)).1 = .ok (.grammar h) ∧
          (grown.step (.add lhs alts)).2.Stands w.grammars.length h ∧
          ∀ s, h.productionsFor s =
            if s = lhs then productionsOf lhs alts else g.productionsFor s) ∧
        (¬ Acceptable lhs alts →
          grown.step (.add lhs alts) = (.error (.source (.rules (refusal lhs))), grown)) := by
  intro fresh grown
  obtain ⟨g, stands, built, origin, count⟩ :=
    (stands_startGrammar w kind).after (built_ofStart kind) rules
  have zero : (ofStart start).revision = 0 := rfl
  rw [zero, Nat.zero_add] at count
  refine ⟨g, stands, origin, built_consistent built, count, ?_⟩
  intro lhs alts
  constructor
  · intro acceptable
    refine ⟨g.define lhs alts, ?_, ?_, productionsFor_define g lhs alts⟩
    · rw [stands.step_acceptable acceptable]
    · rw [stands.step_acceptable acceptable]
      exact stands.define lhs alts
  · exact stands.step_refused

/-- Rules for strings of brackets: one has the end marker behind a good alternative, one a terminal
on its left, and the last one replaces the first. -/
def bracketRules : List (Symbol × List (List Symbol)) :=
  [(.nonterminal "S", [[.terminal "a", .nonterminal "A"], []]),
   (.nonterminal "S", [[.terminal "c"], [.terminal "b", .endMarker]]),
   (.terminal "a", [[.terminal "b"]]),
   (.nonterminal "S", [[.nonterminal "A", .epsilon, .terminal "b"]])]

/-- Two of the four rules are taken; `a` is declared no more, and the left `A` still is. -/
theorem bracketRules_upkeep :
    let grown := (empty.step (.startGrammar (.nonterminal "S"))).2.after (additions bracketRules)
    ∃ g, grown.Stands 0 g ∧ g.start = .nonterminal "S" ∧ g.Consistent ∧ g.revision = 2 ∧
      g.terminals.toList = [.terminal "b"] ∧
      g.nonterminals.toList = [.nonterminal "A", .nonterminal "S"] ∧
      grown.step (.add (.nonterminal "A") [[.endMarker]]) =
        (.error (.source (.rules .endMarkerInAlternative)), grown) := by
  intro grown
  have kind : (Symbol.nonterminal "S").kind = .nonterminal := rfl
  obtain ⟨g, stands, start, consistent, count, later⟩ := grammar_upkeep empty kind bracketRules
  have refused : ¬ Acceptable (.nonterminal "A") [[.endMarker]] := by
    intro acceptable
    exact acceptable.2 _ List.mem_cons_self List.mem_cons_self
  have known : (grown.grammar? 0).any (fun g => g.terminals.toList = [.terminal "b"] ∧
      g.nonterminals.toList = [.nonterminal "A", .nonterminal "S"]) = true := by
    decide +kernel
  have held : grown.grammar? 0 = some g := stands.held
  rw [held, Option.any_some, decide_eq_true_eq] at known
  exact ⟨g, stands, start, consistent, count.trans (by decide +kernel), known.1, known.2,
    (later _ _).2 refused⟩

end Workbench
end TableParsing
