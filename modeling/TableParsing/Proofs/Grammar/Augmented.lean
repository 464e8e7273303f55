import TableParsing.Proofs.Grammar.Declared

/- The synthetic start symbol is new to its grammar: its name is primed until it is free, and among
   more candidates than there are declared names one is free. -/
namespace TableParsing

/-- If the search ends on a name that is taken, all names that it tried are taken. -/
theorem taken_of_primed {taken : List String} {limit : Nat} {name : String}
    (h : primed taken limit name ∈ taken) :
    ∃ tried : List String, tried.length = limit + 1 ∧ tried.Nodup ∧
      (∀ x ∈ tried, x ∈ taken ∧ name.length ≤ x.length) := by
  induction limit generalizing name with
  | zero =>
    refine ⟨[name], rfl, by simp, ?_⟩
    intro x hx
    rw [List.mem_singleton.mp hx]
    exact ⟨h, Nat.le_refl _⟩
  | succ limit ih =>
    unfold primed at h
    split at h
    · rename_i member
      obtain ⟨tried, count, distinct, all⟩ := ih h
      have longer : ∀ x ∈ tried, name.length < x.length := by
        intro x hx
        have le := (all x hx).2
        rw [String.length_append] at le
        have one : ("'" : String).length = 1 := rfl
        omega
      refine ⟨name :: tried, by rw [List.length_cons, count], ?_, ?_⟩
      · refine List.nodup_cons.mpr ⟨?_, distinct⟩
        intro hn
        exact Nat.lt_irrefl _ (longer name hn)
      · intro x hx
        rcases List.mem_cons.mp hx with rfl | hx
        · exact ⟨member, Nat.le_refl _⟩
        · exact ⟨(all x hx).1, Nat.le_of_lt (longer x hx)⟩
    · rename_i free
      exact absurd h free

theorem freshStartName_not_mem (taken : List String) : freshStartName taken ∉ taken := by
  intro h
  obtain ⟨tried, count, distinct, all⟩ := taken_of_primed h
  have le := distinct.length_le_of_subset fun x hx => (all x hx).1
  omega

/-- The priming of a name for as long as it is taken: it starts with one name and ends with
another. -/
inductive Priming (taken : String → Prop) : String → String → Prop where
  | free {name : String} (free : ¬ taken name) : Priming taken name name
  | prime {name last : String} (member : taken name) (rest : Priming taken (name ++ "'") last) :
      Priming taken name last

/-- A limited search that ends on a free name is the whole search. -/
theorem priming_primed {taken : List String} {limit : Nat} {name : String}
    (free : primed taken limit name ∉ taken) :
    Priming (· ∈ taken) name (primed taken limit name) := by
  induction limit generalizing name with
  | zero => exact .free free
  | succ limit ih =>
    unfold primed at free ⊢
    split
    · rename_i member
      rw [if_pos member] at free
      exact .prime member (ih free)
    · rename_i stops
      exact .free stops

/-- Whether a declared symbol of a grammar has a name. -/
def Grammar.Names (g : Grammar) (name : String) : Prop :=
  ∃ s, (s ∈ g.terminals ∨ s ∈ g.nonterminals) ∧ s.name = name

namespace Augmented

variable {g : Grammar}

theorem mem_declaredNames {name : String} :
    name ∈ (g.nonterminals.toList ++ g.terminals.toList).map Symbol.name ↔ g.Names name := by
  simp only [List.mem_map, List.mem_append, Grammar.Names, SortedSet.mem_def, or_comm]

theorem not_names_start : ¬ g.Names (ofGrammar g).start.name := fun used =>
  freshStartName_not_mem _ (mem_declaredNames.mpr used)

theorem start_name_free {s : Symbol} (h : s ∈ g.nonterminals ∨ s ∈ g.terminals) :
    s ≠ (ofGrammar g).start := by
  rintro rfl
  exact not_names_start ⟨_, h.symm, rfl⟩

/-- The search for the name of the synthetic start symbol comes to its end by itself. -/
theorem priming_start (g : Grammar) : Priming g.Names "Z" (ofGrammar g).start.name := by
  have search := priming_primed (freshStartName_not_mem
    ((g.nonterminals.toList ++ g.terminals.toList).map Symbol.name))
  simp only [mem_declaredNames] at search
  exact search

theorem start_not_nonterminal : (ofGrammar g).start ∉ g.nonterminals := by
  intro h
  exact start_name_free (Or.inl h) rfl

theorem startProduction_body (d : g.Declared) :
    (ofGrammar g).startProduction.body = [g.start] := by
  have visible : g.start ≠ Symbol.epsilon := by
    intro eq
    exact d.epsilon_not_nonterminal (eq ▸ d.start_mem)
  simp [startProduction, ofGrammar, Production.body, visible]

end Augmented

theorem Grammar.Declared.start_not_mem_rhs {g : Grammar} (d : g.Declared) {p : Production}
    (rule : p ∈ g.productions) : (Augmented.ofGrammar g).start ∉ p.rhs := by
  intro used
  have visible : (Augmented.ofGrammar g).start ≠ Symbol.epsilon := by
    intro same
    have kind : (Augmented.ofGrammar g).start.kind = .nonterminal := rfl
    rw [same] at kind
    cases kind
  exact Augmented.start_name_free (d.mem_rhs rule used visible).symm rfl

end TableParsing
