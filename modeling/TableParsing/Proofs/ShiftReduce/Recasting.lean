import TableParsing.Proofs.Grammar.Recasting
import TableParsing.Proofs.ShiftReduce.Conflicts

/- Items and conflicts of a grammar in its other form. The items that are valid after a string are
   the recast items after the recast string, with the synthetic start symbol of the one grammar for
   that of the other. So both grammars are at peace together, if the sets of following symbols
   correspond. The order of the left-hand sides does not carry over. -/
namespace TableParsing.Recasting
open ShiftReduce

variable (r : Recasting) {g : Grammar}

/-- The left-hand side of the recast item: the synthetic start symbol becomes the other one. -/
def left (g : Grammar) (s : Symbol) : Symbol :=
  if s = (Augmented.ofGrammar g).start then (Augmented.ofGrammar (r.grammar g)).start
  else r.symbol s

@[simp] theorem left_start :
    r.left g (Augmented.ofGrammar g).start = (Augmented.ofGrammar (r.grammar g)).start :=
  if_pos rfl

theorem left_of_ne {s : Symbol} (ne : s ≠ (Augmented.ofGrammar g).start) :
    r.left g s = r.symbol s := if_neg ne

theorem symbol_ne_start {s : Symbol} (member : s ∈ g.nonterminals) :
    r.symbol s ≠ (Augmented.ofGrammar (r.grammar g)).start :=
  Augmented.start_name_free (Or.inl (r.symbol_mem_nonterminals.mpr member))

section Items

variable (d : g.Declared)
include d

theorem valid {read done todo : List Symbol} {lhs : Symbol} (h : Valid g read lhs done todo) :
    Valid (r.grammar g) (read.map r.symbol) (r.left g lhs) (done.map r.symbol)
      (todo.map r.symbol) := by
  induction h with
  | start =>
    rw [left_start]
    exact .start
  | @predict read lhs done todo p _ rule ih =>
    have rule' : r.production p ∈ (r.grammar g).productions := r.mem_productions.mpr ⟨p, rule, rfl⟩
    rw [left_of_ne r (Augmented.start_name_free (Or.inl (d.lhs_mem rule))), ← r.production_body]
    exact .predict ih rule'
  | advance _ ih =>
    rw [List.map_append, List.map_append]
    exact .advance ih

theorem exists_valid {read' done' todo' : List Symbol} {lhs' : Symbol}
    (h : Valid (r.grammar g) read' lhs' done' todo') :
    ∃ read lhs done todo, read.map r.symbol = read' ∧ r.left g lhs = lhs' ∧
      done.map r.symbol = done' ∧ todo.map r.symbol = todo' ∧ Valid g read lhs done todo := by
  induction h with
  | start => exact ⟨[], (Augmented.ofGrammar g).start, [], [g.start], rfl, r.left_start, rfl, rfl,
      .start⟩
  | predict _ rule ih =>
    obtain ⟨read, lhs, done, todo, rfl, _, _, next, item⟩ := ih
    obtain ⟨p, hp, rfl⟩ := r.mem_productions.mp rule
    obtain ⟨x, rest, rfl, same, _⟩ := List.map_eq_cons_iff.mp next
    rw [r.injective same] at item
    have ne := Augmented.start_name_free (Or.inl (d.lhs_mem hp))
    exact ⟨read, p.lhs, [], p.body, rfl, r.left_of_ne ne, rfl, (r.production_body p).symm,
      .predict item hp⟩
  | advance _ ih =>
    obtain ⟨read, lhs, done, todo, rfl, own, rfl, next, item⟩ := ih
    obtain ⟨x, rest, rfl, rfl, rfl⟩ := List.map_eq_cons_iff.mp next
    exact ⟨read ++ [x], lhs, done ++ [x], rest, by simp, own, by simp, rfl, .advance item⟩

end Items

section Conflicts

variable {follow follow' : SymbolSets}

/-- What follows a nonterminal follows it under the new names. -/
def Forth (g : Grammar) (follow follow' : SymbolSets) : Prop :=
  ∀ s ∈ g.nonterminals, ∀ x ∈ follow.getD s ∅, r.symbol x ∈ follow'.getD (r.symbol s) ∅

/-- What follows a nonterminal under the new names follows it under the old ones. -/
def Back (g : Grammar) (follow follow' : SymbolSets) : Prop :=
  ∀ s ∈ g.nonterminals, ∀ y ∈ follow'.getD (r.symbol s) ∅, ∃ x ∈ follow.getD s ∅, r.symbol x = y

variable (d : g.Declared)
include d

theorem mem_of_reduces {read body : List Symbol} {ahead lhs : Symbol}
    (h : Reduces g follow read ahead lhs body) : lhs ∈ g.nonterminals := by
  obtain ⟨p, rule, rfl, _⟩ := h.1.rule_of_ne_start h.2.1
  exact d.lhs_mem rule

theorem reduces (forth : r.Forth g follow follow') {read body : List Symbol} {ahead lhs : Symbol}
    (h : Reduces g follow read ahead lhs body) : Reduces (r.grammar g) follow'
      (read.map r.symbol) (r.symbol ahead) (r.symbol lhs) (body.map r.symbol) := by
  have member := mem_of_reduces d h
  obtain ⟨item, ne, after⟩ := h
  refine ⟨?_, r.symbol_ne_start member, forth lhs member ahead after⟩
  have item' := r.valid d item
  rw [r.left_of_ne ne] at item'
  exact item'

theorem exists_reduces (back : r.Back g follow follow') {read' body' : List Symbol}
    {ahead' lhs' : Symbol} (h : Reduces (r.grammar g) follow' read' ahead' lhs' body') :
    ∃ read ahead lhs body, read.map r.symbol = read' ∧ r.symbol ahead = ahead' ∧
      r.symbol lhs = lhs' ∧ body.map r.symbol = body' ∧ Reduces g follow read ahead lhs body := by
  obtain ⟨item', ne', after'⟩ := h
  obtain ⟨read, lhs, body, todo, rfl, rfl, rfl, none, item⟩ := r.exists_valid d item'
  obtain rfl := List.map_eq_nil_iff.mp none
  have ne : lhs ≠ (Augmented.ofGrammar g).start := by
    rintro rfl
    exact ne' r.left_start
  obtain ⟨p, rule, rfl, _⟩ := item.rule_of_ne_start ne
  rw [r.left_of_ne ne] at after' ⊢
  obtain ⟨x, hx, rfl⟩ := back p.lhs (d.lhs_mem rule) ahead' after'
  exact ⟨read, x, p.lhs, body, rfl, rfl, rfl, rfl, item, ne, hx⟩

theorem peaceful (back : r.Back g follow follow') (h : Peaceful g follow) :
    Peaceful (r.grammar g) follow' := by
  constructor
  case shift =>
    intro read' ahead' lhs' body' lhs'' done' todo' reduces' item' terminal
    obtain ⟨read, ahead, lhs, body, rfl, rfl, _, _, reduces⟩ := r.exists_reduces d back reduces'
    obtain ⟨other, _, _, todo, same, _, _, next, item⟩ := r.exists_valid d item'
    obtain rfl := r.map_inj.mp same
    obtain ⟨x, rest, rfl, same, _⟩ := List.map_eq_cons_iff.mp next
    rw [r.injective same] at item
    exact h.shift reduces item (r.symbol_mem_terminals.mp terminal)
  case reduce =>
    intro read' ahead' lhs' body' lhs'' body'' first second
    obtain ⟨read, ahead, lhs, body, rfl, rfl, rfl, rfl, one⟩ := r.exists_reduces d back first
    obtain ⟨read₂, ahead₂, lhs₂, body₂, same, same', rfl, rfl, two⟩ :=
      r.exists_reduces d back second
    obtain rfl := r.map_inj.mp same
    obtain rfl := r.injective same'
    rcases h.reduce one two with ⟨rfl, rfl⟩ | ⟨rfl, rfl⟩
    · exact Or.inl ⟨rfl, rfl⟩
    · exact Or.inr ⟨rfl, r.endMarker⟩

theorem peaceful_of_grammar (forth : r.Forth g follow follow')
    (h : Peaceful (r.grammar g) follow') : Peaceful g follow := by
  constructor
  case shift =>
    intro read ahead lhs body lhs' done todo reduces item terminal
    exact h.shift (r.reduces d forth reduces) (r.valid d item)
      (r.symbol_mem_terminals.mpr terminal)
  case reduce =>
    intro read ahead lhs body lhs' body' one two
    rcases h.reduce (r.reduces d forth one) (r.reduces d forth two) with
      ⟨same, same'⟩ | ⟨same, same'⟩
    · exact Or.inl ⟨r.injective same, r.map_inj.mp same'⟩
    · have start : read.map r.symbol = [g.start].map r.symbol := same
      exact Or.inr ⟨r.map_inj.mp start, r.symbol_eq_endMarker.mp same'⟩

theorem rival (forth : r.Forth g follow follow') {lhs : Symbol} {body : List Symbol}
    (h : Rival g follow lhs body) :
    Rival (r.grammar g) follow' (r.symbol lhs) (body.map r.symbol) := by
  have image := r.reduces d forth h
  rw [r.endMarker] at image
  exact image

theorem exists_rival (back : r.Back g follow follow') {lhs' : Symbol} {body' : List Symbol}
    (h : Rival (r.grammar g) follow' lhs' body') :
    ∃ lhs body, r.symbol lhs = lhs' ∧ body.map r.symbol = body' ∧ Rival g follow lhs body := by
  obtain ⟨read, ahead, lhs, body, same, same', rfl, rfl, reduces⟩ := r.exists_reduces d back h
  have start : read.map r.symbol = [g.start].map r.symbol := same
  rw [r.map_inj.mp start, r.symbol_eq_endMarker.mp same'] at reduces
  exact ⟨lhs, body, rfl, rfl, reduces⟩

end Conflicts
end TableParsing.Recasting
