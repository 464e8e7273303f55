import TableParsing.Proofs.Grammar.Derivation
import TableParsing.Proofs.Sets.Closed

/- FIRST and FOLLOW as bounds on what derivations show. The yield of a forest begins inside the
   FIRST set of its roots, and whatever comes after a nonterminal in a derivation is in its FOLLOW
   set. Epsilon markers can only make the sets larger. -/
namespace TableParsing

variable {g : Grammar}

/-- The input begins with a symbol that may come after a nonterminal. -/
def Admits (follow : SymbolSets) (s : Symbol) (input : List Symbol) : Prop :=
  ∃ ahead rest, input = ahead :: rest ∧ ahead ∈ follow.getD s ∅

theorem mem_firstOf_of_filter {first : SymbolSets} {symbols : List Symbol} {x : Symbol}
    (hx : x ∈ firstOf g first (symbols.filter (· ≠ Symbol.epsilon))) :
    x ∈ firstOf g first symbols := by
  induction symbols with
  | nil => exact hx
  | cons s rest ih =>
    by_cases marker : s = Symbol.epsilon
    · rw [List.filter_cons_of_neg (by simp [marker])] at hx
      rw [firstOf, if_pos marker]
      exact SortedSet.mem_insert.mpr (Or.inr (ih hx))
    · rw [List.filter_cons_of_pos (by simp [marker])] at hx
      rw [firstOf, if_neg marker] at hx ⊢
      split
      · rename_i declared
        rw [if_pos declared] at hx
        dsimp only at hx ⊢
        split
        · rename_i vanishes
          rw [if_pos vanishes] at hx
          rcases SortedSet.mem_union.mp hx with hx | hx
          · exact SortedSet.mem_union.mpr (Or.inl hx)
          · exact SortedSet.mem_union.mpr (Or.inr (ih hx))
        · rename_i stays
          rw [if_neg stays] at hx
          exact hx
      · rename_i other
        rw [if_neg other] at hx
        exact hx

/-- The first symbol of a string, or the epsilon marker if there is none. -/
def beginning (w : List Symbol) : Symbol := w.headD Symbol.epsilon

theorem beginning_append (u v : List Symbol) :
    beginning (u ++ v) = if u = [] then beginning v else beginning u := by
  cases u <;> rfl

theorem beginning_ne_epsilon (d : g.Declared) {w : List Symbol} (h : ∀ s ∈ w, s ∈ g.terminals)
    (some : w ≠ []) : beginning w ≠ Symbol.epsilon := by
  cases w with
  | nil => exact absurd rfl some
  | cons s rest => exact d.ne_epsilon (h s List.mem_cons_self)

theorem beginning_mem_firstOf (d : g.Declared) {f : Forest} (conforms : f.Conforms g) :
    beginning f.yield ∈ firstOf g (firstSets g) f.roots := by
  induction f with
  | nil => simp [Forest.yield, Forest.roots, firstOf, beginning]
  | leaf s rest ih =>
    have plain : g.isNonterminal s ≠ true := by
      rw [Ne, isNonterminal_iff]
      exact d.terminal_not_nonterminal conforms.1
    rw [Forest.roots, firstOf, if_neg (d.ne_epsilon conforms.1), if_neg plain]
    simp [Forest.yield, beginning]
  | node p children rest ihc ihr =>
    obtain ⟨rule, body, hc, hr⟩ := conforms
    have member := d.lhs_mem rule
    have own : beginning children.yield ∈ (firstSets g).getD p.lhs ∅ := by
      have inner := ihc hc
      rw [body] at inner
      exact firstSets_closed d rule (mem_firstOf_of_filter inner)
    have marker : p.lhs ≠ Symbol.epsilon := by
      intro eq
      exact d.epsilon_not_nonterminal (eq ▸ member)
    rw [Forest.roots, firstOf, if_neg marker, if_pos (isNonterminal_iff.mpr member),
      Forest.yield, beginning_append]
    dsimp only
    by_cases empty : children.yield = []
    · rw [empty] at own
      change Symbol.epsilon ∈ _ at own
      rw [if_pos empty, if_pos own]
      exact SortedSet.mem_union.mpr (Or.inr (ihr hr))
    · rw [if_neg empty]
      split
      · have visible := beginning_ne_epsilon d (Forest.yield_terminals hc) empty
        exact SortedSet.mem_union.mpr (Or.inl (SortedSet.mem_erase.mpr ⟨own, visible⟩))
      · exact own

theorem body_split {p : Production} {before rest : List Symbol} {s : Symbol}
    (split : p.body = before ++ s :: rest) :
    ∃ left right, p.rhs = left ++ s :: right ∧
      right.filter (· ≠ Symbol.epsilon) = rest := by
  obtain ⟨left, tail, cut, _, htail⟩ := List.filter_eq_append_iff.mp split
  obtain ⟨markers, right, rfl, _, _, hright⟩ := List.filter_eq_cons_iff.mp htail
  exact ⟨left ++ markers, right, by simpa using cut, hright⟩

/-- What comes after a nonterminal in a body is in its FOLLOW set, if what comes after the body is
in the FOLLOW set of the left-hand side. -/
theorem admits_after (d : g.Declared) {p : Production} (rule : p ∈ g.productions)
    {before : List Symbol} {s : Symbol} {rest : Forest}
    (split : p.body = before ++ s :: rest.roots) (member : s ∈ g.nonterminals)
    (conforms : rest.Conforms g) {input : List Symbol}
    (after : Admits (FirstFollow.ofGrammar g).follow p.lhs input) :
    Admits (FirstFollow.ofGrammar g).follow s (rest.yield ++ input) := by
  obtain ⟨left, right, cut, kept⟩ := body_split split
  have ahead : beginning rest.yield ∈ firstOf g (firstSets g) right := by
    refine mem_firstOf_of_filter ?_
    rw [kept]
    exact beginning_mem_firstOf d conforms
  obtain ⟨a, tail, rfl, ha⟩ := after
  have closed := @followSets_closed g _ d (firstSets_within d) p rule left right s cut member
  cases hy : rest.yield with
  | nil =>
    rw [hy] at ahead
    exact ⟨a, tail, rfl, closed (mem_aheadOf.mpr (Or.inr ⟨ahead, ha⟩))⟩
  | cons x more =>
    have visible := beginning_ne_epsilon d (Forest.yield_terminals conforms) (by simp [hy])
    rw [hy] at ahead visible
    exact ⟨x, more ++ a :: tail, rfl, closed (mem_aheadOf.mpr (Or.inl ⟨ahead, visible⟩))⟩

theorem admits_start (tail : List Symbol) :
    Admits (FirstFollow.ofGrammar g).follow g.start (Symbol.endMarker :: tail) :=
  ⟨Symbol.endMarker, tail, rfl, endMarker_mem_followSets⟩

/-- Behind each nonterminal among the roots of a forest comes a symbol of its FOLLOW set, when
`rest` comes behind the forest. -/
def Forest.Fits (follow : SymbolSets) (rest : List Symbol) : Forest → Prop
  | .nil => True
  | .leaf _ others => others.Fits follow rest
  | .node p _ others => Admits follow p.lhs (others.yield ++ rest) ∧ others.Fits follow rest

theorem fits_body (d : g.Declared) {p : Production} (rule : p ∈ g.productions)
    {before : List Symbol} {f : Forest} (split : p.body = before ++ f.roots)
    (conforms : f.Conforms g) {rest : List Symbol}
    (after : Admits (FirstFollow.ofGrammar g).follow p.lhs rest) :
    f.Fits (FirstFollow.ofGrammar g).follow rest := by
  induction f generalizing before with
  | nil => trivial
  | leaf s others ih =>
    have later : p.body = (before ++ [s]) ++ others.roots := by
      simpa [Forest.roots] using split
    exact ih later conforms.2
  | node q children others _ ih =>
    obtain ⟨inner, _, _, ho⟩ := conforms
    have later : p.body = (before ++ [q.lhs]) ++ others.roots := by
      simpa [Forest.roots] using split
    exact ⟨admits_after d rule split (d.lhs_mem inner) ho after, ih later ho⟩

theorem fits_start {f : Forest} (roots : f.roots = [g.start]) (tail : List Symbol) :
    f.Fits (FirstFollow.ofGrammar g).follow (Symbol.endMarker :: tail) := by
  cases f with
  | nil => trivial
  | leaf s others =>
    cases others with
    | nil => trivial
    | leaf | node => simp [Forest.roots] at roots
  | node p children others =>
    cases others with
    | nil =>
      simp only [Forest.roots, List.cons.injEq, and_true] at roots
      refine ⟨?_, trivial⟩
      rw [roots]
      exact admits_start tail
    | leaf | node => simp [Forest.roots] at roots

end TableParsing
