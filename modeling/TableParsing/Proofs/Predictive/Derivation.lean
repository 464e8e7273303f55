import TableParsing.Predictive.Run
import TableParsing.Proofs.Predictive.Cells
import TableParsing.Proofs.Sets.Lookahead

/- Runs of the predictive engine as derivations. A run that accepts spells a parse tree of the
   input, its expansions being the productions of the tree in preorder; and every parse tree of the
   input is followed by the run, since each of its productions owns the cell that is looked up. -/
namespace TableParsing.Predictive

variable {g : Grammar} {table : Table}

/-- Any number of matches and expansions, with the productions expanded by. -/
inductive Moves (g : Grammar) (table : Table) : Config → List Production → Config → Prop where
  | refl (c : Config) : Moves g table c [] c
  | matched {c next last : Config} {s : Symbol} {ps : List Production}
      (first : step g table c = .matched s next) (rest : Moves g table next ps last) :
      Moves g table c ps last
  | expanded {c next last : Config} {p : Production} {ps : List Production}
      (first : step g table c = .expanded p next) (rest : Moves g table next ps last) :
      Moves g table c (p :: ps) last

theorem Moves.trans {a b c : Config} {ps qs : List Production} (ab : Moves g table a ps b)
    (bc : Moves g table b qs c) : Moves g table a (ps ++ qs) c := by
  induction ab with
  | refl => exact bc
  | matched first _ ih => exact .matched first (ih bc)
  | expanded first _ ih => exact .expanded first (ih bc)

theorem Moves.outcome {c last : Config} {ps : List Production} (moves : Moves g table c ps last) :
    ∃ k, ∀ n, Predictive.outcome g table (n + k) c = Predictive.outcome g table n last ∧
      expansions g table (n + k) c = ps ++ expansions g table n last := by
  induction moves with
  | refl c => exact ⟨0, fun n => ⟨rfl, rfl⟩⟩
  | matched first _ ih =>
    obtain ⟨k, same⟩ := ih
    refine ⟨k + 1, ?_⟩
    intro n
    rw [← Nat.add_assoc, Predictive.outcome, expansions, first]
    exact same n
  | expanded first _ ih =>
    obtain ⟨k, same⟩ := ih
    refine ⟨k + 1, ?_⟩
    intro n
    rw [← Nat.add_assoc, Predictive.outcome, expansions, first]
    exact ⟨(same n).1, congrArg (_ :: ·) (same n).2⟩

/-- A run that ends moves to the configuration whose step says how. -/
theorem moves_of_outcome {n : Nat} {c : Config} {o : Outcome}
    (h : Predictive.outcome g table n c = some o) :
    ∃ last done, Moves g table c (expansions g table n c) last ∧
      (o = .accepted ∧ step g table last = .accept done ∨
        ∃ why, o = .rejected why ∧ step g table last = .reject why done) := by
  induction n generalizing c with
  | zero => cases h
  | succ n ih =>
    unfold Predictive.outcome at h
    unfold expansions
    cases hs : step g table c with
    | matched s next =>
      rw [hs] at h
      obtain ⟨last, done, moves, ends⟩ := ih h
      exact ⟨last, done, .matched hs moves, ends⟩
    | expanded p next =>
      rw [hs] at h
      obtain ⟨last, done, moves, ends⟩ := ih h
      exact ⟨last, done, .expanded hs moves, ends⟩
    | accept done =>
      rw [hs] at h
      cases h
      exact ⟨c, done, .refl c, Or.inl ⟨rfl, hs⟩⟩
    | reject why done =>
      rw [hs] at h
      cases h
      exact ⟨c, done, .refl c, Or.inr ⟨why, rfl, hs⟩⟩

theorem moves_of_accepted {n : Nat} {c : Config}
    (h : Predictive.outcome g table n c = some .accepted) :
    ∃ last done, Moves g table c (expansions g table n c) last ∧
      step g table last = .accept done := by
  obtain ⟨last, done, moves, ⟨_, accept⟩ | ⟨why, rejected, _⟩⟩ := moves_of_outcome h
  · exact ⟨last, done, moves, accept⟩
  · cases rejected

section Steps

variable {c next done : Config}

theorem step_accept (h : step g table c = .accept done) :
    ∃ below, c.stack = Symbol.endMarker :: below ∧
      c.input.headD Symbol.endMarker = Symbol.endMarker := by
  obtain ⟨stack, input⟩ := c
  unfold step at h
  dsimp only at h
  cases stack with
  | nil => cases h
  | cons top below =>
    dsimp only at h
    split at h
    · rename_i bottom
      split at h
      · rename_i finished
        exact ⟨below, by rw [bottom], finished⟩
      · cases h
    · split at h
      · split at h <;> cases h
      · split at h <;> cases h

theorem step_exhausted (h : step g table c = .reject .stackExhausted done) : c.stack = [] := by
  obtain ⟨stack, input⟩ := c
  unfold step at h
  dsimp only at h
  cases stack with
  | nil => rfl
  | cons top below =>
    dsimp only at h
    split at h
    · split at h <;> cases h
    · split at h
      · split at h <;> cases h
      · split at h <;> cases h

theorem step_matched {s : Symbol} (h : step g table c = .matched s next) :
    ∃ below, c.stack = s :: below ∧ s ≠ Symbol.endMarker ∧
      s = c.input.headD Symbol.endMarker ∧ next = ⟨below, c.input.tail⟩ := by
  obtain ⟨stack, input⟩ := c
  unfold step at h
  dsimp only at h
  cases stack with
  | nil => cases h
  | cons top below =>
    dsimp only at h
    split at h
    · split at h <;> cases h
    · rename_i ne
      split at h
      · split at h <;> cases h
      · split at h
        · rename_i here
          cases h
          exact ⟨below, by rw [here], here ▸ ne, rfl, rfl⟩
        · cases h

theorem step_expanded {p : Production} (h : step g table c = .expanded p next) :
    ∃ top below, c.stack = top :: below ∧ top ≠ Symbol.endMarker ∧ top ∈ g.nonterminals ∧
      table.get? (top, c.input.headD Symbol.endMarker) = some p ∧
      next = ⟨p.body ++ below, c.input⟩ := by
  obtain ⟨stack, input⟩ := c
  unfold step at h
  dsimp only at h
  cases stack with
  | nil => cases h
  | cons top below =>
    dsimp only at h
    split at h
    · split at h <;> cases h
    · rename_i ne
      split at h
      · rename_i declared
        split at h
        · cases h
        · rename_i found
          cases h
          exact ⟨top, below, rfl, ne, isNonterminal_iff.mp declared, found, rfl⟩
      · split at h <;> cases h

theorem step_terminal {s : Symbol} {below rest : List Symbol} (ne : s ≠ Symbol.endMarker)
    (plain : s ∉ g.nonterminals) :
    step g table ⟨s :: below, s :: rest⟩ = .matched s ⟨below, rest⟩ := by
  have other : g.isNonterminal s = false := by
    rw [← Bool.not_eq_true, isNonterminal_iff]
    exact plain
  simp [step, ne, other]

theorem step_nonterminal {s : Symbol} {p : Production} {below input : List Symbol}
    (ne : s ≠ Symbol.endMarker) (member : s ∈ g.nonterminals)
    (cell : table.get? (s, input.headD Symbol.endMarker) = some p) :
    step g table ⟨s :: below, input⟩ = .expanded p ⟨p.body ++ below, input⟩ := by
  simp only [step, ne, ↓reduceIte, isNonterminal_iff.mpr member, cell]

end Steps

theorem nonterminal_ne_endMarker (d : g.Declared) {s : Symbol} (h : s ∈ g.nonterminals) :
    s ≠ Symbol.endMarker := by
  intro eq
  exact d.endMarker_not_nonterminal (eq ▸ h)

/-- What a table must hold for a run to be a derivation. -/
def Owned (g : Grammar) (table : Table) : Prop :=
  ∀ s a p, table.get? (s, a) = some p → p ∈ g.productions ∧ p.lhs = s

theorem owned_build {ff : FirstFollow} (built : build g ff = .ok table) : Owned g table := by
  intro s a p found
  obtain ⟨rule, row, _⟩ := (get?_build built).mp found
  exact ⟨rule, row⟩

/-- A run that accepts spells a forest over the symbols of the stack. -/
theorem forest_of_moves (d : g.Declared) (owned : Owned g table) {c last done : Config}
    {ps : List Production} (moves : Moves g table c ps last)
    (accept : step g table last = .accept done) {stack tokens : List Symbol}
    (hs : c.stack = stack ++ [Symbol.endMarker]) (clean : Symbol.endMarker ∉ stack)
    (hi : c.input = tokens ++ [Symbol.endMarker]) (terminal : ∀ s ∈ tokens, s ∈ g.terminals) :
    ∃ f : Forest, f.Conforms g ∧ f.roots = stack ∧ f.yield = tokens ∧ f.preorder = ps := by
  induction moves generalizing stack tokens with
  | refl c =>
    obtain ⟨below, top, finished⟩ := step_accept accept
    have empty : stack = [] := by
      cases stack with
      | nil => rfl
      | cons x rest =>
        rw [hs] at top
        exact absurd ((List.cons.inj top).1 ▸ List.mem_cons_self) clean
    have read : tokens = [] := by
      cases tokens with
      | nil => rfl
      | cons a rest =>
        rw [hi] at finished
        exact absurd finished (d.ne_endMarker (terminal a List.mem_cons_self))
    exact ⟨.nil, trivial, empty.symm, read.symm, rfl⟩
  | @matched c next last s ps first _ ih =>
    obtain ⟨below, top, ne, here, rfl⟩ := step_matched first
    cases stack with
    | nil => exact absurd (List.cons.inj (hs.symm.trans top)).1.symm ne
    | cons x rest =>
      cases tokens with
      | nil =>
        rw [hi] at here
        exact absurd here ne
      | cons a more =>
        obtain ⟨rfl, tail⟩ := List.cons.inj (hs.symm.trans top)
        rw [hi] at here ih
        have here : x = a := here
        obtain ⟨f, conforms, roots, yield, pre⟩ := ih accept tail.symm
          (fun h => clean (List.mem_cons_of_mem x h)) rfl
          (fun s hs => terminal s (List.mem_cons_of_mem a hs))
        refine ⟨.leaf x f, ⟨here ▸ terminal a List.mem_cons_self, conforms⟩, ?_, ?_, pre⟩
        · rw [Forest.roots, roots]
        · rw [Forest.yield, yield, here]
  | @expanded c next last p ps first _ ih =>
    obtain ⟨top, below, split, ne, _, found, rfl⟩ := step_expanded first
    obtain ⟨rule, row⟩ := owned _ _ _ found
    cases stack with
    | nil => exact absurd (List.cons.inj (hs.symm.trans split)).1.symm ne
    | cons x rest =>
      obtain ⟨rfl, rfl⟩ := List.cons.inj (hs.symm.trans split)
      have bodyClean : Symbol.endMarker ∉ p.body ++ rest := by
        rw [List.mem_append]
        rintro (h | h)
        · exact d.unmarked p rule (List.mem_filter.mp h).1
        · exact clean (List.mem_cons_of_mem x h)
      obtain ⟨f, conforms, roots, yield, pre⟩ := ih accept
        (List.append_assoc p.body rest [Symbol.endMarker]).symm bodyClean hi terminal
      obtain ⟨children, others, rfl, hc, ho⟩ := Forest.append_of_roots roots
      rw [Forest.conforms_append] at conforms
      refine ⟨.node p children others, ⟨rule, hc, conforms⟩, ?_, ?_, ?_⟩
      · rw [Forest.roots, row, ho]
      · rw [Forest.yield, ← Forest.yield_append, yield]
      · rw [Forest.preorder, ← Forest.preorder_append, pre]

/-- The run follows a forest that stands on top of the stack. -/
theorem moves_forest (d : g.Declared) (built : build g (FirstFollow.ofGrammar g) = .ok table)
    {f : Forest} (conforms : f.Conforms g) {rest : List Symbol}
    (fits : f.Fits (FirstFollow.ofGrammar g).follow rest) (below : List Symbol) :
    Moves g table ⟨f.roots ++ below, f.yield ++ rest⟩ f.preorder ⟨below, rest⟩ := by
  induction f generalizing rest below with
  | nil => exact .refl _
  | leaf s others ih =>
    have reads : step g table ⟨s :: (others.roots ++ below), s :: (others.yield ++ rest)⟩ =
        .matched s ⟨others.roots ++ below, others.yield ++ rest⟩ :=
      step_terminal (d.ne_endMarker conforms.1) (d.terminal_not_nonterminal conforms.1)
    exact .matched reads (ih conforms.2 fits below)
  | node p children others ihc iho =>
    obtain ⟨rule, body, hc, ho⟩ := conforms
    obtain ⟨after, fitsOthers⟩ := fits
    have member := d.lhs_mem rule
    -- the lookahead is the beginning of the children, or comes from what is behind them
    have cell : table.get? (p.lhs, (children.yield ++ (others.yield ++ rest)).headD
        Symbol.endMarker) = some p := by
      refine (get?_build built).mpr ⟨rule, rfl, mem_aheadOf.mpr ?_⟩
      have inner : beginning children.yield ∈ firstOf g (firstSets g) p.rhs := by
        refine mem_firstOf_of_filter ?_
        have first := beginning_mem_firstOf d hc
        rw [body] at first
        exact first
      cases hy : children.yield with
      | nil =>
        obtain ⟨a, tail, same, ha⟩ := after
        rw [hy] at inner
        rw [List.nil_append, same]
        exact Or.inr ⟨inner, ha⟩
      | cons a tail =>
        have visible := beginning_ne_epsilon d (Forest.yield_terminals hc) (by simp [hy])
        rw [hy] at inner visible
        exact Or.inl ⟨inner, visible⟩
    have expand : step g table ⟨p.lhs :: (others.roots ++ below),
        children.yield ++ (others.yield ++ rest)⟩ =
        .expanded p ⟨children.roots ++ (others.roots ++ below),
          children.yield ++ (others.yield ++ rest)⟩ := by
      rw [body]
      exact step_nonterminal (nonterminal_ne_endMarker d member) member cell
    have whole : p.body = [] ++ children.roots := body.symm
    have fitsChildren := fits_body d rule whole hc after
    rw [Forest.roots, Forest.yield, List.append_assoc, List.cons_append]
    exact .expanded expand
      ((ihc hc fitsChildren (others.roots ++ below)).trans (iho ho fitsOthers below))

end TableParsing.Predictive
