import TableParsing.Proofs.ShiftReduce.Language
import TableParsing.Proofs.ShiftReduce.Recasting

/- Runs of the shift-reduce engine on a grammar and on its other form. With sets of following
   symbols that correspond, both runs take the same steps: their stacks are paths over the same
   labels, and what a cell holds depends on the labels only. So both end after the same number of
   steps, and with the same verdict, or neither ends. -/
namespace TableParsing.Recasting
open ShiftReduce Automaton

/-- Two configurations with the same labels on their stacks and the same input left. -/
structure Mirrors (r : Recasting) (g : Grammar) (c c' : Config) : Prop where
  paths : ∃ read, Path (automaton g) c.stack read ∧
    Path (automaton (r.grammar g)) c'.stack (read.map r.symbol)
  input : c'.input = c.input.map r.symbol

variable (r : Recasting) {g : Grammar}

theorem mirrors_initial (tokens : List Symbol) :
    r.Mirrors g (initial tokens) (initial (tokens.map r.symbol)) := by
  refine ⟨⟨[], .base, .base⟩, ?_⟩
  simp [initial, r.endMarker]

section Cells

variable (d : g.Declared) (d' : (r.grammar g).Declared) {follow follow' : SymbolSets}
  {t t' : Tables} (built : build g follow = .ok t)
  (built' : build (r.grammar g) follow' = .ok t') {n n' : Int} {below below' : List Int}
  {read : List Symbol} (path : Path (automaton g) (n :: below) read)
  (path' : Path (automaton (r.grammar g)) (n' :: below') (read.map r.symbol)) {ahead : Symbol}
include d d' built built' path path'

theorem action_accept (found : t.action.get? (n, ahead) = some .accept) :
    t'.action.get? (n', r.symbol ahead) = some .accept := by
  cases claimed_of_action d built path found with
  | accept item =>
    have start : read.map r.symbol = [(r.grammar g).start] := by
      rw [item.start_read d]
      rfl
    rw [start] at path'
    rw [r.endMarker]
    exact exists_accept d' built' path' (.advance .start)

theorem action_shift {target : Int} (found : t.action.get? (n, ahead) = some (.shift target)) :
    ∃ target' : Nat, t'.action.get? (n', r.symbol ahead) = some (.shift target') ∧
      Path (automaton g) (target :: n :: below) (read ++ [ahead]) ∧
      Path (automaton (r.grammar g)) ((target' : Int) :: n' :: below')
        ((read ++ [ahead]).map r.symbol) := by
  cases claimed_of_action d built path found with
  | shift item terminal move =>
    have item' := r.valid d item
    rw [List.map_cons] at item'
    obtain ⟨target', found', longer⟩ :=
      exists_shift d' built' path' item' (r.symbol_mem_terminals.mpr terminal)
    refine ⟨target', found', .step path move, ?_⟩
    simpa using longer

/-- Acceptance has its cell in both tables or in neither. -/
theorem action_accept_of_grammar (found : t'.action.get? (n', r.symbol ahead) = some .accept) :
    t.action.get? (n, ahead) = some .accept := by
  generalize marker : r.symbol ahead = ahead' at found
  cases claimed_of_action d' built' path' found with
  | accept item' =>
    obtain rfl := r.symbol_eq_endMarker.mp marker
    have start : read.map r.symbol = [g.start].map r.symbol := item'.start_read d'
    rw [r.map_inj.mp start] at path
    exact exists_accept d built path (.advance .start)

theorem action_reduce (forth : r.Forth g follow follow') {p : Production}
    (found : t.action.get? (n, ahead) = some (.reduce p)) :
    ∃ q, q.lhs = r.symbol p.lhs ∧ q.body = p.body.map r.symbol ∧
      t'.action.get? (n', r.symbol ahead) = some (.reduce q) := by
  obtain ⟨reduces, _⟩ := reduces_of_claimed d (claimed_of_action d built path found)
  obtain ⟨q, own, body, claimed⟩ :=
    exists_claimed_of_reduces d' (m := automaton (r.grammar g)) (r.reduces d forth reduces) n'
  refine ⟨q, own, body, ?_⟩
  rcases action_of_claimed d' built' path' claimed with found' | ⟨accepts, _⟩
  · exact found'
  · cases found.symm.trans (r.action_accept_of_grammar d d' built built' path path' accepts)

/-- What is claimed in the one table is claimed in the other. -/
theorem exists_action (back : r.Back g follow follow') {ahead' : Symbol} {act : Action}
    (same : r.symbol ahead = ahead') (found' : t'.action.get? (n', ahead') = some act) :
    ∃ old, t.action.get? (n, ahead) = some old := by
  cases act with
  | accept =>
    rw [← same] at found'
    exact ⟨_, r.action_accept_of_grammar d d' built built' path path' found'⟩
  | reduceUnknown => cases claimed_of_action d' built' path' found'
  | reduce q =>
    obtain ⟨reduces', _⟩ := reduces_of_claimed d' (claimed_of_action d' built' path' found')
    obtain ⟨labels, symbol, lhs, body, hlabels, hsymbol, _, _, reduces⟩ :=
      r.exists_reduces d back reduces'
    rw [r.map_inj.mp hlabels, r.injective (hsymbol.trans same.symm)] at reduces
    obtain ⟨p, _, _, claimed⟩ := exists_claimed_of_reduces d (m := automaton g) reduces n
    rcases action_of_claimed d built path claimed with own | ⟨accepts, _⟩
    · exact ⟨_, own⟩
    · exact ⟨_, accepts⟩
  | shift target =>
    cases claimed_of_action d' built' path' found' with
    | shift item' terminal' _ =>
      obtain ⟨labels, _, _, todo, hlabels, _, _, next, item⟩ := r.exists_valid d item'
      obtain ⟨x, rest, rfl, head, _⟩ := List.map_eq_cons_iff.mp next
      rw [r.map_inj.mp hlabels, r.injective (head.trans same.symm)] at item
      rw [← same] at terminal'
      obtain ⟨k, own, _⟩ := exists_shift d built path item (r.symbol_mem_terminals.mp terminal')
      exact ⟨_, own⟩

theorem action_none (back : r.Back g follow follow') (free : t.action.get? (n, ahead) = none) :
    t'.action.get? (n', r.symbol ahead) = none := by
  cases found' : t'.action.get? (n', r.symbol ahead) with
  | none => rfl
  | some act =>
    obtain ⟨old, found⟩ := r.exists_action d d' built built' path path' back rfl found'
    cases free.symm.trans found

end Cells

section Runs

variable (d : g.Declared) (d' : (r.grammar g).Declared) {follow follow' : SymbolSets}
  {t t' : Tables} (built : build g follow = .ok t)
  (built' : build (r.grammar g) follow' = .ok t') (forth : r.Forth g follow follow')
  (back : r.Back g follow follow')
include d d' built built' forth back

/-- Everything that a step can do, the other one does as well. -/
theorem step_mirrors {c c' : Config} (h : r.Mirrors g c c') :
    (∃ k next k' next', step t c = .shift k next ∧ step t' c' = .shift k' next' ∧
      r.Mirrors g next next') ∨
    (∃ p next p' next', step t c = .reduce p next ∧ step t' c' = .reduce p' next' ∧
      r.Mirrors g next next') ∨
    (step t c = .accept ∧ step t' c' = .accept) ∨
    (∃ why why', step t c = .reject why ∧ step t' c' = .reject why') ∨
    ∃ why why', step t c = .fault why ∧ step t' c' = .fault why' := by
  obtain ⟨stack, input⟩ := c
  obtain ⟨stack', input'⟩ := c'
  obtain ⟨⟨read, path, path'⟩, same⟩ := h
  dsimp only at path path' same
  subst same
  obtain ⟨n, below, rfl⟩ := path.cons
  obtain ⟨n', below', rfl⟩ := path'.cons
  cases input with
  | nil => exact Or.inr (Or.inr (Or.inr (Or.inr ⟨_, _, rfl, rfl⟩)))
  | cons ahead rest =>
    rw [List.map_cons]
    cases found : t.action.get? (n, ahead) with
    | none =>
      have none' := r.action_none d d' built built' path path' back found
      exact Or.inr (Or.inr (Or.inr (Or.inl ⟨_, _, step_reject found, step_reject none'⟩)))
    | some act =>
      cases act with
      | shift target =>
        obtain ⟨target', found', longer, longer'⟩ :=
          r.action_shift d d' built built' path path' found
        exact Or.inl ⟨_, _, _, _, step_shift found, step_shift found', ⟨_, longer, longer'⟩, rfl⟩
      | reduce p =>
        obtain ⟨q, own, body, found'⟩ :=
          r.action_reduce d d' built built' path path' forth found
        obtain ⟨before, rule, whole, _, target, exposed, left, popped, entered, longer⟩ :=
          reduce_inv d built path found
        obtain ⟨before', rule', whole', _, target', exposed', left', popped', entered', longer'⟩ :=
          reduce_inv d' built' path' found'
        have cut : before' = before.map r.symbol := by
          rw [whole, List.map_append, body] at whole'
          exact (List.append_cancel_right whole').symm
        rw [cut, own] at longer'
        refine Or.inr (Or.inl ⟨_, _, _, _, step_reduce found popped entered,
          step_reduce found' popped' entered', ⟨_, longer, ?_⟩, rfl⟩)
        simpa using longer'
      | reduceUnknown => cases claimed_of_action d built path found
      | accept =>
        have found' := r.action_accept d d' built built' path path' found
        exact Or.inr (Or.inr (Or.inl ⟨step_accept found, step_accept found'⟩))

/-- Two runs in lockstep end together and with the same verdict. -/
theorem outcome_mirrors {c c' : Config} (h : r.Mirrors g c c') (limit : Nat) :
    (outcome t limit c).map (fun o => decide (o = .accepted)) =
      (outcome t' limit c').map fun o => decide (o = .accepted) := by
  induction limit generalizing c c' with
  | zero => rfl
  | succ limit ih =>
    unfold outcome
    rcases r.step_mirrors d d' built built' forth back h with
      ⟨_, next, _, next', first, first', later⟩ | ⟨_, next, _, next', first, first', later⟩ |
      ⟨first, first'⟩ | ⟨_, _, first, first'⟩ | ⟨_, _, first, first'⟩
    all_goals rw [first, first']
    · exact ih later
    · exact ih later
    all_goals rfl

theorem ends_mirrors (tokens : List Symbol) :
    (outcome t (stepLimit t tokens) (initial tokens)).map (fun o => decide (o = .accepted)) =
      (outcome t' (stepLimit t' (tokens.map r.symbol)) (initial (tokens.map r.symbol))).map
        fun o => decide (o = .accepted) := by
  have lockstep := r.outcome_mirrors d d' built built' forth back (r.mirrors_initial tokens)
  cases ends : outcome t (stepLimit t tokens) (initial tokens) with
  | some o =>
    have same := lockstep (stepLimit t tokens)
    rw [ends] at same
    obtain ⟨o', ends', verdict⟩ := Option.map_eq_some_iff.mp same.symm
    rw [outcome_stepLimit ends', Option.map_some, Option.map_some, verdict]
  | none =>
    cases ends' : outcome t' (stepLimit t' (tokens.map r.symbol))
        (initial (tokens.map r.symbol)) with
    | none => rfl
    | some o' =>
      have same := lockstep (stepLimit t' (tokens.map r.symbol))
      rw [ends'] at same
      obtain ⟨o, found, _⟩ := Option.map_eq_some_iff.mp same
      cases ends.symm.trans (outcome_stepLimit found)

/-- Both engines give the same verdict on an input, or neither gives one. -/
theorem run_mirrors (tokens : List Symbol) :
    (run g t tokens).map (fun o => decide (o = .accepted)) =
      (run (r.grammar g) t' (tokens.map r.symbol)).map fun o => decide (o = .accepted) := by
  have declared : (∀ s ∈ tokens.map r.symbol, s ∈ (r.grammar g).terminals) ↔
      ∀ s ∈ tokens, s ∈ g.terminals := by
    simp
  unfold run
  cases foreign : undeclared? g tokens with
  | none =>
    have own := undeclared?_eq_none.mp foreign
    rw [undeclared?_eq_none.mpr (declared.mpr own)]
    exact r.ends_mirrors d d' built built' forth back tokens
  | some s =>
    cases foreign' : undeclared? (r.grammar g) (tokens.map r.symbol) with
    | some s' => rfl
    | none =>
      have own := declared.mp (undeclared?_eq_none.mp foreign')
      cases foreign.symm.trans (undeclared?_eq_none.mpr own)

end Runs

end TableParsing.Recasting
