import TableParsing.Proofs.Automaton.Completion
import TableParsing.Proofs.ShiftReduce.Language

/- When shift-reduce runs end. A run ends exactly if it never circles. With a grammar whose
   nonterminals are all productive and reachable no run circles: whatever is on the stack can be
   completed to a sentence, reductions that are made without end would also be made before such a
   completion, and there the run accepts. -/
namespace TableParsing.ShiftReduce
open Automaton

variable {g : Grammar} {t : Tables}

section Completions

variable (d : g.Declared) (built : build g (FirstFollow.ofGrammar g).follow = .ok t)
include d built

/-- When the body of an item has been read, the run accepts what completes the item. -/
theorem accepts_of_awaits {read done todo after : List Symbol} {lhs : Symbol}
    (h : Awaits g read lhs done todo after) {stack : List Int}
    (path : Path (automaton g) stack (read ++ todo)) :
    Accepts t ⟨stack, after ++ [Symbol.endMarker]⟩ := by
  induction h generalizing stack with
  | start =>
    obtain ⟨n, below, rfl⟩ := path.cons
    exact ⟨[], _, .refl _, step_accept (exists_accept d built path (.advance .start))⟩
  | @predict read lhs done after p f caller rule conforms ih =>
    have item : Awaits g read p.lhs [] p.body (f.yield ++ after) := .predict caller rule conforms
    have ne := Augmented.start_name_free (Or.inl (d.lhs_mem rule))
    obtain ⟨ahead, rest, same, follows⟩ := item.admits d ne
    rw [same]
    rcases exists_step_reduce d built rule path item.valid follows rest with
      accept | ⟨q, entered, _, _, reduces, longer⟩
    · exact ⟨[], _, .refl _, accept⟩
    · have first : Moves t ⟨stack, ahead :: rest⟩ [q] ⟨entered, ahead :: rest⟩ :=
        .reduce reduces (.refl _)
      have behind := caller.advance
      have expected : Valid g (read ++ [p.lhs]) lhs (done ++ [p.lhs]) (f.roots ++ []) := by
        rw [List.append_nil]
        exact behind.valid
      rw [← same] at first ⊢
      rw [List.append_assoc] at first ⊢
      rcases moves_forest d built conforms (behind.fits d conforms) longer expected with
        accepts | ⟨ps, last, moves, reached⟩
      · exact accepts.of_moves first
      · rw [List.append_assoc, List.singleton_append] at reached
        exact (ih reached).of_moves (first.trans moves)
  | advance _ ih =>
    rw [List.append_assoc, List.singleton_append] at path
    exact ih path

theorem accepts_of_completes {read rest : List Symbol} (h : Completes g read rest)
    {stack : List Int} (path : Path (automaton g) stack read) :
    Accepts t ⟨stack, rest ++ [Symbol.endMarker]⟩ := by
  obtain ⟨lhs, done, f, after, item, conforms, rfl⟩ := h
  have expected : Valid g read lhs done (f.roots ++ []) := by
    rw [List.append_nil]
    exact item.valid
  rw [List.append_assoc]
  rcases moves_forest d built conforms (item.fits d conforms) path expected with
    accepts | ⟨ps, last, moves, reached⟩
  · exact accepts
  · exact (accepts_of_awaits d built item reached).of_moves moves

/-- Where a left-hand side can be completed, its body is reduced under the lookahead, or the run
accepts. -/
theorem step_of_completes {read rest : List Symbol} {p : Production}
    (h : Completes g (read ++ [p.lhs]) rest) (rule : p ∈ g.productions) {stack : List Int}
    (path : Path (automaton g) stack (read ++ p.body)) {ahead : Symbol} {tail : List Symbol}
    (first : rest ++ [Symbol.endMarker] = ahead :: tail) (behind : List Symbol) :
    step t ⟨stack, ahead :: behind⟩ = .accept ∨ ∃ q entered,
      step t ⟨stack, ahead :: behind⟩ = .reduce q ⟨entered, ahead :: behind⟩ ∧
      Path (automaton g) entered (read ++ [p.lhs]) := by
  have item := h.awaits_body rule
  obtain ⟨_, _, same, follows⟩ :=
    item.admits d (Augmented.start_name_free (Or.inl (d.lhs_mem rule)))
  obtain ⟨rfl, _⟩ := List.cons.inj (first.symm.trans same)
  rcases exists_step_reduce d built rule path item.valid follows behind with
    accept | ⟨q, entered, _, _, reduces, longer⟩
  · exact Or.inl accept
  · exact Or.inr ⟨q, entered, reduces, longer⟩

theorem reduce_of_completes {read tail : List Symbol} {p : Production} {ahead : Symbol}
    (h : Completes g (read ++ [p.lhs]) (ahead :: tail)) (rule : p ∈ g.productions)
    {stack : List Int} (path : Path (automaton g) stack (read ++ p.body))
    (behind : List Symbol) :
    ∃ q entered, step t ⟨stack, ahead :: behind⟩ = .reduce q ⟨entered, ahead :: behind⟩ ∧
      Path (automaton g) entered (read ++ [p.lhs]) := by
  rcases step_of_completes d built h rule path rfl behind with accept | reduces
  · obtain ⟨marker, _⟩ := accept_inv d built path accept
    exact absurd marker (d.ne_endMarker (h.terminals ahead List.mem_cons_self))
  · exact reduces

end Completions

/-- Reductions that lead from the labels `read` to `last` can be made above any other labels, before
any terminal with which the result can be completed. -/
def Replays (g : Grammar) (t : Tables) (k : Nat) (read last : List Symbol) : Prop :=
  ∀ base rest, Completes g (base ++ last) rest → Completes g (base ++ read) rest ∧
    ∀ ahead tail, rest = ahead :: tail → ∀ stack, Path (automaton g) stack (base ++ read) →
      ∀ behind, ∃ entered,
        reduceTimes t k ⟨stack, ahead :: behind⟩ = some ⟨entered, ahead :: behind⟩

section Endless

variable (d : g.Declared) (built : build g (FirstFollow.ofGrammar g).follow = .ok t)
include d built

theorem exists_replays {k : Nat} {c last : Config} {read : List Symbol}
    (path : Path (automaton g) c.stack read) (h : reduceTimes t k c = some last) :
    ∃ labels, Path (automaton g) last.stack labels ∧ Replays g t k read labels := by
  induction k generalizing c read with
  | zero =>
    obtain rfl := Option.some.inj h
    refine ⟨read, path, ?_⟩
    intro base rest completes
    exact ⟨completes, fun _ _ _ stack _ _ => ⟨stack, rfl⟩⟩
  | succ k ih =>
    obtain ⟨p, next, first, later⟩ := reduceTimes_succ.mp h
    obtain ⟨before, rule, rfl, _, _, longer⟩ := path_step_reduce d built path first
    obtain ⟨labels, reached, replays⟩ := ih longer later
    refine ⟨labels, reached, ?_⟩
    intro base rest completes
    obtain ⟨after, again⟩ := replays base rest completes
    rw [← List.append_assoc] at after again ⊢
    refine ⟨after.body rule, ?_⟩
    rintro ahead tail rfl stack here behind
    obtain ⟨q, entered, reduces, there⟩ := reduce_of_completes d built after rule here behind
    obtain ⟨last', more⟩ := again ahead tail rfl entered there behind
    exact ⟨last', reduceTimes_succ.mpr ⟨q, _, reduces, more⟩⟩

/-- Before a given terminal, reductions that go on forever stop being completable. -/
theorem exists_bound {c : Config} {read : List Symbol} (path : Path (automaton g) c.stack read)
    (ahead : Symbol) : ∃ n, ∀ k ≥ n, ∀ labels, Replays g t k read labels →
      ∀ tail, ¬ Completes g labels (ahead :: tail) := by
  by_cases some : ∃ tail, Completes g read (ahead :: tail)
  · obtain ⟨tail, completes⟩ := some
    obtain ⟨n, accepted⟩ := (accepts_of_completes d built completes path).outcome
    refine ⟨n, ?_⟩
    intro k le labels replays other completes'
    -- the same reductions would be made before the accepted rest, and outlast it
    obtain ⟨_, again⟩ := replays [] _ completes'
    obtain ⟨entered, reached⟩ :=
      again ahead other rfl c.stack path (tail ++ [Symbol.endMarker])
    rw [List.cons_append, outcome_none_of_reduceTimes reached le] at accepted
    cases accepted
  · refine ⟨0, ?_⟩
    intro k _ labels replays tail completes
    exact some ⟨tail, (replays [] _ completes).1⟩

/-- Reductions that go on forever come to labels that only the end of the input completes. -/
theorem exists_closing {c : Config} {read : List Symbol} (path : Path (automaton g) c.stack read)
    (forever : Forever t c) : ∃ k last labels, reduceTimes t k c = some last ∧
      Path (automaton g) last.stack labels ∧ ∀ rest, Completes g labels rest → rest = [] := by
  -- there are finitely many terminals, so one bound serves for all of them
  choose bound bounded using exists_bound d built path
  let k := g.terminals.toList.toFinset.sup bound
  obtain ⟨last, reached⟩ := forever k
  obtain ⟨labels, there, replays⟩ := exists_replays d built path reached
  refine ⟨k, last, labels, reached, there, ?_⟩
  intro rest completes
  cases rest with
  | nil => rfl
  | cons ahead tail =>
    have terminal := completes.terminals ahead List.mem_cons_self
    have le : bound ahead ≤ k := Finset.le_sup (f := bound) (List.mem_toFinset.mpr terminal)
    exact absurd completes (bounded ahead k le labels replays tail)

/-- From such labels the reductions lead to a stack at which the end of the input is accepted. -/
theorem exists_accepting (productive : g.Productive) {c : Config} {read : List Symbol}
    (path : Path (automaton g) c.stack read) (forever : Forever t c)
    (closing : ∀ rest, Completes g read rest → rest = []) :
    ∃ k last labels, reduceTimes t k c = some last ∧ Path (automaton g) last.stack labels ∧
      (∀ rest, Completes g labels rest → rest = []) ∧
      step t ⟨last.stack, [Symbol.endMarker]⟩ = .accept := by
  obtain ⟨rest, completes⟩ := exists_completes d productive (finished_automaton g) path
  obtain rfl := closing rest completes
  obtain ⟨n, accepted⟩ := (accepts_of_completes d built completes path).outcome
  -- the induction is on the length of the accepting run, which these reductions are the start of
  clear completes
  induction n generalizing c read with
  | zero => cases accepted
  | succ n ih =>
    obtain ⟨next, one⟩ := forever 1
    obtain ⟨p, first⟩ := reduceTimes_one.mp one
    obtain ⟨before, rule, rfl, _, _, longer⟩ := path_step_reduce d built path first
    have closing' : ∀ rest, Completes g (before ++ [p.lhs]) rest → rest = [] := by
      intro rest completes
      exact closing rest (completes.body rule)
    obtain ⟨rest, completes⟩ := exists_completes d productive (finished_automaton g) longer
    obtain rfl := closing' rest completes
    rcases step_of_completes d built completes rule path rfl [] with
      accept | ⟨q, entered, reduces, there⟩
    · exact ⟨0, c, _, rfl, path, closing, accept⟩
    · obtain rfl := there.unique longer
      rw [List.nil_append, outcome, reduces] at accepted
      obtain ⟨k, last, labels, later, found⟩ :=
        ih longer (forever.later one) closing' accepted
      exact ⟨k + 1, last, labels, reduceTimes_succ.mpr ⟨p, next, first, later⟩, found⟩

/-- Reductions that go on from there come back to the same stack, under a lookahead that follows
the start symbol and is not the end marker. -/
theorem exists_return (productive : g.Productive) {c : Config} {read : List Symbol}
    (path : Path (automaton g) c.stack read) (forever : Forever t c)
    (closing : ∀ rest, Completes g read rest → rest = [])
    (accept : step t ⟨c.stack, [Symbol.endMarker]⟩ = .accept) :
    ∃ k > 0, reduceTimes t k c = some c ∧
      ∃ ahead ≠ Symbol.endMarker, ahead ∈ (FirstFollow.ofGrammar g).follow.getD g.start ∅ := by
  obtain ⟨next, one⟩ := forever 1
  obtain ⟨p, first⟩ := reduceTimes_one.mp one
  obtain ⟨before, rule, rfl, ⟨ahead, rest, input, _⟩, _, longer⟩ :=
    path_step_reduce d built path first
  obtain ⟨k, last, labels, later, there, _, accept'⟩ :=
    exists_accepting d built productive longer (forever.later one)
      fun rest completes => closing rest (completes.body rule)
  have round : reduceTimes t (k + 1) c = some last :=
    reduceTimes_succ.mpr ⟨p, next, first, later⟩
  have same : last = c := by
    have stack : last.stack = c.stack := by
      rw [(accept_inv d built there accept').2] at there
      rw [(accept_inv d built path accept).2] at path
      exact there.unique path
    have input : last.input = c.input := (reduceTimes_append round []).1
    cases last
    cases c
    simp_all
  rw [same] at round
  refine ⟨k + 1, by omega, round, ahead, ?_, ?_⟩
  · -- at the end marker the run would have accepted instead
    rintro rfl
    obtain ⟨stack, _⟩ := c
    obtain ⟨n, below, rfl⟩ : ∃ n below, stack = n :: below := path.cons
    obtain rfl : _ = Symbol.endMarker :: rest := input
    cases (step_accept_congr accept rest).symm.trans first
  · -- the last reduction of the round entered the stack of the start symbol
    obtain ⟨middle, q, before', back⟩ := reduceTimes_last round
    obtain ⟨labels', there', _⟩ := exists_replays d built path before'
    obtain ⟨left, _, _, ⟨ahead', rest', input', follows⟩, same', onto⟩ :=
      path_step_reduce d built there' back
    have single := (accept_inv d built onto accept).2
    obtain ⟨_, start⟩ := List.append_inj' (single.trans (List.nil_append _).symm) rfl
    have own : q.lhs = g.start := by simpa using start
    rw [← same', input] at input'
    rw [(List.cons.inj input').1, ← own]
    exact follows

/-- No stack that spells the start symbol is reduced to itself again, where the start symbol can be
completed by a terminal. -/
theorem not_return {c : Config} {read : List Symbol} (path : Path (automaton g) c.stack read)
    (accept : step t ⟨c.stack, [Symbol.endMarker]⟩ = .accept) {k : Nat} (positive : k > 0)
    (round : reduceTimes t k c = some c) {base tail : List Symbol} {ahead : Symbol} :
    ¬ Completes g (base ++ [g.start]) (ahead :: tail) := by
  intro completes
  have single : ∀ {labels}, Path (automaton g) c.stack labels → labels = [g.start] := by
    intro labels there
    exact (accept_inv d built there accept).2
  obtain rfl := single path
  obtain ⟨lhs, done, todo, item⟩ := completes.valid
  obtain ⟨stack, here⟩ := exists_path d (finished_automaton g) item
  obtain ⟨n, accepted⟩ := (accepts_of_completes d built completes here).outcome
  -- going round `n` times takes more steps than the run that accepts
  obtain ⟨labels, there, replays⟩ := exists_replays d built path (reduceTimes_repeat round n)
  obtain rfl := single there
  obtain ⟨_, again⟩ := replays base _ completes
  obtain ⟨entered, reached⟩ := again ahead tail rfl stack here (tail ++ [Symbol.endMarker])
  have enough : n ≤ n * k := Nat.le_mul_of_pos_right n positive
  rw [List.cons_append, outcome_none_of_reduceTimes reached enough] at accepted
  cases accepted

theorem not_forever (productive : g.Productive) (reachable : g.Reachable) {c : Config}
    {read : List Symbol} (path : Path (automaton g) c.stack read) : ¬ Forever t c := by
  intro forever
  obtain ⟨_, middle, labels, reached, there, closing⟩ := exists_closing d built path forever
  have onward := forever.later reached
  obtain ⟨_, last, labels', reached', there', closing', accept⟩ :=
    exists_accepting d built productive there onward closing
  obtain ⟨k, positive, round, ahead, visible, follows⟩ :=
    exists_return d built productive there' (onward.later reached') closing' accept
  obtain ⟨base, rest, some, completes⟩ := exists_context productive d reachable follows visible
  cases rest with
  | nil => exact some rfl
  | cons b tail => exact not_return d built there' accept positive round completes

theorem straight_of_reachable (productive : g.Productive) (reachable : g.Reachable)
    (tokens : List Symbol) : Straight t (initial tokens) := by
  intro ps last moves circles
  obtain ⟨f, spells, _⟩ := spells_moves d built moves (spells_initial tokens)
  exact not_forever d built productive reachable spells.path (forever_of_circles circles)

end Endless

/-- The run on an input ends, and ends with a verdict. -/
def Answers (g : Grammar) (t : Tables) (tokens : List Symbol) : Prop :=
  run g t tokens = some .accepted ∨ ∃ why, run g t tokens = some (.rejected why)

theorem answers_of_undeclared {tokens : List Symbol} {s : Symbol}
    (foreign : undeclared? g tokens = some s) : Answers g t tokens := by
  refine Or.inr ⟨.undeclared s, ?_⟩
  unfold run
  rw [foreign]

/-- The run on declared terminals answers if it ends at all. -/
theorem answers_iff_ends (d : g.Declared)
    (built : build g (FirstFollow.ofGrammar g).follow = .ok t) {tokens : List Symbol}
    (terminal : ∀ s ∈ tokens, s ∈ g.terminals) :
    Answers g t tokens ↔ ∃ n o, outcome t n (initial tokens) = some o := by
  unfold Answers
  rw [run_of_declared terminal]
  constructor
  · rintro (accepted | ⟨why, rejected⟩)
    · exact ⟨_, _, accepted⟩
    · exact ⟨_, _, rejected⟩
  · rintro ⟨n, o, ends⟩
    have within := outcome_stepLimit ends
    cases o with
    | accepted => exact Or.inl within
    | rejected why => exact Or.inr ⟨why, within⟩
    | faulted why =>
      exact absurd within (outcome_not_faulted d built (spells_initial tokens) _ why)

/-- A run answers exactly if its input has a foreign symbol or it never circles; else it takes more
steps than any number. It always answers if all nonterminals are productive and reachable. -/
theorem shiftReduce_run_answers_iff (built : g.Built)
    (made : build g (FirstFollow.ofGrammar g).follow = .ok t) (tokens : List Symbol) :
    (Answers g t tokens ↔
      ((∀ s ∈ tokens, s ∈ g.terminals) → Straight t (initial tokens))) ∧
    (¬ Answers g t tokens → ∀ n, outcome t n (initial tokens) = none) ∧
    (g.Productive → g.Reachable → Answers g t tokens) := by
  have d := Grammar.built_declared built
  cases foreign : undeclared? g tokens with
  | some s =>
    have answers : Answers g t tokens := answers_of_undeclared foreign
    refine ⟨⟨fun _ terminal => ?_, fun _ => answers⟩, fun not => absurd answers not,
      fun _ _ => answers⟩
    rw [undeclared?_eq_none.mpr terminal] at foreign
    cases foreign
  | none =>
    have terminal := undeclared?_eq_none.mp foreign
    have ends := answers_iff_ends d made terminal
    have straight := ends.trans (ends_iff_straight (List.cons_ne_nil 0 []))
    refine ⟨⟨fun answers _ => straight.mp answers, fun h => straight.mpr (h terminal)⟩, ?_, ?_⟩
    · intro silent n
      rw [Option.eq_none_iff_forall_ne_some]
      intro o reached
      exact silent (ends.mpr ⟨n, o, reached⟩)
    · intro productive reachable
      exact straight.mpr (straight_of_reachable d made productive reachable tokens)

theorem brackets_nonterminals {s : Symbol} (h : s ∈ Grammar.brackets.nonterminals) :
    s = Grammar.brackets.start := by
  have single : Grammar.brackets.nonterminals = SortedSet.ofList [Grammar.brackets.start] := by
    decide +kernel
  rw [single, SortedSet.mem_ofList] at h
  exact List.mem_singleton.mp h

theorem brackets_productive : Grammar.brackets.Productive := by
  intro s hs
  obtain rfl := brackets_nonterminals hs
  have rule : ⟨Grammar.brackets.start, [.epsilon]⟩ ∈ Grammar.brackets.productions := by
    decide +kernel
  exact ⟨[], by simp, .single (.replace [] [] _ rule)⟩

theorem brackets_reachable : Grammar.brackets.Reachable := by
  intro s hs
  obtain rfl := brackets_nonterminals hs
  exact ⟨[], [], .refl⟩

theorem brackets_run_answers :
    ∃ t, build Grammar.brackets (FirstFollow.ofGrammar Grammar.brackets).follow = .ok t ∧
      Grammar.brackets.Productive ∧ Grammar.brackets.Reachable ∧
      ∀ tokens, Answers Grammar.brackets t tokens := by
  have filled : (build Grammar.brackets
      (FirstFollow.ofGrammar Grammar.brackets).follow).toOption.any (fun _ => true) = true := by
    decide +kernel
  obtain ⟨t, made, _⟩ := exists_ok_of_any filled
  refine ⟨t, made, brackets_productive, brackets_reachable, ?_⟩
  intro tokens
  exact (shiftReduce_run_answers_iff Grammar.brackets_built made tokens).2.2
    brackets_productive brackets_reachable

/-- The start symbol has itself as an alternative, and only an unreachable nonterminal puts `c`
behind it. -/
def stray : Grammar :=
  ((Grammar.ofStart (.nonterminal "S")).define (.nonterminal "S")
    [[.nonterminal "S"], [.terminal "a"],
      [.terminal "d", .terminal "f", .terminal "h", .terminal "k"]]).define
    (.nonterminal "U") [[.nonterminal "S", .terminal "c"]]

theorem stray_built : stray.Built := by
  refine Grammar.built_define (Grammar.built_define (Grammar.built_ofStart rfl) rfl ?_) rfl ?_
  all_goals decide

theorem stray_run_endless :
    stray.Built ∧ stray.WellFormed ∧
    ∃ t, build stray (FirstFollow.ofGrammar stray).follow = .ok t ∧
      (∀ n, outcome t n (initial [.terminal "a", .terminal "c"]) = none) ∧
      ¬ Answers stray t [.terminal "a", .terminal "c"] := by
  refine ⟨stray_built, by decide +kernel, ?_⟩
  have circle : (build stray (FirstFollow.ofGrammar stray).follow).toOption.any (fun t =>
      step t (initial [.terminal "a", .terminal "c"]) =
        .shift 1 ⟨[1, 0], [.terminal "c", .endMarker]⟩ ∧
      step t ⟨[1, 0], [.terminal "c", .endMarker]⟩ =
        .reduce ⟨.nonterminal "S", [.terminal "a"]⟩ ⟨[3, 0], [.terminal "c", .endMarker]⟩ ∧
      reduceTimes t 1 ⟨[3, 0], [.terminal "c", .endMarker]⟩ =
        some ⟨[3, 0], [.terminal "c", .endMarker]⟩) = true := by
    decide +kernel
  obtain ⟨t, made, h⟩ := exists_ok_of_any circle
  obtain ⟨shifts, reduces, back⟩ := of_decide_eq_true h
  have endless : ∀ n, outcome t n (initial [.terminal "a", .terminal "c"]) = none :=
    outcome_none_of_moves_circles (.shift shifts (.reduce reduces (.refl _)))
      ⟨1, Nat.one_pos, Or.inl back⟩
  have terminal : ∀ s ∈ [Symbol.terminal "a", .terminal "c"], s ∈ stray.terminals := by
    decide +kernel
  refine ⟨t, made, endless, ?_⟩
  unfold Answers
  rw [run_of_declared terminal, endless]
  simp

end TableParsing.ShiftReduce
