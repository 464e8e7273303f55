import TableParsing.Analysis
import TableParsing.Proofs.Predictive.Conflicts
import TableParsing.Proofs.ShiftReduce.Conflicts

/- Stopping at the first conflict and listing all of them. The two ways of filling a table take the
   same steps up to the first conflict: the one stops with it, the other notes it and goes on. What
   is noted stays at its place, so the conflict that stops the one run is the head of the list that
   the other run makes. The run that goes on reaches the end, since nothing but a conflict can stop
   the building of tables. -/
namespace TableParsing

/-- Two runs over the same steps: where the one goes on, the other goes on and finds nothing; where
the one stops, the other puts the same finding behind what it has found. -/
structure Twin {σ τ α ε γ : Type} (stop : σ → α → Except ε σ) (collect : τ → α → Except ε τ)
    (related : σ → τ → Prop) (raised : ε → γ → Prop) (found : τ → List γ) : Prop where
  step : ∀ s t next x, related s t → collect t x = .ok next →
    (∃ s', stop s x = .ok s' ∧ related s' next ∧ found next = found t) ∨
      ∃ e c, stop s x = .error e ∧ raised e c ∧ found next = found t ++ [c]
  grows : ∀ t next x, collect t x = .ok next → found t <+: found next

namespace Twin

variable {σ τ α ε γ : Type} {stop : σ → α → Except ε σ} {collect : τ → α → Except ε τ}
  {related : σ → τ → Prop} {raised : ε → γ → Prop} {found : τ → List γ}
  (twin : Twin stop collect related raised found)
include twin

theorem found_isPrefix {xs : List α} {t last : τ} (whole : xs.foldlM collect t = .ok last) :
    found t <+: found last := by
  induction xs generalizing t with
  | nil =>
    cases whole
    exact List.prefix_rfl
  | cons x rest ih =>
    obtain ⟨next, first, later⟩ := foldlM_cons_eq_ok.mp whole
    exact (twin.grows t next x first).trans (ih later)

/-- Of two such runs, either both go through and nothing is found, or the one stops with the first
thing that the other finds. -/
theorem foldlM {xs : List α} {s : σ} {t last : τ} (together : related s t)
    (whole : xs.foldlM collect t = .ok last) :
    (∃ s', xs.foldlM stop s = .ok s' ∧ related s' last ∧ found last = found t) ∨
      ∃ e c, xs.foldlM stop s = .error e ∧ raised e c ∧ found t ++ [c] <+: found last := by
  induction xs generalizing s t with
  | nil =>
    cases whole
    exact Or.inl ⟨s, rfl, together, rfl⟩
  | cons x rest ih =>
    obtain ⟨next, first, later⟩ := foldlM_cons_eq_ok.mp whole
    rcases twin.step s t next x together first with
      ⟨s', goes, together', same⟩ | ⟨e, c, stops, raises, noted⟩
    · rw [List.foldlM_cons, goes, ← same]
      exact ih together' later
    · rw [List.foldlM_cons, stops]
      exact Or.inr ⟨e, c, rfl, raises, noted ▸ twin.found_isPrefix later⟩

end Twin

/-- A build that stops at the first of some conflicts: it goes through if there are none, and else
its error is the head of the list. -/
structure StopsAtHead {ε τ γ : Type} (raise : γ → ε) (made : Except ε τ) (conflicts : List γ) :
    Prop where
  ok_iff : (∃ t, made = .ok t) ↔ conflicts = []
  error : ∀ c rest, conflicts = c :: rest → made = .error (raise c)

theorem stopsAtHead_ok {ε τ γ : Type} {raise : γ → ε} {made : Except ε τ} {t : τ}
    (h : made = .ok t) : StopsAtHead raise made [] where
  ok_iff := by simp [h]
  error := by
    intro c rest none
    cases none

theorem stopsAtHead_error {ε τ γ : Type} {raise : γ → ε} {made : Except ε τ} {c : γ}
    {cs : List γ} (h : made = .error (raise c)) (head : [c] <+: cs) :
    StopsAtHead raise made cs := by
  obtain ⟨rest, rfl⟩ := head
  constructor
  case ok_iff => simp [h]
  case error =>
    intro c' rest' same
    cases same
    exact h

variable {g : Grammar}

namespace Predictive

theorem place_modes (d : Draft) (p : Production) (a : Symbol) :
    (∃ table, ∀ mode, d.place mode (.cell p a) = .ok { d with table }) ∨
      ∃ c, d.place .stop (.cell p a) = .error (.conflict c) ∧
        d.place .collect (.cell p a) = .ok { d with conflicts := d.conflicts ++ [c] } := by
  unfold Draft.place
  dsimp only
  cases d.table.get? (p.lhs, a) with
  | none => exact Or.inl ⟨_, fun _ => rfl⟩
  | some existing =>
    dsimp only
    split
    · exact Or.inl ⟨d.table, fun _ => rfl⟩
    · exact Or.inr ⟨_, rfl, rfl⟩

theorem twin_place : Twin (Draft.place .stop) (Draft.place .collect) Eq
    (fun e c => e = .conflict c) Draft.conflicts where
  step := by
    rintro d _ next claim rfl settled
    cases claim with
    | missing s => cases settled
    | cell p a =>
      rcases place_modes d p a with ⟨table, goes⟩ | ⟨c, stops, noted⟩
      · rw [goes] at settled ⊢
        cases settled
        exact Or.inl ⟨_, rfl, rfl, rfl⟩
      · rw [noted] at settled
        cases settled
        exact Or.inr ⟨_, c, stops, rfl, rfl⟩
  grows := by
    intro d next claim settled
    cases claim with
    | missing s => cases settled
    | cell p a =>
      rcases place_modes d p a with ⟨table, goes⟩ | ⟨c, _, noted⟩
      · rw [goes] at settled
        cases settled
        exact List.prefix_rfl
      · rw [noted] at settled
        cases settled
        exact List.prefix_append _ _

/-- With a FOLLOW set for every nonterminal, the list of conflicts comes to its end. -/
theorem exists_fill_collect (d : g.Declared) {ff : FirstFollow} (known : FollowKnown g ff) :
    ∃ last, fill .collect g ff = .ok last := by
  refine exists_foldlM_ok ?_
  intro before claim after split draft _
  have claimed : claim ∈ claims g ff := split ▸ by simp
  cases claim with
  | missing s => exact absurd claimed (missing_not_mem_claims d known s)
  | cell p a =>
    rcases place_modes draft p a with ⟨table, goes⟩ | ⟨c, _, noted⟩
    · exact ⟨_, goes .collect⟩
    · exact ⟨_, noted⟩

theorem build_stopsAtHead_of_known (d : g.Declared) {ff : FirstFollow}
    (known : FollowKnown g ff) :
    ∃ cs, conflicts g ff = .ok cs ∧ StopsAtHead .conflict (build g ff) cs := by
  obtain ⟨last, listed⟩ := exists_fill_collect d known
  refine ⟨last.conflicts, by rw [conflicts, listed]; rfl, ?_⟩
  rcases twin_place.foldlM rfl listed with ⟨draft, filled, _, none⟩ | ⟨_, c, stopped, rfl, head⟩
  · rw [none]
    refine stopsAtHead_ok (t := draft.table) ?_
    unfold build fill
    rw [filled]
    rfl
  · refine stopsAtHead_error ?_ head
    unfold build fill
    rw [stopped]
    rfl

theorem build_stopsAtHead (d : g.Declared) :
    ∃ cs, conflicts g (FirstFollow.ofGrammar g) = .ok cs ∧
      StopsAtHead .conflict (build g (FirstFollow.ofGrammar g)) cs :=
  build_stopsAtHead_of_known d (followKnown_ofGrammar d)

end Predictive

namespace ShiftReduce

variable {follow : SymbolSets} {m : Automaton}

theorem setAction_modes (b : Builder) (state : Int) (s : Symbol) (act : Action) :
    (∃ action, ∀ mode, { b with mode }.setAction state s act = .ok { b with mode, action }) ∨
      ∃ c, { b with mode := .stop }.setAction state s act =
          .error ⟨.conflict c, { b with mode := .stop }⟩ ∧
        { b with mode := .collect }.setAction state s act =
          .ok { b with mode := .collect, conflicts := b.conflicts ++ [c] } := by
  unfold Builder.setAction
  dsimp only
  cases b.action.get? (state, s) with
  | none => exact Or.inl ⟨_, fun _ => rfl⟩
  | some existing =>
    dsimp only
    split
    · exact Or.inl ⟨b.action, fun _ => rfl⟩
    · split
      · exact Or.inl ⟨b.action, fun _ => rfl⟩
      · split
        · exact Or.inl ⟨_, fun _ => rfl⟩
        · exact Or.inr ⟨_, rfl, rfl⟩

/-- A claim for a transition is settled in the same way in both modes, or it fails in both. -/
theorem setGoto_modes (b : Builder) (state target : Int) (s : Symbol) :
    (∃ goto, ∀ mode, { b with mode }.setGoto state s target = .ok { b with mode, goto }) ∨
      ∃ existing, ∀ mode, { b with mode }.setGoto state s target =
        .error ⟨.gotoClash state s existing target, { b with mode }⟩ := by
  unfold Builder.setGoto
  dsimp only
  cases b.goto.get? (state, s) with
  | none => exact Or.inl ⟨_, fun _ => rfl⟩
  | some existing =>
    dsimp only
    split
    · exact Or.inl ⟨b.goto, fun _ => rfl⟩
    · exact Or.inr ⟨existing, fun _ => rfl⟩

theorem twin_settle : Twin Builder.settle Builder.settle
    (fun s t => ∃ b : Builder, s = { b with mode := .stop } ∧ t = { b with mode := .collect })
    (fun e c => e.error = .conflict c) Builder.conflicts where
  step := by
    rintro _ _ next ⟨claim, m⟩ ⟨b, rfl, rfl⟩ settled
    cases claim with
    | failure e => cases settled
    | action state s act =>
      rcases setAction_modes { b with automaton := m } state s act with
        ⟨action, goes⟩ | ⟨c, stops, noted⟩
      · cases (goes .collect).symm.trans settled
        exact Or.inl ⟨_, goes .stop, ⟨{ b with automaton := m, action }, rfl, rfl⟩, rfl⟩
      · cases noted.symm.trans settled
        exact Or.inr ⟨_, c, stops, rfl, rfl⟩
    | goto state s target =>
      rcases setGoto_modes { b with automaton := m } state target s with
        ⟨goto, goes⟩ | ⟨existing, fails⟩
      · cases (goes .collect).symm.trans settled
        exact Or.inl ⟨_, goes .stop, ⟨{ b with automaton := m, goto }, rfl, rfl⟩, rfl⟩
      · cases (fails .collect).symm.trans settled
  grows := by
    rintro b next ⟨claim, m⟩ settled
    cases claim with
    | failure e => cases settled
    | action state s act =>
      rcases setAction_modes { b with automaton := m } state s act with
        ⟨action, goes⟩ | ⟨c, stops, noted⟩
      · cases (goes b.mode).symm.trans settled
        exact List.prefix_rfl
      · obtain ⟨follow, mode, rest⟩ := b
        cases mode with
        | stop => cases stops.symm.trans settled
        | collect =>
          cases noted.symm.trans settled
          exact List.prefix_append _ _
    | goto state s target =>
      rcases setGoto_modes { b with automaton := m } state target s with
        ⟨goto, goes⟩ | ⟨existing, fails⟩
      · cases (goes b.mode).symm.trans settled
        exact List.prefix_rfl
      · cases (fails b.mode).symm.trans settled

/-- In the collecting mode no claim is refused as a conflict. -/
theorem not_conflict_of_collect {b : Builder} (mode : b.mode = .collect)
    {claim : Claim × Automaton} (lawful : Lawful m claim.1) {stopped : Stopped}
    (h : b.settle claim = .error stopped) (c : Conflict) : stopped.error ≠ .conflict c := by
  obtain ⟨claim, m'⟩ := claim
  have own : b = { b with mode := .collect } := by rw [← mode]
  rw [own] at h
  rcases lawful with ⟨state, s, act, rfl⟩ | ⟨state, s, k, rfl, _⟩
  · rcases setAction_modes { b with automaton := m' } state s act with
      ⟨action, goes⟩ | ⟨_, _, noted⟩
    · cases (goes .collect).symm.trans h
    · cases noted.symm.trans h
  · rcases setGoto_modes { b with automaton := m' } state k s with
      ⟨goto, goes⟩ | ⟨existing, fails⟩
    · cases (goes .collect).symm.trans h
    · cases (fails .collect).symm.trans h
      rintro ⟨⟩

theorem exists_settled_collect (d : g.Declared) : ∃ last,
    (claims follow (automaton g)).1.foldlM Builder.settle (started g follow .collect) =
      .ok last := by
  cases settled : (claims follow (automaton g)).1.foldlM Builder.settle
      (started g follow .collect) with
  | ok last => exact ⟨last, rfl⟩
  | error stopped =>
    have failed : (Builder.new g follow .collect).build = .error stopped := by
      rw [build_new, settled]
      rfl
    obtain ⟨c, conflict⟩ := conflict_of_build d failed
    obtain ⟨before, claim, after, e, split, reached, refused⟩ := foldlM_error_split settled
    have member : claim ∈ (claims follow (automaton g)).1 := split ▸ by simp
    have mode : e.mode = .collect := mode_of_foldlM_settle reached
    exact absurd conflict (not_conflict_of_collect mode
      (lawful_of_mem_claims d (finished_automaton g) member) refused c)

theorem build_stopsAtHead (d : g.Declared) (follow : SymbolSets) :
    ∃ cs, conflicts g follow = .ok cs ∧ StopsAtHead .conflict (build g follow) cs := by
  obtain ⟨last, listed⟩ := @exists_settled_collect g follow d
  refine ⟨last.conflicts, by rw [conflicts, build_new, listed]; rfl, ?_⟩
  have together : ∃ b : Builder, started g follow .stop = { b with mode := .stop } ∧
      started g follow .collect = { b with mode := .collect } :=
    ⟨started g follow .stop, rfl, rfl⟩
  rcases twin_settle.foldlM together listed with ⟨b, settled, _, none⟩ | ⟨e, c, stopped, own, head⟩
  · rw [none]
    refine stopsAtHead_ok (t := { b with automaton := (claims follow (automaton g)).2 }.tables) ?_
    rw [build, build_new, settled]
    rfl
  · refine stopsAtHead_error ?_ head
    rw [build, build_new, stopped]
    exact congrArg Except.error own

end ShiftReduce

/-- Two analyses of one grammar, of which one lists the first conflict of each table and the other
lists all. -/
structure SameAnalysis (stopped listed : Artifacts) : Prop where
  grammar : stopped.grammar = listed.grammar
  classification : stopped.classification = listed.classification
  firstFollow : stopped.firstFollow = listed.firstFollow
  predictive : stopped.predictive = listed.predictive
  shiftReduce : stopped.shiftReduce = listed.shiftReduce
  predictiveConflicts : stopped.predictiveConflicts = listed.predictiveConflicts.take 1
  shiftReduceConflicts : stopped.shiftReduceConflicts = listed.shiftReduceConflicts.take 1

theorem predictiveReport_modes {ff : FirstFollow} {cs : List Predictive.Conflict}
    (listed : Predictive.conflicts g ff = .ok cs)
    (head : StopsAtHead .conflict (Predictive.build g ff) cs) :
    (predictiveReport .stop g ff).table = (predictiveReport .collect g ff).table ∧
      (predictiveReport .stop g ff).conflicts =
        (predictiveReport .collect g ff).conflicts.take 1 := by
  unfold predictiveReport
  cases cs with
  | nil =>
    obtain ⟨table, made⟩ := head.ok_iff.mpr rfl
    rw [made]
    exact ⟨rfl, rfl⟩
  | cons c rest =>
    rw [head.error c rest rfl, listed]
    exact ⟨rfl, rfl⟩

theorem shiftReduceReport_modes {ff : FirstFollow} {cs : List ShiftReduce.Conflict}
    (listed : ShiftReduce.conflicts g ff.follow = .ok cs)
    (head : StopsAtHead .conflict (ShiftReduce.build g ff.follow) cs) :
    (shiftReduceReport .stop g ff).table = (shiftReduceReport .collect g ff).table ∧
      (shiftReduceReport .stop g ff).conflicts =
        (shiftReduceReport .collect g ff).conflicts.take 1 := by
  unfold shiftReduceReport
  cases cs with
  | nil =>
    obtain ⟨table, made⟩ := head.ok_iff.mpr rfl
    rw [made]
    exact ⟨rfl, rfl⟩
  | cons c rest =>
    rw [head.error c rest rfl, listed]
    exact ⟨rfl, rfl⟩

theorem analyze_modes (d : g.Declared) : SameAnalysis (analyze .stop g) (analyze .collect g) := by
  obtain ⟨cs, listed, head⟩ := Predictive.build_stopsAtHead d
  obtain ⟨cs', listed', head'⟩ :=
    ShiftReduce.build_stopsAtHead d (FirstFollow.ofGrammar g).follow
  obtain ⟨table, conflicts⟩ := @predictiveReport_modes g (FirstFollow.ofGrammar g) cs listed head
  obtain ⟨tables, conflicts'⟩ :=
    @shiftReduceReport_modes g (FirstFollow.ofGrammar g) cs' listed' head'
  unfold analyze
  by_cases complete : g.WellFormed
  · rw [if_pos complete, if_pos complete]
    dsimp only
    constructor
    case classification =>
      unfold Artifacts.classification Artifacts.isLL1 Artifacts.isSLR1
      dsimp only
      rw [table, tables]
    all_goals dsimp only
    case predictive => exact table
    case shiftReduce => exact tables
    case predictiveConflicts => exact conflicts
    case shiftReduceConflicts => exact conflicts'
  · rw [if_neg complete, if_neg complete]
    exact ⟨rfl, rfl, rfl, rfl, rfl, rfl, rfl⟩

/-- Both ways of building agree: the conflicts of a table can always be listed, there is a table
exactly if the list is empty, and else the build stops with the head of the list. So the two kinds
of analysis find the same, except that one lists the first conflict of each table only. -/
theorem modes_agree (built : g.Built) :
    (∃ cs, Predictive.conflicts g (FirstFollow.ofGrammar g) = .ok cs ∧
      StopsAtHead .conflict (Predictive.build g (FirstFollow.ofGrammar g)) cs) ∧
    (∃ cs, ShiftReduce.conflicts g (FirstFollow.ofGrammar g).follow = .ok cs ∧
      StopsAtHead .conflict (ShiftReduce.build g (FirstFollow.ofGrammar g).follow) cs) ∧
    SameAnalysis (analyze .stop g) (analyze .collect g) := by
  have d := Grammar.built_declared built
  exact ⟨Predictive.build_stopsAtHead d, ShiftReduce.build_stopsAtHead d _, analyze_modes d⟩

/-- Strings of two letters, put together in pairs of strings. -/
def pairs : Grammar :=
  (Grammar.ofStart (.nonterminal "S")).define (.nonterminal "S")
    [[.nonterminal "S", .nonterminal "S"], [.terminal "a"], [.terminal "b"]]

theorem pairs_built : pairs.Built :=
  Grammar.built_define (Grammar.built_ofStart rfl) rfl (by decide)

/-- Both letters are in conflict, and the build stops at the first. -/
theorem pairs_modes_agree : pairs.Built ∧
    ∃ c c' : Predictive.Conflict, c.lookahead = .terminal "a" ∧ c'.lookahead = .terminal "b" ∧
      Predictive.conflicts pairs (FirstFollow.ofGrammar pairs) = .ok [c, c'] ∧
      Predictive.build pairs (FirstFollow.ofGrammar pairs) = .error (.conflict c) ∧
      (analyze .collect pairs).shiftReduceConflicts.length = 2 ∧
      (analyze .stop pairs).shiftReduceConflicts =
        (analyze .collect pairs).shiftReduceConflicts.take 1 := by
  obtain ⟨⟨cs, listed, head⟩, _, same⟩ := modes_agree pairs_built
  have marks : (Predictive.conflicts pairs (FirstFollow.ofGrammar pairs)).toOption.any
      (fun cs => cs.map (·.lookahead) = [.terminal "a", .terminal "b"]) = true := by
    decide +kernel
  obtain ⟨cs', listed', letters⟩ := exists_ok_of_any marks
  obtain rfl := Except.ok.inj (listed.symm.trans listed')
  obtain ⟨c, rest, rfl, first, others⟩ := List.map_eq_cons_iff.mp (of_decide_eq_true letters)
  obtain ⟨c', rest, rfl, second, none⟩ := List.map_eq_cons_iff.mp others
  obtain rfl := List.map_eq_nil_iff.mp none
  have two : (analyze .collect pairs).shiftReduceConflicts.length = 2 := by decide +kernel
  exact ⟨pairs_built, c, c', first, second, listed, head.error c [c'] rfl, two,
    same.shiftReduceConflicts⟩

end TableParsing
