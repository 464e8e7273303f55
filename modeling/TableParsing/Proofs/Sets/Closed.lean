import TableParsing.Proofs.Sets.Saturation

/- The FIRST and FOLLOW sets as least families: what a pass contributes, and that the sets are
   closed under it. A FIRST set holds the FIRST set of every alternative; a FOLLOW set holds what
   can come after each occurrence of its nonterminal in an alternative. -/
namespace TableParsing

variable {g : Grammar}

/-- What a production contributes to the FIRST set of its left-hand side. -/
def FirstContribution (g : Grammar) (sets : SymbolSets) (target : Symbol) (more : SymbolSet) :
    Prop :=
  ∃ p ∈ g.productions, target = p.lhs ∧ more = firstOf g sets p.rhs

/-- What is after an occurrence of a nonterminal: the FIRST set of the rest of the alternative, and
what follows the left-hand side if the rest can vanish. -/
def aheadOf (g : Grammar) (first follow : SymbolSets) (lhs : Symbol) (rest : List Symbol) :
    SymbolSet :=
  let ahead := firstOf g first rest
  (ahead.erase Symbol.epsilon).union
    (if Symbol.epsilon ∈ ahead then follow.getD lhs ∅ else ∅)

/-- What an occurrence in an alternative contributes to the FOLLOW set of a nonterminal. -/
def FollowContribution (g : Grammar) (first : SymbolSets) (sets : SymbolSets) (target : Symbol)
    (more : SymbolSet) : Prop :=
  ∃ p ∈ g.productions, ∃ before rest, p.rhs = before ++ target :: rest ∧
    target ∈ g.nonterminals ∧ more = aheadOf g first sets p.lhs rest

theorem mem_aheadOf {first follow : SymbolSets} {lhs : Symbol} {rest : List Symbol} {x : Symbol} :
    x ∈ aheadOf g first follow lhs rest ↔
      (x ∈ firstOf g first rest ∧ x ≠ Symbol.epsilon) ∨
        (Symbol.epsilon ∈ firstOf g first rest ∧ x ∈ follow.getD lhs ∅) := by
  simp only [aheadOf, SortedSet.mem_union, SortedSet.mem_erase]
  by_cases vanishes : Symbol.epsilon ∈ firstOf g first rest <;> simp [vanishes]

theorem isNonterminal_iff {s : Symbol} : g.isNonterminal s = true ↔ s ∈ g.nonterminals := by
  simp [Grammar.isNonterminal]

theorem firstPass_extends (first : SymbolSets) :
    Growth.Extends (FirstContribution g) ⟨first, ∅⟩ (firstPass g first) := by
  refine Growth.extends_foldl ?_ _
  intro p hp state
  exact (Growth.Extends.refl state).add ⟨p, hp, rfl, rfl⟩

theorem followAlong_extends {first : SymbolSets} {p : Production} (hp : p ∈ g.productions)
    (before rest : List Symbol) (split : p.rhs = before ++ rest) (state : Growth) :
    Growth.Extends (FollowContribution g first) state (followAlong g first p.lhs rest state) := by
  induction rest generalizing before state with
  | nil => exact .refl state
  | cons s rest ih =>
    have split' : p.rhs = (before ++ [s]) ++ rest := by simpa using split
    unfold followAlong
    split
    · rename_i declared
      have here : FollowContribution g first state.sets s (aheadOf g first state.sets p.lhs rest) :=
        ⟨p, hp, before, rest, split, isNonterminal_iff.mp declared, rfl⟩
      exact ((Growth.Extends.refl state).add here).trans (ih (before ++ [s]) split' _)
    · exact ih (before ++ [s]) split' state

theorem followPass_extends (first follow : SymbolSets) :
    Growth.Extends (FollowContribution g first) ⟨follow, ∅⟩ (followPass g first follow) := by
  refine Growth.extends_foldl ?_ _
  intro p hp state
  exact followAlong_extends hp [] p.rhs rfl state

/-- A visit that leaves the log empty changed nothing. -/
def Quiet {α : Type} (visit : Growth → α → Growth) : Prop :=
  ∀ state x, (visit state x).log.isEmpty = true → visit state x = state

theorem quiet_foldl {α : Type} {visit : Growth → α → Growth} (quiet : Quiet visit)
    {xs : List α} {state : Growth} (h : (xs.foldl visit state).log.isEmpty = true) :
    xs.foldl visit state = state ∧ ∀ x ∈ xs, visit state x = state := by
  induction xs generalizing state with
  | nil => exact ⟨rfl, by simp⟩
  | cons x rest ih =>
    rw [List.foldl_cons] at h
    obtain ⟨same, others⟩ := ih h
    have first : visit state x = state := by
      refine quiet state x ?_
      rw [same] at h
      exact h
    rw [first] at others
    refine ⟨?_, ?_⟩
    · rw [List.foldl_cons, same, first]
    · intro y hy
      rcases List.mem_cons.mp hy with rfl | hy
      · exact first
      · exact others y hy

theorem quiet_first : Quiet fun (state : Growth) (p : Production) =>
    state.add p.lhs (firstOf g state.sets p.rhs) :=
  fun _ _ => Growth.add_eq_self_of_log

theorem followAlong_quiet {first : SymbolSets} {lhs : Symbol} {symbols : List Symbol}
    {state : Growth} (h : (followAlong g first lhs symbols state).log.isEmpty = true) :
    followAlong g first lhs symbols state = state ∧
      ∀ before s rest, symbols = before ++ s :: rest → s ∈ g.nonterminals →
        state.add s (aheadOf g first state.sets lhs rest) = state := by
  induction symbols generalizing state with
  | nil => exact ⟨rfl, by simp⟩
  | cons x tail ih =>
    by_cases declared : g.isNonterminal x = true
    · have unfolded : followAlong g first lhs (x :: tail) state = followAlong g first lhs tail
          (state.add x (aheadOf g first state.sets lhs tail)) := by
        simp only [followAlong, declared, ↓reduceIte, aheadOf]
      rw [unfolded] at h ⊢
      obtain ⟨same, others⟩ := ih h
      have here : state.add x (aheadOf g first state.sets lhs tail) = state := by
        refine Growth.add_eq_self_of_log ?_
        rw [same] at h
        exact h
      rw [here] at same others ⊢
      refine ⟨same, ?_⟩
      intro before s rest split member
      cases before with
      | nil =>
        obtain ⟨rfl, rfl⟩ := List.cons.inj split
        exact here
      | cons b before => exact others before s rest (List.cons.inj split).2 member
    · have unfolded : followAlong g first lhs (x :: tail) state =
          followAlong g first lhs tail state := by
        simp [followAlong, declared]
      rw [unfolded] at h ⊢
      obtain ⟨same, others⟩ := ih h
      refine ⟨same, ?_⟩
      intro before s rest split member
      cases before with
      | nil =>
        obtain ⟨rfl, rfl⟩ := List.cons.inj split
        exact absurd (isNonterminal_iff.mpr member) declared
      | cons b before => exact others before s rest (List.cons.inj split).2 member

theorem mem_of_add_eq_self {state : Growth} {target x : Symbol} {more : SymbolSet}
    (same : state.add target more = state) (hx : x ∈ more) : x ∈ state.sets.getD target ∅ := by
  rw [← same]
  exact (Growth.mem_getD_add state target more target x).mpr (Or.inr ⟨rfl, hx⟩)

theorem getD_emptySets (s : Symbol) : (emptySets g).getD s ∅ = ∅ := by
  have fold : ∀ (names : List Symbol) (sets : SymbolSets), sets.getD s ∅ = ∅ →
      ((names.map fun n => (n, (∅ : SymbolSet))).foldl (fun m e => m.put e.1 e.2) sets).getD s ∅
        = ∅ := by
    intro names
    induction names with
    | nil => exact fun _ h => h
    | cons n rest ih =>
      intro sets h
      refine ih (sets.put n ∅) ?_
      rw [OrderedMap.getD_put]
      split <;> simp_all
  exact fold g.nonterminals.toList ∅ rfl

/-- Every symbol of a sequence is declared or the epsilon marker. -/
def Known (g : Grammar) (symbols : List Symbol) : Prop :=
  ∀ s ∈ symbols, s = Symbol.epsilon ∨ s ∈ g.terminals ∨ s ∈ g.nonterminals

theorem known_rhs (d : g.Declared) {p : Production} (hp : p ∈ g.productions) : Known g p.rhs := by
  intro s hs
  by_cases marker : s = Symbol.epsilon
  · exact Or.inl marker
  · exact Or.inr (d.mem_rhs hp hs marker)

theorem firstOf_within {first : SymbolSets} (within : Growth.Within g Symbol.epsilon first)
    {symbols : List Symbol} (known : Known g symbols) :
    ∀ x ∈ firstOf g first symbols, x ∈ g.terminals ∨ x = Symbol.epsilon := by
  induction symbols with
  | nil =>
    intro x hx
    simp only [firstOf, SortedSet.mem_ofList, List.mem_singleton] at hx
    exact Or.inr hx
  | cons s rest ih =>
    have tail := ih fun y hy => known y (List.mem_cons_of_mem s hy)
    intro x hx
    unfold firstOf at hx
    split at hx
    · rcases SortedSet.mem_insert.mp hx with rfl | hx
      · exact Or.inr rfl
      · exact tail x hx
    · rename_i marker
      split at hx
      · dsimp only at hx
        split at hx
        · rcases SortedSet.mem_union.mp hx with hx | hx
          · exact within s x (SortedSet.mem_erase.mp hx).1
          · exact tail x hx
        · exact within s x hx
      · rename_i other
        rw [isNonterminal_iff] at other
        have same : x = s := by simpa using hx
        rcases known s List.mem_cons_self with eps | terminal | nonterminal
        · exact absurd eps marker
        · exact Or.inl (same ▸ terminal)
        · exact absurd nonterminal other

theorem emptySets_holds {P : Symbol → Symbol → Prop} : Growth.Holds P (emptySets g) := by
  intro s x hx
  rw [getD_emptySets] at hx
  exact absurd hx SortedSet.not_mem_empty

theorem firstSets_holds {P : Symbol → Symbol → Prop}
    (sound : ∀ sets target more, Growth.Holds P sets → FirstContribution g sets target more →
      ∀ x ∈ more, P target x) : Growth.Holds P (firstSets g) := by
  refine Growth.saturate_keeps (P := Growth.Holds P) ?_ _ emptySets_holds
  intro sets before
  exact (firstPass_extends sets).holds sound before

theorem firstContribution_within (d : g.Declared) (sets : SymbolSets) (target : Symbol)
    (more : SymbolSet) (before : Growth.Within g Symbol.epsilon sets)
    (may : FirstContribution g sets target more) :
    ∀ x ∈ more, x ∈ g.terminals ∨ x = Symbol.epsilon := by
  obtain ⟨p, hp, rfl, rfl⟩ := may
  exact firstOf_within before (known_rhs d hp)

theorem firstSets_within (d : g.Declared) : Growth.Within g Symbol.epsilon (firstSets g) :=
  firstSets_holds (firstContribution_within d)

theorem firstPass_grows (d : g.Declared) (first : SymbolSets)
    (some : (firstPass g first).log.isEmpty = false) :
    Growth.weight g first < Growth.weight g (firstPass g first).sets := by
  have declared : ∀ sets target more, FirstContribution g sets target more →
      target ∈ g.nonterminals := by
    rintro sets target more ⟨p, hp, rfl, _⟩
    exact d.lhs_mem hp
  rcases (firstPass_extends first).grows declared with same | less
  · rw [same] at some
    cases some
  · exact less

theorem firstPass_same (sets : SymbolSets) (quiet : (firstPass g sets).log.isEmpty = true) :
    (firstPass g sets).sets = sets := by
  rw [firstPass, (quiet_foldl quiet_first quiet).1]

theorem firstSets_repeats (d : g.Declared) : Growth.Repeats (firstPass g) (emptySets g)
    (firstSets g) (firstSetsLogged g).2 := by
  refine Growth.saturate_repeats (Growth.weight g) (g.nonterminals.size * (g.terminals.size + 1))
    (P := Growth.Within g Symbol.epsilon) ?_ firstPass_same (firstPass_grows d)
    (fun sets => Growth.weight_le) _ emptySets_holds ?_
  · intro sets before
    exact (firstPass_extends sets).holds (firstContribution_within d) before
  · unfold passLimit
    omega

theorem firstSets_closed (d : g.Declared) {p : Production} (hp : p ∈ g.productions) {x : Symbol}
    (hx : x ∈ firstOf g (firstSets g) p.rhs) : x ∈ (firstSets g).getD p.lhs ∅ := by
  have quiet := (firstSets_repeats d).ends firstPass_same
  exact mem_of_add_eq_self ((quiet_foldl quiet_first quiet).2 p hp) hx

section Follow

variable {first : SymbolSets}

theorem initialFollow_holds {P : Symbol → Symbol → Prop} (start : P g.start Symbol.endMarker) :
    Growth.Holds P (initialFollow g) := by
  intro s x hx
  rw [initialFollow, OrderedMap.getD_put, getD_emptySets] at hx
  split at hx
  · rename_i same
    have marker : x = Symbol.endMarker := by simpa using hx
    exact same ▸ marker ▸ start
  · exact absurd hx SortedSet.not_mem_empty

theorem followSets_holds {P : Symbol → Symbol → Prop}
    (sound : ∀ sets target more, Growth.Holds P sets → FollowContribution g first sets target more →
      ∀ x ∈ more, P target x)
    (start : P g.start Symbol.endMarker) : Growth.Holds P (followSets g first) := by
  refine Growth.saturate_keeps (P := Growth.Holds P) ?_ _ (initialFollow_holds start)
  intro sets before
  exact (followPass_extends first sets).holds sound before

theorem followContribution_within (d : g.Declared)
    (within : Growth.Within g Symbol.epsilon first) (sets : SymbolSets) (target : Symbol)
    (more : SymbolSet) (before : Growth.Within g Symbol.endMarker sets)
    (may : FollowContribution g first sets target more) :
    ∀ x ∈ more, x ∈ g.terminals ∨ x = Symbol.endMarker := by
  obtain ⟨p, hp, left, rest, split, _, rfl⟩ := may
  have known : Known g rest := by
    intro s hs
    exact known_rhs d hp s (split ▸ by simp [hs])
  intro x hx
  rcases mem_aheadOf.mp hx with ⟨ahead, marker⟩ | ⟨_, inherited⟩
  · exact Or.inl ((firstOf_within within known x ahead).resolve_right marker)
  · exact before p.lhs x inherited

theorem followSets_within (d : g.Declared) (within : Growth.Within g Symbol.epsilon first) :
    Growth.Within g Symbol.endMarker (followSets g first) :=
  followSets_holds (followContribution_within d within) (Or.inr rfl)

theorem followPass_grows (follow : SymbolSets)
    (some : (followPass g first follow).log.isEmpty = false) :
    Growth.weight g follow < Growth.weight g (followPass g first follow).sets := by
  have declared : ∀ sets target more, FollowContribution g first sets target more →
      target ∈ g.nonterminals := by
    rintro sets target more ⟨p, _, _, _, _, member, _⟩
    exact member
  rcases (followPass_extends first follow).grows declared with same | less
  · rw [same] at some
    cases some
  · exact less

theorem quiet_follow : Quiet fun (state : Growth) (p : Production) =>
    followAlong g first p.lhs p.rhs state :=
  fun _ _ quiet => (followAlong_quiet quiet).1

theorem followPass_same (sets : SymbolSets)
    (quiet : (followPass g first sets).log.isEmpty = true) :
    (followPass g first sets).sets = sets := by
  rw [followPass, (quiet_foldl quiet_follow quiet).1]

theorem followSets_repeats (d : g.Declared) (within : Growth.Within g Symbol.epsilon first) :
    ∃ log, (followSetsLogged g first).2 =
        OrderedMap.ofList [(g.start, [Symbol.endMarker])] :: log ∧
      Growth.Repeats (followPass g first) (initialFollow g) (followSets g first) log := by
  refine ⟨_, rfl, ?_⟩
  refine Growth.saturate_repeats (Growth.weight g) (g.nonterminals.size * (g.terminals.size + 1))
    (P := Growth.Within g Symbol.endMarker) ?_ followPass_same followPass_grows
    (fun sets => Growth.weight_le) _ (initialFollow_holds (Or.inr rfl)) ?_
  · intro sets before
    exact (followPass_extends first sets).holds (followContribution_within d within) before
  · unfold passLimit
    omega

theorem followSets_closed (d : g.Declared) (within : Growth.Within g Symbol.epsilon first)
    {p : Production} (hp : p ∈ g.productions) {before rest : List Symbol} {s : Symbol}
    (split : p.rhs = before ++ s :: rest) (member : s ∈ g.nonterminals) {x : Symbol}
    (hx : x ∈ aheadOf g first (followSets g first) p.lhs rest) :
    x ∈ (followSets g first).getD s ∅ := by
  obtain ⟨log, _, loop⟩ := followSets_repeats d within
  have each := (quiet_foldl quiet_follow (loop.ends followPass_same)).2 p hp
  have visited := (followAlong_quiet (by rw [each]; rfl)).2 before s rest split member
  exact mem_of_add_eq_self visited hx

theorem endMarker_mem_followSets : Symbol.endMarker ∈ (followSets g first).getD g.start ∅ := by
  have keeps : ∀ sets : SymbolSets, Symbol.endMarker ∈ sets.getD g.start ∅ →
      Symbol.endMarker ∈ (followPass g first sets).sets.getD g.start ∅ :=
    fun sets => (followPass_extends first sets).subset
  refine Growth.saturate_keeps keeps _ ?_
  rw [initialFollow, OrderedMap.getD_put]
  simp

end Follow
end TableParsing
