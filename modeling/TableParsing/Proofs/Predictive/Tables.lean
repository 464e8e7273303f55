import TableParsing.Proofs.Data.Contest
import TableParsing.Proofs.Modes

/- What predictive tables and reports of conflicts are made of, whatever sets they are made from.
   Every cell is filled on its own: the first production that claims it keeps it, and each other
   production that claims it is reported against the first. So there is a table exactly if no cell
   is claimed by two productions; with the computed sets, if no two productions of a nonterminal
   expect one lookahead. -/
namespace TableParsing.Predictive
open Contest

variable {g : Grammar} {ff : FirstFollow} {p q : Production} {s a : Symbol}

/-- A production is to be used under a lookahead, if the sets are right. -/
def Predicts (g : Grammar) (ff : FirstFollow) (p : Production) (a : Symbol) : Prop :=
  a ∈ firstOf g ff.first p.rhs ∧ a ≠ Symbol.epsilon ∨
    Symbol.epsilon ∈ firstOf g ff.first p.rhs ∧ a ∈ ff.follow.getD p.lhs ∅

instance : Decidable (Predicts g ff p a) := inferInstanceAs (Decidable (_ ∨ _))

/-- A production claims a cell. -/
structure Claims (g : Grammar) (ff : FirstFollow) (s a : Symbol) (p : Production) : Prop where
  rule : p ∈ g.productions
  row : p.lhs = s
  predicts : Predicts g ff p a

/-- A production claims a cell before any other does. -/
def ClaimsFirst (g : Grammar) (ff : FirstFollow) (s a : Symbol) (p : Production) : Prop :=
  ∃ before after, g.productions = before ++ p :: after ∧ p.lhs = s ∧ Predicts g ff p a ∧
    ∀ q ∈ before, q.lhs = s → ¬ Predicts g ff q a

/-- What a claim is for one cell. -/
def Claim.at? (s a : Symbol) : Claim → Option Production
  | .cell p b => if p.lhs = s ∧ b = a then some p else none
  | .missing _ => none

/-- The two productions of a conflict, if it is about one cell. -/
def Conflict.at? (s a : Symbol) (c : Conflict) : Option (Production × Production) :=
  if c.nonterminal = s ∧ c.lookahead = a then some (c.existing, c.new) else none

/-- What has become of one cell. -/
def Draft.contest (s a : Symbol) (d : Draft) : Contest Production :=
  ⟨d.table.get? (s, a), d.conflicts.filterMap (Conflict.at? s a)⟩

/-- No production prevails over another. -/
def never (_ _ : Production) : Bool := false

theorem contest_place {mode : OnConflict} (d : Draft) (claim : Claim) (next : Draft)
    (placed : d.place mode claim = .ok next) :
    next.contest s a =
      (claim.at? s a).elim (d.contest s a) ((d.contest s a).claim never) := by
  cases claim with
  | missing _ => cases placed
  | cell p b =>
    by_cases here : p.lhs = s ∧ b = a
    · obtain ⟨rfl, rfl⟩ := here
      have own : Claim.at? p.lhs b (.cell p b) = some p := if_pos ⟨rfl, rfl⟩
      rw [own, Option.elim_some]
      rcases place_cases placed with ⟨found, rfl⟩ | ⟨found, rfl⟩ |
        ⟨existing, found, apart, _, rfl⟩
      · simp [Draft.contest, Contest.claim, found, CellMap.get?_put]
      · simp [Draft.contest, Contest.claim, found]
      · simp [Draft.contest, Contest.claim, found, apart, never, Conflict.at?]
    · have other : Claim.at? s a (.cell p b) = none := if_neg here
      have apart : (p.lhs, b) ≠ (s, a) := fun same => here (Prod.mk.inj same)
      rw [other, Option.elim_none]
      rcases place_cases placed with ⟨_, rfl⟩ | ⟨_, rfl⟩ | ⟨existing, _, _, _, rfl⟩
      · simp [Draft.contest, CellMap.get?_put, apart]
      · rfl
      · simp [Draft.contest, Conflict.at?, here]

/-- The claims for one cell, in their order. -/
def rivals (g : Grammar) (ff : FirstFollow) (s a : Symbol) : List Production :=
  (claims g ff).filterMap (Claim.at? s a)

theorem contest_fill {mode : OnConflict} {last : Draft} (filled : fill mode g ff = .ok last) :
    last.contest s a = (rivals g ff s a).foldl (Contest.claim never) free := by
  have start : Draft.contest s a ⟨∅, []⟩ = free := by simp [Draft.contest, free]
  rw [← start]
  exact foldlM_contest contest_place filled

theorem Claim.at?_eq_some_iff {claim : Claim} :
    claim.at? s a = some p ↔ p.lhs = s ∧ claim = .cell p a := by
  constructor
  · intro here
    cases claim with
    | missing => cases here
    | cell q b =>
      unfold Claim.at? at here
      dsimp only at here
      split at here
      · rename_i place
        obtain ⟨rfl, rfl⟩ := place
        obtain rfl := Option.some.inj here
        exact ⟨rfl, rfl⟩
      · cases here
  · rintro ⟨row, rfl⟩
    exact if_pos ⟨row, rfl⟩

theorem Conflict.at?_eq_some_iff {c : Conflict} :
    c.at? s a = some (p, q) ↔ c = ⟨s, a, p, q⟩ := by
  obtain ⟨s', a', existing, new⟩ := c
  simp [Conflict.at?, and_assoc]

theorem mem_own_rivals : q ∈ (claimsOf g ff p).filterMap (Claim.at? s a) ↔
    q = p ∧ p.lhs = s ∧ Predicts g ff p a := by
  simp only [List.mem_filterMap, Claim.at?_eq_some_iff]
  constructor
  · rintro ⟨claim, member, row, rfl⟩
    obtain ⟨rfl, ahead⟩ := mem_claimsOf.mp member
    exact ⟨rfl, row, mem_aheadOf.mp ahead⟩
  · rintro ⟨rfl, row, predicts⟩
    exact ⟨.cell q a, mem_claimsOf.mpr ⟨rfl, mem_aheadOf.mpr predicts⟩, row, rfl⟩

theorem mem_rivals : p ∈ rivals g ff s a ↔ Claims g ff s a p := by
  rw [rivals, claims, List.filterMap_flatMap, List.mem_flatMap]
  constructor
  · rintro ⟨q, rule, own⟩
    obtain ⟨rfl, row, predicts⟩ := mem_own_rivals.mp own
    exact ⟨rule, row, predicts⟩
  · rintro ⟨rule, row, predicts⟩
    exact ⟨p, rule, mem_own_rivals.mpr ⟨rfl, row, predicts⟩⟩

theorem head_rivals : (rivals g ff s a).head? = some p ↔ ClaimsFirst g ff s a p := by
  have own : ∀ r ∈ g.productions, ∀ q, q ∈ (claimsOf g ff r).filterMap (Claim.at? s a) ↔
      q = r ∧ r.lhs = s ∧ Predicts g ff r a := fun _ _ _ => mem_own_rivals
  rw [rivals, claims, List.filterMap_flatMap, head?_flatMap_iff own]
  · constructor
    · rintro ⟨before, q, after, split, ⟨rfl, row, predicts⟩, others⟩
      refine ⟨before, after, split, row, predicts, ?_⟩
      intro r earlier row' predicts'
      exact others r earlier r ⟨rfl, row', predicts'⟩
    · rintro ⟨before, after, split, row, predicts, others⟩
      refine ⟨before, p, after, split, ⟨rfl, row, predicts⟩, ?_⟩
      rintro r earlier _ ⟨_, row', predicts'⟩
      exact others r earlier row' predicts'
  · rintro r _ u v ⟨rfl, _⟩ ⟨rfl, _⟩
    rfl

/-- What is reported about a cell is what its contest has refused. -/
theorem filterMap_conflicts {cs : List Conflict} (listed : conflicts g ff = .ok cs) :
    cs.filterMap (Conflict.at? s a) =
      ((rivals g ff s a).foldl (Contest.claim never) free).refused := by
  unfold conflicts at listed
  cases filled : fill .collect g ff with
  | error e =>
    rw [filled] at listed
    cases listed
  | ok last =>
    rw [filled] at listed
    cases listed
    exact congrArg Contest.refused (contest_fill filled)

/-- A conflict is reported for each production that claims a cell after another. -/
theorem mem_conflicts_iff {cs : List Conflict} (listed : conflicts g ff = .ok cs) :
    ⟨s, a, p, q⟩ ∈ cs ↔ ClaimsFirst g ff s a p ∧ Claims g ff s a q ∧ q ≠ p := by
  have cell : (p, q) ∈ cs.filterMap (Conflict.at? s a) ↔ ⟨s, a, p, q⟩ ∈ cs := by
    simp only [List.mem_filterMap, Conflict.at?_eq_some_iff, exists_eq_right]
  have peaceful : ∀ u ∈ rivals g ff s a, ∀ v ∈ rivals g ff s a, never u v = false :=
    fun _ _ _ _ => rfl
  rw [← cell, filterMap_conflicts listed, mem_refused_iff peaceful, head_rivals, mem_rivals]

theorem exists_claimsFirst (claims : Claims g ff s a p) : ∃ first, ClaimsFirst g ff s a first := by
  have some := List.isSome_head?.mpr (List.ne_nil_of_mem (mem_rivals.mpr claims))
  obtain ⟨first, head⟩ := Option.isSome_iff_exists.mp some
  exact ⟨first, head_rivals.mp head⟩

theorem claims_of_claimsFirst (first : ClaimsFirst g ff s a p) : Claims g ff s a p :=
  mem_rivals.mp (List.mem_of_mem_head? (head_rivals.mpr first))

/-- Nothing is reported exactly if no cell is claimed by two productions. -/
theorem conflicts_eq_nil_iff {cs : List Conflict} (listed : conflicts g ff = .ok cs) :
    cs = [] ↔ ∀ s a p q, Claims g ff s a p → Claims g ff s a q → p = q := by
  constructor
  · rintro rfl s a p q own other
    obtain ⟨first, leads⟩ := exists_claimsFirst own
    -- any other claimant would be reported against the first
    have alone : ∀ r, Claims g ff s a r → r = first := by
      intro r claimed
      by_contra apart
      exact absurd ((mem_conflicts_iff listed).mpr ⟨leads, claimed, apart⟩) List.not_mem_nil
    rw [alone p own, alone q other]
  · intro separate
    rw [List.eq_nil_iff_forall_not_mem]
    rintro ⟨s, a, p, q⟩ member
    obtain ⟨first, claimed, apart⟩ := (mem_conflicts_iff listed).mp member
    exact apart (separate s a q p claimed (claims_of_claimsFirst first))

theorem exists_build_iff (d : g.Declared) (known : FollowKnown g ff) :
    (∃ table, build g ff = .ok table) ↔
      ∀ s a p q, Claims g ff s a p → Claims g ff s a q → p = q := by
  obtain ⟨cs, listed, head⟩ := build_stopsAtHead_of_known d known
  exact head.ok_iff.trans (conflicts_eq_nil_iff listed)

/-- There is a predictive table exactly if the lookaheads tell the productions apart. -/
theorem exists_build_iff_separate (d : g.Declared) :
    (∃ table, build g (FirstFollow.ofGrammar g) = .ok table) ↔ Separate g := by
  have predicts : ∀ p a, Predicts g (FirstFollow.ofGrammar g) p a ↔ Expects g p a :=
    fun _ _ => mem_aheadOf.symm.trans (mem_aheadOf_iff_expects d)
  rw [exists_build_iff d (followKnown_ofGrammar d)]
  constructor
  · intro alone p rule q rule' same ahead expects expects'
    apply alone p.lhs ahead
    · exact ⟨rule, rfl, (predicts p ahead).mpr expects⟩
    · exact ⟨rule', same.symm, (predicts q ahead).mpr expects'⟩
  · intro separate s a p q own other
    have same := own.row.trans other.row.symm
    exact separate p own.rule q other.rule same a ((predicts p a).mp own.predicts)
      ((predicts q a).mp other.predicts)

/-- For any sets with a FOLLOW set for every nonterminal: there is a table exactly if no cell is
claimed by two productions, it then holds in each cell what claims it, and the conflicts are the
claims that come after another one, each against the first. -/
theorem predicted_cells_and_conflicts (built : g.Built) (known : FollowKnown g ff) :
    ((∃ table, build g ff = .ok table) ↔
      ∀ s a p q, Claims g ff s a p → Claims g ff s a q → p = q) ∧
    (∀ table, build g ff = .ok table → ∀ s a p,
      table.get? (s, a) = some p ↔ Claims g ff s a p) ∧
    ∃ cs, conflicts g ff = .ok cs ∧ ∀ c, c ∈ cs ↔
      ClaimsFirst g ff c.nonterminal c.lookahead c.existing ∧
        Claims g ff c.nonterminal c.lookahead c.new ∧ c.new ≠ c.existing := by
  have d := Grammar.built_declared built
  obtain ⟨cs, listed, _⟩ := build_stopsAtHead_of_known d known
  refine ⟨exists_build_iff d known, ?_, cs, listed, ?_⟩
  · intro table made s a p
    rw [get?_build made]
    constructor
    · rintro ⟨rule, rfl, ahead⟩
      exact ⟨rule, rfl, mem_aheadOf.mp ahead⟩
    · rintro ⟨rule, rfl, predicts⟩
      exact ⟨rule, rfl, mem_aheadOf.mpr predicts⟩
  · rintro ⟨s, a, p, q⟩
    exact mem_conflicts_iff listed

/-- Sets for brackets after which an opening one may come where none can. -/
def loose : FirstFollow :=
  ⟨∅, OrderedMap.ofList
    [(.nonterminal "S", SortedSet.ofList [.terminal "a", Symbol.endMarker])]⟩

/-- Both alternatives claim the cell of the opening bracket, and the first one keeps it. -/
theorem brackets_loose_conflict : FollowKnown Grammar.brackets loose ∧
    (¬ ∃ table, build Grammar.brackets loose = .ok table) ∧
    ∃ cs, conflicts Grammar.brackets loose = .ok cs ∧
      ⟨.nonterminal "S", .terminal "a",
        ⟨.nonterminal "S", [.terminal "a", .epsilon, .nonterminal "S", .terminal "b"]⟩,
        ⟨.nonterminal "S", [.epsilon]⟩⟩ ∈ cs := by
  have known : FollowKnown Grammar.brackets loose := by
    have all : Grammar.brackets.nonterminals.toList = [.nonterminal "S"] := by decide +kernel
    intro s declared
    rw [SortedSet.mem_def, all, List.mem_singleton] at declared
    subst declared
    exact ⟨_, rfl⟩
  obtain ⟨made, _, cs, listed, reported⟩ :=
    predicted_cells_and_conflicts Grammar.brackets_built known
  have opens : ClaimsFirst Grammar.brackets loose (.nonterminal "S") (.terminal "a")
      ⟨.nonterminal "S", [.terminal "a", .epsilon, .nonterminal "S", .terminal "b"]⟩ :=
    ⟨[], [⟨.nonterminal "S", [.epsilon]⟩], rfl, rfl, by decide +kernel, by simp⟩
  have vanishes : Claims Grammar.brackets loose (.nonterminal "S") (.terminal "a")
      ⟨.nonterminal "S", [.epsilon]⟩ :=
    ⟨by decide +kernel, rfl, by decide +kernel⟩
  refine ⟨known, ?_, cs, listed, (reported _).mpr ⟨opens, vanishes, by decide⟩⟩
  intro exists_table
  exact absurd (made.mp exists_table _ _ _ _ (claims_of_claimsFirst opens) vanishes) (by decide)

end TableParsing.Predictive
