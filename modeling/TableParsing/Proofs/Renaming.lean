import TableParsing.Proofs.Predictive.Tables
import TableParsing.Proofs.ShiftReduce.Recasting

/- Classification and names. FIRST and FOLLOW of a renamed grammar are the renamed sets, so there is
   a predictive table for both or for neither. For the shift-reduce tables the same holds of the
   conflicts outside the cell of acceptance. In that cell the place of the synthetic start symbol
   among the names decides: a grammar keeps its class under all renamings exactly if it has a
   conflict elsewhere or no two reductions claim that cell. -/
namespace TableParsing

def Grammar.rename (g : Grammar) (ρ : Renaming) : Grammar := ρ.recasting.grammar g

variable {g : Grammar}

theorem declared_rename (built : g.Built) (ρ : Renaming) : (g.rename ρ).Declared :=
  Grammar.built_declared (ρ.recasting.built_grammar built)

section Sets

variable (ρ : Renaming)

theorem leads_rename {symbols : List Symbol} {x : Symbol} (h : Leads g symbols x) :
    Leads (g.rename ρ) (symbols.map ρ.symbol) (ρ.symbol x) := by
  induction h with
  | done =>
    rw [ρ.epsilon]
    exact .done
  | marker rest =>
    rw [List.map_cons, ρ.epsilon]
    exact .marker _
  | afterMarker _ ih =>
    rw [List.map_cons, ρ.epsilon]
    exact .afterMarker ih
  | @plain s shown other rest =>
    have other' : ρ.symbol s ∉ (g.rename ρ).nonterminals := fun member =>
      other (ρ.recasting.symbol_mem_nonterminals.mp member)
    exact .plain (fun eq => shown (ρ.symbol_eq_epsilon.mp eq)) other' _
  | @within p x rule _ shown rest ih =>
    have rule' := ρ.recasting.mem_productions.mpr ⟨p, rule, rfl⟩
    exact .within rule' ih (fun eq => shown (ρ.symbol_eq_epsilon.mp eq)) _
  | @after p rest x rule _ _ ihv ihl =>
    have rule' := ρ.recasting.mem_productions.mpr ⟨p, rule, rfl⟩
    rw [ρ.epsilon] at ihv
    exact .after rule' ihv ihl

theorem exists_leads_of_rename {symbols symbols' : List Symbol} {y : Symbol}
    (same : symbols.map ρ.symbol = symbols') (h : Leads (g.rename ρ) symbols' y) :
    ∃ x, ρ.symbol x = y ∧ Leads g symbols x := by
  induction h generalizing symbols with
  | done =>
    obtain rfl := List.map_eq_nil_iff.mp same
    exact ⟨Symbol.epsilon, ρ.epsilon, .done⟩
  | marker rest' =>
    obtain ⟨s, rest, rfl, head, _⟩ := List.map_eq_cons_iff.mp same
    obtain rfl := ρ.symbol_eq_epsilon.mp head
    exact ⟨Symbol.epsilon, ρ.epsilon, .marker rest⟩
  | afterMarker _ ih =>
    obtain ⟨s, rest, rfl, head, tail⟩ := List.map_eq_cons_iff.mp same
    obtain rfl := ρ.symbol_eq_epsilon.mp head
    obtain ⟨x, hx, leads⟩ := ih tail
    exact ⟨x, hx, .afterMarker leads⟩
  | plain shown other rest' =>
    obtain ⟨s, rest, rfl, rfl, _⟩ := List.map_eq_cons_iff.mp same
    refine ⟨s, rfl, .plain ?_ ?_ rest⟩
    · exact fun eq => shown (ρ.symbol_eq_epsilon.mpr eq)
    · exact fun member => other (ρ.recasting.symbol_mem_nonterminals.mpr member)
  | within rule' _ shown rest' ih =>
    obtain ⟨p, rule, rfl⟩ := ρ.recasting.mem_productions.mp rule'
    obtain ⟨s, rest, rfl, head, _⟩ := List.map_eq_cons_iff.mp same
    obtain ⟨x, rfl, leads⟩ := ih rfl
    rw [ρ.injective head]
    exact ⟨x, rfl, .within rule leads (fun eq => shown (ρ.symbol_eq_epsilon.mpr eq)) rest⟩
  | after rule' _ _ ihv ihl =>
    obtain ⟨p, rule, rfl⟩ := ρ.recasting.mem_productions.mp rule'
    obtain ⟨s, rest, rfl, head, tail⟩ := List.map_eq_cons_iff.mp same
    obtain ⟨e, marker, vanishes⟩ := ihv rfl
    obtain rfl := ρ.symbol_eq_epsilon.mp marker
    obtain ⟨x, hx, leads⟩ := ihl tail
    rw [ρ.injective head]
    exact ⟨x, hx, .after rule vanishes leads⟩

theorem leads_epsilon_of_rename {symbols : List Symbol}
    (h : Leads (g.rename ρ) (symbols.map ρ.symbol) Symbol.epsilon) :
    Leads g symbols Symbol.epsilon := by
  obtain ⟨x, marker, leads⟩ := exists_leads_of_rename ρ rfl h
  exact ρ.symbol_eq_epsilon.mp marker ▸ leads

theorem trails_rename {s x : Symbol} (h : Trails g s x) :
    Trails (g.rename ρ) (ρ.symbol s) (ρ.symbol x) := by
  induction h with
  | last =>
    rw [ρ.endMarker]
    exact .last
  | @ahead p before rest s x rule split member leads shown =>
    have rule' := ρ.recasting.mem_productions.mpr ⟨p, rule, rfl⟩
    have split' : p.rhs.map ρ.symbol =
        before.map ρ.symbol ++ ρ.symbol s :: rest.map ρ.symbol := by
      rw [split, List.map_append, List.map_cons]
    exact .ahead rule' split' (ρ.recasting.symbol_mem_nonterminals.mpr member)
      (leads_rename ρ leads) (fun eq => shown (ρ.symbol_eq_epsilon.mp eq))
  | @inherited p before rest s x rule split member vanishes _ ih =>
    have rule' := ρ.recasting.mem_productions.mpr ⟨p, rule, rfl⟩
    have split' : p.rhs.map ρ.symbol =
        before.map ρ.symbol ++ ρ.symbol s :: rest.map ρ.symbol := by
      rw [split, List.map_append, List.map_cons]
    have vanishes' := leads_rename ρ vanishes
    rw [ρ.epsilon] at vanishes'
    exact .inherited rule' split' (ρ.recasting.symbol_mem_nonterminals.mpr member) vanishes' ih

theorem exists_trails_of_rename {s s' y : Symbol} (same : ρ.symbol s = s')
    (h : Trails (g.rename ρ) s' y) : ∃ x, ρ.symbol x = y ∧ Trails g s x := by
  induction h generalizing s with
  | last =>
    obtain rfl := ρ.injective same
    exact ⟨Symbol.endMarker, ρ.endMarker, .last⟩
  | ahead rule' split' member leads shown =>
    subst same
    obtain ⟨p, rule, rfl⟩ := ρ.recasting.mem_productions.mp rule'
    obtain ⟨before, tail, split, rfl, cut⟩ := List.map_eq_append_iff.mp split'
    obtain ⟨z, rest, rfl, head, rfl⟩ := List.map_eq_cons_iff.mp cut
    obtain rfl := ρ.injective head
    obtain ⟨x, rfl, begins⟩ := exists_leads_of_rename ρ rfl leads
    refine ⟨x, rfl, .ahead rule split (ρ.recasting.symbol_mem_nonterminals.mp member) begins ?_⟩
    exact fun eq => shown (ρ.symbol_eq_epsilon.mpr eq)
  | inherited rule' split' member vanishes _ ih =>
    subst same
    obtain ⟨p, rule, rfl⟩ := ρ.recasting.mem_productions.mp rule'
    obtain ⟨before, tail, split, rfl, cut⟩ := List.map_eq_append_iff.mp split'
    obtain ⟨z, rest, rfl, head, rfl⟩ := List.map_eq_cons_iff.mp cut
    obtain rfl := ρ.injective head
    obtain ⟨x, hx, behind⟩ := ih rfl
    exact ⟨x, hx, .inherited rule split (ρ.recasting.symbol_mem_nonterminals.mp member)
      (leads_epsilon_of_rename ρ vanishes) behind⟩

end Sets

namespace Predictive

theorem expects_rename (ρ : Renaming) {p : Production} {ahead : Symbol}
    (h : Expects g p ahead) :
    Expects (g.rename ρ) (ρ.recasting.production p) (ρ.symbol ahead) := by
  rcases h with ⟨leads, shown⟩ | ⟨vanishes, follows⟩
  · exact Or.inl ⟨leads_rename ρ leads, fun eq => shown (ρ.symbol_eq_epsilon.mp eq)⟩
  · have vanishes' := leads_rename ρ vanishes
    rw [ρ.epsilon] at vanishes'
    exact Or.inr ⟨vanishes', trails_rename ρ follows⟩

theorem exists_expects_of_rename (ρ : Renaming) {p : Production} {y : Symbol}
    (h : Expects (g.rename ρ) (ρ.recasting.production p) y) :
    ∃ x, ρ.symbol x = y ∧ Expects g p x := by
  rcases h with ⟨leads, shown⟩ | ⟨vanishes, follows⟩
  · obtain ⟨x, rfl, begins⟩ := exists_leads_of_rename ρ rfl leads
    exact ⟨x, rfl, Or.inl ⟨begins, fun eq => shown (ρ.symbol_eq_epsilon.mpr eq)⟩⟩
  · obtain ⟨x, hx, follows⟩ := exists_trails_of_rename ρ rfl follows
    exact ⟨x, hx, Or.inr ⟨leads_epsilon_of_rename ρ vanishes, follows⟩⟩

theorem separate_rename (ρ : Renaming) : Separate (g.rename ρ) ↔ Separate g := by
  constructor
  · intro separate p rule q rule' same ahead expects expects'
    have equal := separate _ (ρ.recasting.mem_productions.mpr ⟨p, rule, rfl⟩) _
      (ρ.recasting.mem_productions.mpr ⟨q, rule', rfl⟩) (congrArg ρ.symbol same) _
      (expects_rename ρ expects) (expects_rename ρ expects')
    obtain ⟨lhs, rhs⟩ := Production.mk.inj equal
    exact congr (congrArg Production.mk (ρ.injective lhs)) (ρ.map_inj.mp rhs)
  · intro separate p' rule q' rule' same y expects expects'
    obtain ⟨p, hp, rfl⟩ := ρ.recasting.mem_productions.mp rule
    obtain ⟨q, hq, rfl⟩ := ρ.recasting.mem_productions.mp rule'
    obtain ⟨x, rfl, one⟩ := exists_expects_of_rename ρ expects
    obtain ⟨x', hx, two⟩ := exists_expects_of_rename ρ expects'
    rw [ρ.injective hx] at two
    exact congrArg _ (separate p hp q hq (ρ.injective same) x one two)

end Predictive

namespace ShiftReduce

/-- At most one reduction claims the cell of acceptance. -/
def Unrivalled (g : Grammar) (follow : SymbolSets) : Prop :=
  ∀ lhs body lhs' body', Rival g follow lhs body → Rival g follow lhs' body' →
    lhs = lhs' ∧ body = body'

section Follow

variable (built : g.Built) (ρ : Renaming)
include built

theorem forth_rename : ρ.recasting.Forth g (FirstFollow.ofGrammar g).follow
    (FirstFollow.ofGrammar (g.rename ρ)).follow := by
  intro s _ x hx
  have d := Grammar.built_declared built
  have d' := declared_rename built ρ
  exact (mem_followSets d').mpr (trails_rename ρ ((mem_followSets d).mp hx))

theorem back_rename : ρ.recasting.Back g (FirstFollow.ofGrammar g).follow
    (FirstFollow.ofGrammar (g.rename ρ)).follow := by
  intro s _ y hy
  have d := Grammar.built_declared built
  have d' := declared_rename built ρ
  obtain ⟨x, hx, follows⟩ := exists_trails_of_rename ρ rfl ((mem_followSets d').mp hy)
  exact ⟨x, (mem_followSets d).mpr follows, hx⟩

/-- The renamed grammar has tables exactly if there is peace and no two rivals of acceptance have
new names that come before the synthetic start symbol. -/
theorem exists_build_rename_iff :
    (∃ t, build (g.rename ρ) (FirstFollow.ofGrammar (g.rename ρ)).follow = .ok t) ↔
      Peaceful g (FirstFollow.ofGrammar g).follow ∧
      ∀ lhs body lhs' body', Rival g (FirstFollow.ofGrammar g).follow lhs body →
        Rival g (FirstFollow.ofGrammar g).follow lhs' body' →
        compare (ρ.symbol lhs) (Augmented.ofGrammar (g.rename ρ)).start = .lt →
        compare (ρ.symbol lhs') (Augmented.ofGrammar (g.rename ρ)).start = .lt →
        lhs = lhs' ∧ body = body' := by
  have d := Grammar.built_declared built
  have d' := declared_rename built ρ
  have forth := forth_rename built ρ
  have back := back_rename built ρ
  rw [exists_build_iff_peaceful d']
  constructor
  · rintro ⟨peaceful, ordered⟩
    refine ⟨ρ.recasting.peaceful_of_grammar d forth peaceful, ?_⟩
    intro lhs body lhs' body' rival rival' less less'
    obtain ⟨same, same'⟩ := ordered _ _ _ _ (ρ.recasting.rival d forth rival)
      (ρ.recasting.rival d forth rival') less less'
    exact ⟨ρ.injective same, ρ.map_inj.mp same'⟩
  · rintro ⟨peaceful, ordered⟩
    refine ⟨ρ.recasting.peaceful d back peaceful, ?_⟩
    intro lhs body lhs' body' rival rival' less less'
    obtain ⟨lhs, body, rfl, rfl, one⟩ := ρ.recasting.exists_rival d back rival
    obtain ⟨lhs', body', rfl, rfl, two⟩ := ρ.recasting.exists_rival d back rival'
    obtain ⟨rfl, rfl⟩ := ordered _ _ _ _ one two less less'
    exact ⟨rfl, rfl⟩

end Follow

end ShiftReduce

/-- The names of the nonterminals with a letter in front. -/
def Renaming.tagged (tag : Char) : Renaming where
  symbol := fun s => match s.kind with
    | .nonterminal => .nonterminal (String.singleton tag ++ s.name)
    | _ => s
  injective := by
    rintro ⟨kind, name⟩ ⟨kind', name'⟩ same
    cases kind <;> cases kind' <;> simp_all [Symbol.nonterminal]
  kind := by
    rintro ⟨kind, name⟩
    cases kind <;> rfl
  epsilon := rfl
  endMarker := rfl

section Names

theorem exists_primed_eq (taken : List String) (limit : Nat) (name : String) :
    ∃ primes, primed taken limit name = name ++ primes := by
  induction limit generalizing name with
  | zero => exact ⟨"", (String.append_empty).symm⟩
  | succ limit ih =>
    unfold primed
    split
    · obtain ⟨primes, eq⟩ := ih (name ++ "'")
      exact ⟨"'" ++ primes, by rw [eq, String.append_assoc]⟩
    · exact ⟨"", (String.append_empty).symm⟩

theorem compare_of_first_lt {a b : Char} (less : a < b) (x y : String) :
    compare (String.singleton a ++ x) (String.singleton b ++ y) = .lt := by
  have before : String.singleton a ++ x < String.singleton b ++ y := by
    change (String.singleton a ++ x).toList < (String.singleton b ++ y).toList
    rw [String.toList_append, String.toList_append, String.toList_singleton,
      String.toList_singleton]
    exact List.Lex.rel less
  exact if_pos before

theorem exists_start_eq (g : Grammar) : ∃ primes,
    (Augmented.ofGrammar g).start = .nonterminal (String.singleton 'Z' ++ primes) := by
  obtain ⟨primes, eq⟩ := exists_primed_eq
    ((g.nonterminals.toList ++ g.terminals.toList).map Symbol.name)
    ((g.nonterminals.toList ++ g.terminals.toList).map Symbol.name).length "Z"
  exact ⟨primes, congrArg Symbol.nonterminal eq⟩

theorem compare_nonterminal (x y : String) :
    compare (Symbol.nonterminal x) (Symbol.nonterminal y) = compare x y := by
  rw [Symbol.compare_def]
  rfl

variable {s : Symbol} (kind : s.kind = .nonterminal) {tag : Char}
include kind

theorem tagged_symbol :
    (Renaming.tagged tag).symbol s = .nonterminal (String.singleton tag ++ s.name) := by
  simp only [Renaming.tagged, kind]

theorem compare_tagged_of_lt (less : tag < 'Z') (g : Grammar) :
    compare ((Renaming.tagged tag).symbol s) (Augmented.ofGrammar g).start = .lt := by
  obtain ⟨primes, eq⟩ := exists_start_eq g
  rw [eq, tagged_symbol kind, compare_nonterminal]
  exact compare_of_first_lt less _ _

theorem compare_tagged_of_gt (less : 'Z' < tag) (g : Grammar) :
    compare ((Renaming.tagged tag).symbol s) (Augmented.ofGrammar g).start = .gt := by
  obtain ⟨primes, eq⟩ := exists_start_eq g
  rw [eq, tagged_symbol kind, compare_nonterminal]
  exact Std.OrientedCmp.gt_of_lt (compare_of_first_lt less _ _)

end Names

namespace ShiftReduce

theorem Rival.kind (d : g.Declared) {follow : SymbolSets} {lhs : Symbol} {body : List Symbol}
    (rival : Rival g follow lhs body) : lhs.kind = .nonterminal := by
  obtain ⟨p, rule, rfl, _⟩ := rival.1.rule_of_ne_start rival.2.1
  exact d.kind _ (d.lhs_mem rule)

variable (built : g.Built)
include built

theorem exists_build_of_unrivalled (ρ : Renaming)
    (peaceful : Peaceful g (FirstFollow.ofGrammar g).follow)
    (unrivalled : Unrivalled g (FirstFollow.ofGrammar g).follow) :
    ∃ t, build (g.rename ρ) (FirstFollow.ofGrammar (g.rename ρ)).follow = .ok t :=
  (exists_build_rename_iff built ρ).mpr
    ⟨peaceful, fun _ _ _ _ rival rival' _ _ => unrivalled _ _ _ _ rival rival'⟩

/-- With all names behind the synthetic start symbol, acceptance comes before its rivals. -/
theorem exists_build_tagged (peaceful : Peaceful g (FirstFollow.ofGrammar g).follow) :
    ∃ t, build (g.rename (.tagged 'a'))
      (FirstFollow.ofGrammar (g.rename (.tagged 'a'))).follow = .ok t := by
  have d := Grammar.built_declared built
  refine (exists_build_rename_iff built _).mpr ⟨peaceful, ?_⟩
  intro lhs body lhs' body' rival _ less _
  have greater := compare_tagged_of_gt (rival.kind d) (by decide : 'Z' < 'a')
    (g.rename (.tagged 'a'))
  cases less.symm.trans greater

/-- With all names before it, acceptance comes behind them. -/
theorem unrivalled_of_tagged (made : ∃ t, build (g.rename (.tagged 'A'))
    (FirstFollow.ofGrammar (g.rename (.tagged 'A'))).follow = .ok t) :
    Unrivalled g (FirstFollow.ofGrammar g).follow := by
  have d := Grammar.built_declared built
  obtain ⟨_, ordered⟩ := (exists_build_rename_iff built _).mp made
  intro lhs body lhs' body' rival rival'
  exact ordered _ _ _ _ rival rival' (compare_tagged_of_lt (rival.kind d) (by decide) _)
    (compare_tagged_of_lt (rival'.kind d) (by decide) _)

omit built

/-- Behind the start symbol only the nonterminal that vanishes can be reduced to. -/
theorem trailing_unrivalled :
    Unrivalled trailing (FirstFollow.ofGrammar trailing).follow := by
  have items : ∀ i ∈ (Automaton.stateAfter (.ofGrammar trailing) [trailing.start]).toList,
      i.isReduce = true → i.lhs = (Augmented.ofGrammar trailing).start ∨
        (i.lhs = .nonterminal "A" ∧ i.rhs = []) := by
    decide +kernel
  have only : ∀ {lhs body}, Rival trailing (FirstFollow.ofGrammar trailing).follow lhs body →
      lhs = .nonterminal "A" ∧ body = [] := by
    rintro lhs body ⟨item, ne, _⟩
    have member := (Automaton.mem_stateAfter (Grammar.built_declared trailing_built)).mpr item
    rcases items _ member (by simp) with start | ⟨own, empty⟩
    · exact absurd start ne
    · exact ⟨own, by simpa [Item.dotted] using empty⟩
  intro lhs body lhs' body' rival rival'
  obtain ⟨rfl, rfl⟩ := only rival
  obtain ⟨rfl, rfl⟩ := only rival'
  exact ⟨rfl, rfl⟩

end ShiftReduce

/-- Names do not matter for the predictive tables. For the shift-reduce tables they do not exactly
if the grammar has a conflict outside the cell of acceptance or at most one reduction in it. -/
theorem renamed_classification (built : g.Built) :
    (∀ ρ : Renaming,
      (∃ table, Predictive.build (g.rename ρ) (FirstFollow.ofGrammar (g.rename ρ)) = .ok table) ↔
        ∃ table, Predictive.build g (FirstFollow.ofGrammar g) = .ok table) ∧
    ((∀ ρ : Renaming,
      (∃ t, ShiftReduce.build (g.rename ρ) (FirstFollow.ofGrammar (g.rename ρ)).follow = .ok t) ↔
        ∃ t, ShiftReduce.build g (FirstFollow.ofGrammar g).follow = .ok t) ↔
      (ShiftReduce.Peaceful g (FirstFollow.ofGrammar g).follow →
        ShiftReduce.Unrivalled g (FirstFollow.ofGrammar g).follow)) := by
  have d := Grammar.built_declared built
  refine ⟨?_, ?_, ?_⟩
  · intro ρ
    rw [Predictive.exists_build_iff_separate d,
      Predictive.exists_build_iff_separate (declared_rename built ρ)]
    exact Predictive.separate_rename ρ
  · intro same peaceful
    have made := (same _).mp (ShiftReduce.exists_build_tagged built peaceful)
    exact ShiftReduce.unrivalled_of_tagged built ((same _).mpr made)
  · intro few ρ
    constructor
    · intro made
      have peaceful := ((ShiftReduce.exists_build_rename_iff built ρ).mp made).1
      refine ShiftReduce.exists_build_of_peaceful d peaceful ?_
      exact fun _ _ _ _ rival rival' _ _ => few peaceful _ _ _ _ rival rival'
    · rintro ⟨t, made⟩
      have peaceful := ShiftReduce.peaceful_of_build d made
      exact ShiftReduce.exists_build_of_unrivalled built ρ peaceful (few peaceful)

theorem trailing_renamed : ShiftReduce.trailing.Built ∧ ∀ ρ : Renaming,
    ∃ t, ShiftReduce.build (ShiftReduce.trailing.rename ρ)
      (FirstFollow.ofGrammar (ShiftReduce.trailing.rename ρ)).follow = .ok t := by
  have filled : (ShiftReduce.build ShiftReduce.trailing
      (FirstFollow.ofGrammar ShiftReduce.trailing).follow).toOption.any (fun _ => true) = true := by
    decide +kernel
  obtain ⟨t, made, _⟩ := exists_ok_of_any filled
  have same := (renamed_classification ShiftReduce.trailing_built).2.mpr
    fun _ => ShiftReduce.trailing_unrivalled
  exact ⟨ShiftReduce.trailing_built, fun ρ => (same ρ).mpr ⟨t, made⟩⟩

namespace ShiftReduce

/-- Two nonterminals that stand for the start symbol, with names before the synthetic one. -/
def loops : Grammar :=
  let rules := (Grammar.ofStart (.nonterminal "S")).define (.nonterminal "S")
    [[.nonterminal "T"], [.nonterminal "U"], [.terminal "a"]]
  (rules.define (.nonterminal "T") [[.nonterminal "S"]]).define (.nonterminal "U")
    [[.nonterminal "S"]]

/-- Its two reductions to `T` and to `U` meet before acceptance displaces them; with names behind
the synthetic one acceptance is there first. -/
theorem loops_classification : loops.Built ∧
    (¬ ∃ t, build loops (FirstFollow.ofGrammar loops).follow = .ok t) ∧
    ∃ t, build (loops.rename (.tagged 'z'))
      (FirstFollow.ofGrammar (loops.rename (.tagged 'z'))).follow = .ok t := by
  refine ⟨?_, ?_, ?_⟩
  · refine Grammar.built_define (Grammar.built_define (Grammar.built_define
      (Grammar.built_ofStart rfl) rfl ?_) rfl ?_) rfl ?_
    all_goals decide
  · refine not_exists_ok ?_
    decide +kernel
  · have filled : (build (loops.rename (.tagged 'z'))
        (FirstFollow.ofGrammar (loops.rename (.tagged 'z'))).follow).toOption.any
          (fun _ => true) = true := by
      decide +kernel
    obtain ⟨t, made, _⟩ := exists_ok_of_any filled
    exact ⟨t, made⟩

end ShiftReduce

end TableParsing
