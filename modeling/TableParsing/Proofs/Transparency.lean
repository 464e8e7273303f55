import TableParsing.Parser
import TableParsing.Proofs.Predictive.Tables
import TableParsing.Proofs.Predictive.Halting
import TableParsing.Proofs.Sets.Unmarked
import TableParsing.Proofs.ShiftReduce.Lockstep

/- What the epsilon markers inside alternatives do to classes and runs. Without them the sets only
   get smaller, so tables are never lost, and both grammars have the same sentences. Harmless
   markers are transparent: the sets stay, the shift-reduce tables exist for both grammars or for
   neither, and runs end alike. The predictive tables ask for more, since they tell alternatives
   apart by their markers: no alternative may be repeated with other markers. -/
namespace TableParsing

variable {g : Grammar}

namespace Predictive

/-- No alternative that some lookahead calls for is repeated with other markers. -/
def Unrepeated (g : Grammar) : Prop :=
  ∀ p ∈ g.productions, ∀ q ∈ g.productions, p.lhs = q.lhs → p.body = q.body →
    ∀ ahead, Expects g p ahead → p = q

theorem expects_of_unmarked (d : g.Declared) {p : Production} {ahead : Symbol}
    (h : Expects g.unmarked (unmarking.production p) ahead) : Expects g p ahead := by
  rcases h with ⟨leads, shown⟩ | ⟨vanishes, follows⟩
  · exact Or.inl ⟨leads_rhs_of_unmarked d leads, shown⟩
  · exact Or.inr ⟨leads_rhs_of_unmarked d vanishes, trails_of_unmarked d follows⟩

theorem expects_unmarked (built : g.Built) (harmless : g.HarmlessMarkers) {p : Production}
    (rule : p ∈ g.productions) {ahead : Symbol} (h : Expects g p ahead) :
    Expects g.unmarked (unmarking.production p) ahead := by
  rcases h with ⟨leads, shown⟩ | ⟨vanishes, follows⟩
  · exact Or.inl ⟨leads_rhs_unmarked built harmless rule leads, shown⟩
  · exact Or.inr ⟨leads_rhs_unmarked built harmless rule vanishes,
      trails_unmarked built harmless follows⟩

theorem separate_unmarked (d : g.Declared) (separate : Separate g) : Separate g.unmarked := by
  intro p₀ rule q₀ rule' same ahead expects expects'
  obtain ⟨p, hp, rfl⟩ := unmarking.mem_productions.mp rule
  obtain ⟨q, hq, rfl⟩ := unmarking.mem_productions.mp rule'
  exact congrArg _ (separate p hp q hq same ahead (expects_of_unmarked d expects)
    (expects_of_unmarked d expects'))

theorem separate_iff_unmarked (built : g.Built) (harmless : g.HarmlessMarkers) :
    Separate g ↔ Separate g.unmarked ∧ Unrepeated g := by
  have d := Grammar.built_declared built
  have image : ∀ {p q : Production}, p.lhs = q.lhs → p.body = q.body →
      unmarking.production p = unmarking.production q := by
    intro p q left body
    change Production.mk p.lhs (Grammar.storedAlternative p.body) =
      ⟨q.lhs, Grammar.storedAlternative q.body⟩
    rw [left, body]
  constructor
  · intro separate
    refine ⟨separate_unmarked d separate, ?_⟩
    intro p rule q rule' left body ahead expects
    have expects' := expects_unmarked built harmless rule expects
    rw [image left body] at expects'
    exact separate p rule q rule' left ahead expects (expects_of_unmarked d expects')
  · rintro ⟨separate, unrepeated⟩ p rule q rule' left ahead expects expects'
    have equal := separate _ (unmarking.mem_productions.mpr ⟨p, rule, rfl⟩) _
      (unmarking.mem_productions.mpr ⟨q, rule', rfl⟩) left ahead
      (expects_unmarked built harmless rule expects)
      (expects_unmarked built harmless rule' expects')
    have body : p.body = q.body := by
      have bodies := congrArg Production.body equal
      simpa [unmarking] using bodies
    exact unrepeated p rule q rule' left body ahead expects

end Predictive

namespace ShiftReduce

theorem start_ofGrammar_unmarked :
    (Augmented.ofGrammar g.unmarked).start = (Augmented.ofGrammar g).start := by
  unfold Augmented.ofGrammar
  rw [nonterminals_unmarked, terminals_unmarked]

theorem back_unmarked (built : g.Built) : unmarking.Back g (FirstFollow.ofGrammar g).follow
    (FirstFollow.ofGrammar g.unmarked).follow := by
  intro s _ x hx
  have follows := trails_of_unmarked (Grammar.built_declared built)
    ((mem_followSets (declared_unmarked built)).mp hx)
  exact ⟨x, (mem_followSets (Grammar.built_declared built)).mpr follows, rfl⟩

theorem forth_unmarked (built : g.Built) (harmless : g.HarmlessMarkers) :
    unmarking.Forth g (FirstFollow.ofGrammar g).follow
      (FirstFollow.ofGrammar g.unmarked).follow := by
  intro s _ x hx
  rw [ofGrammar_unmarked built harmless]
  exact hx

theorem exists_build_unmarked (built : g.Built) {t : Tables}
    (made : build g (FirstFollow.ofGrammar g).follow = .ok t) :
    ∃ t₀, build g.unmarked (FirstFollow.ofGrammar g.unmarked).follow = .ok t₀ := by
  have d := Grammar.built_declared built
  have back := back_unmarked built
  refine exists_build_of_peaceful (declared_unmarked built)
    (unmarking.peaceful d back (peaceful_of_build d made)) ?_
  intro lhs body lhs' body' rival rival' less less'
  rw [start_ofGrammar_unmarked] at less less'
  obtain ⟨_, _, rfl, rfl, one⟩ := unmarking.exists_rival d back rival
  obtain ⟨_, _, rfl, rfl, two⟩ := unmarking.exists_rival d back rival'
  obtain ⟨rfl, rfl⟩ := ordered_of_build d made _ _ _ _ one two less less'
  exact ⟨rfl, rfl⟩

theorem exists_build_of_unmarked (built : g.Built) (harmless : g.HarmlessMarkers) {t₀ : Tables}
    (made : build g.unmarked (FirstFollow.ofGrammar g.unmarked).follow = .ok t₀) :
    ∃ t, build g (FirstFollow.ofGrammar g).follow = .ok t := by
  have d := Grammar.built_declared built
  have d' := declared_unmarked built
  have forth := forth_unmarked built harmless
  refine exists_build_of_peaceful d
    (unmarking.peaceful_of_grammar d forth (peaceful_of_build d' made)) ?_
  intro lhs body lhs' body' rival rival' less less'
  rw [← start_ofGrammar_unmarked] at less less'
  obtain ⟨same, bodies⟩ := ordered_of_build d' made _ _ _ _ (unmarking.rival d forth rival)
    (unmarking.rival d forth rival') less less'
  exact ⟨same, unmarking.map_inj.mp bodies⟩

end ShiftReduce

namespace Parser

theorem parse_predictive_iff {table : Predictive.Table} {tokens : List Symbol} :
    (predictive g table).parse tokens = .ok true ↔
      Predictive.run g table tokens = some .accepted := by
  unfold parse
  dsimp only
  cases Predictive.run g table tokens with
  | none => simp
  | some o => simp

theorem parse_shiftReduce_iff {t : ShiftReduce.Tables} {tokens : List Symbol} :
    (shiftReduce g t).parse tokens = .ok true ↔
      ShiftReduce.run g t tokens = some .accepted := by
  unfold parse
  dsimp only
  cases ShiftReduce.run g t tokens with
  | none => simp
  | some o => cases o <;> simp

/-- Tables from a grammar never break a run, so there is a verdict or the run does not end. -/
theorem parse_shiftReduce (d : g.Declared) {follow : SymbolSets} {t : ShiftReduce.Tables}
    (made : ShiftReduce.build g follow = .ok t) (tokens : List Symbol) :
    (shiftReduce g t).parse tokens =
      ((ShiftReduce.run g t tokens).map fun o => decide (o = .accepted)).elim
        (.error .endless) .ok := by
  unfold parse
  dsimp only
  cases ends : ShiftReduce.run g t tokens with
  | none => rfl
  | some o =>
    rcases ShiftReduce.run_cases d made ends with rfl | ⟨s, rfl⟩ | ⟨state, s, rfl⟩
    all_goals rfl

section Predictive

variable {table table₀ : Predictive.Table} (built : g.Built)
  (made : Predictive.build g (FirstFollow.ofGrammar g) = .ok table)
  (made₀ : Predictive.build g.unmarked (FirstFollow.ofGrammar g.unmarked) = .ok table₀)
  (tokens : List Symbol)

include built made made₀

theorem run_predictive_unmarked : Predictive.run g table tokens = some .accepted ↔
    Predictive.run g.unmarked table₀ tokens = some .accepted := by
  rw [Predictive.run_accepted_iff_parses (Grammar.built_declared built) made,
    Predictive.run_accepted_iff_parses (declared_unmarked built) made₀,
    ← Grammar.sentence_iff_parses, ← Grammar.sentence_iff_parses, sentence_unmarked]

/-- With harmless markers both runs end, so the language decides. -/
theorem parse_predictive_unmarked (harmless : g.HarmlessMarkers) :
    (predictive g table).parse tokens = (predictive g.unmarked table₀).parse tokens := by
  have same := run_predictive_unmarked built made made₀ tokens
  obtain ⟨o, ends⟩ := Predictive.run_of_harmless (Grammar.built_declared built) made harmless tokens
  obtain ⟨o₀, ends₀⟩ := Predictive.run_of_harmless (declared_unmarked built) made₀
    soleMarkers_unmarked.harmless tokens
  rw [ends, ends₀, Option.some.injEq, Option.some.injEq] at same
  unfold parse
  dsimp only
  rw [ends, ends₀]
  exact congrArg Except.ok (decide_eq_decide.mpr same)

end Predictive

section ShiftReduce

variable {t t₀ : ShiftReduce.Tables} (built : g.Built)
  (made : ShiftReduce.build g (FirstFollow.ofGrammar g).follow = .ok t)
  (made₀ : ShiftReduce.build g.unmarked (FirstFollow.ofGrammar g.unmarked).follow = .ok t₀)
  (tokens : List Symbol)

include built made made₀

theorem run_shiftReduce_unmarked : ShiftReduce.run g t tokens = some .accepted ↔
    ShiftReduce.run g.unmarked t₀ tokens = some .accepted := by
  rw [ShiftReduce.run_accepted_iff_parses (Grammar.built_declared built) made,
    ShiftReduce.run_accepted_iff_parses (declared_unmarked built) made₀,
    ← Grammar.sentence_iff_parses, ← Grammar.sentence_iff_parses, sentence_unmarked]

/-- With harmless markers both runs go in lockstep. -/
theorem parse_shiftReduce_unmarked (harmless : g.HarmlessMarkers) :
    (shiftReduce g t).parse tokens = (shiftReduce g.unmarked t₀).parse tokens := by
  have d := Grammar.built_declared built
  have d' := declared_unmarked built
  have verdict := unmarking.run_mirrors d d' made made₀ (ShiftReduce.forth_unmarked built harmless)
    (ShiftReduce.back_unmarked built) tokens
  rw [show unmarking.symbol = id from rfl, List.map_id] at verdict
  rw [parse_shiftReduce d made, parse_shiftReduce d' made₀, verdict]
  rfl

end ShiftReduce

end Parser

/-- One grammar in place of another loses nothing: its sets are no larger, it has tables where the
other one has, and where both have they accept the same inputs. -/
structure Simplifies (g₀ g : Grammar) : Prop where
  first : ∀ s x, x ∈ (FirstFollow.ofGrammar g₀).first.getD s ∅ →
    x ∈ (FirstFollow.ofGrammar g).first.getD s ∅
  follow : ∀ s x, x ∈ (FirstFollow.ofGrammar g₀).follow.getD s ∅ →
    x ∈ (FirstFollow.ofGrammar g).follow.getD s ∅
  predictive : (∃ table, Predictive.build g (FirstFollow.ofGrammar g) = .ok table) →
    ∃ table, Predictive.build g₀ (FirstFollow.ofGrammar g₀) = .ok table
  shiftReduce : (∃ t, ShiftReduce.build g (FirstFollow.ofGrammar g).follow = .ok t) →
    ∃ t, ShiftReduce.build g₀ (FirstFollow.ofGrammar g₀).follow = .ok t
  predictiveAccepts : ∀ table table₀,
    Predictive.build g (FirstFollow.ofGrammar g) = .ok table →
    Predictive.build g₀ (FirstFollow.ofGrammar g₀) = .ok table₀ → ∀ tokens,
      (Parser.predictive g table).parse tokens = .ok true ↔
        (Parser.predictive g₀ table₀).parse tokens = .ok true
  shiftReduceAccepts : ∀ t t₀,
    ShiftReduce.build g (FirstFollow.ofGrammar g).follow = .ok t →
    ShiftReduce.build g₀ (FirstFollow.ofGrammar g₀).follow = .ok t₀ → ∀ tokens,
      (Parser.shiftReduce g t).parse tokens = .ok true ↔
        (Parser.shiftReduce g₀ t₀).parse tokens = .ok true

/-- The grammar without its markers is the same to both engines, but for alternatives that are
repeated with other markers. -/
structure Transparent (g : Grammar) : Prop where
  sets : FirstFollow.ofGrammar g.unmarked = FirstFollow.ofGrammar g
  predictive : (∃ table, Predictive.build g (FirstFollow.ofGrammar g) = .ok table) ↔
    (∃ table, Predictive.build g.unmarked (FirstFollow.ofGrammar g.unmarked) = .ok table) ∧
      Predictive.Unrepeated g
  shiftReduce : (∃ t, ShiftReduce.build g (FirstFollow.ofGrammar g).follow = .ok t) ↔
    ∃ t, ShiftReduce.build g.unmarked (FirstFollow.ofGrammar g.unmarked).follow = .ok t
  predictiveRuns : ∀ table table₀,
    Predictive.build g (FirstFollow.ofGrammar g) = .ok table →
    Predictive.build g.unmarked (FirstFollow.ofGrammar g.unmarked) = .ok table₀ → ∀ tokens,
      (Parser.predictive g table).parse tokens = (Parser.predictive g.unmarked table₀).parse tokens
  shiftReduceRuns : ∀ t t₀,
    ShiftReduce.build g (FirstFollow.ofGrammar g).follow = .ok t →
    ShiftReduce.build g.unmarked (FirstFollow.ofGrammar g.unmarked).follow = .ok t₀ → ∀ tokens,
      (Parser.shiftReduce g t).parse tokens = (Parser.shiftReduce g.unmarked t₀).parse tokens

theorem simplifies_unmarked (built : g.Built) : Simplifies g.unmarked g := by
  have d := Grammar.built_declared built
  have d' := declared_unmarked built
  constructor
  case first =>
    intro s x hx
    exact (mem_firstSets d).mpr (begins_of_unmarked d ((mem_firstSets d').mp hx))
  case follow =>
    intro s x hx
    exact (mem_followSets d).mpr (trails_of_unmarked d ((mem_followSets d').mp hx))
  case predictive =>
    rw [Predictive.exists_build_iff_separate d, Predictive.exists_build_iff_separate d']
    exact Predictive.separate_unmarked d
  case shiftReduce =>
    rintro ⟨t, made⟩
    exact ShiftReduce.exists_build_unmarked built made
  case predictiveAccepts =>
    intro table table₀ made made₀ tokens
    rw [Parser.parse_predictive_iff, Parser.parse_predictive_iff]
    exact Parser.run_predictive_unmarked built made made₀ tokens
  case shiftReduceAccepts =>
    intro t t₀ made made₀ tokens
    rw [Parser.parse_shiftReduce_iff, Parser.parse_shiftReduce_iff]
    exact Parser.run_shiftReduce_unmarked built made made₀ tokens

theorem transparent_of_harmless (built : g.Built) (harmless : g.HarmlessMarkers) :
    Transparent g := by
  have d := Grammar.built_declared built
  have d' := declared_unmarked built
  constructor
  case sets => exact ofGrammar_unmarked built harmless
  case predictive =>
    rw [Predictive.exists_build_iff_separate d, Predictive.exists_build_iff_separate d']
    exact Predictive.separate_iff_unmarked built harmless
  case shiftReduce =>
    constructor
    · rintro ⟨t, made⟩
      exact ShiftReduce.exists_build_unmarked built made
    · rintro ⟨t₀, made₀⟩
      exact ShiftReduce.exists_build_of_unmarked built harmless made₀
  case predictiveRuns =>
    intro table table₀ made made₀ tokens
    exact Parser.parse_predictive_unmarked built made made₀ tokens harmless
  case shiftReduceRuns =>
    intro t t₀ made made₀ tokens
    exact Parser.parse_shiftReduce_unmarked built made made₀ tokens harmless

/-- Markers can be left out without loss. They are transparent wherever the walks of the
computation report only an epsilon that is true. -/
theorem unmarked_analysis (built : g.Built) :
    Simplifies g.unmarked g ∧
    (g.HarmlessMarkers ↔ ∀ p ∈ g.productions, Truthful g p.rhs ∧
      ∀ before s rest, p.rhs = before ++ s :: rest → s ∈ g.nonterminals → Truthful g rest) ∧
    (g.HarmlessMarkers → Transparent g) :=
  ⟨simplifies_unmarked built, harmlessMarkers_iff_truthful (Grammar.built_declared built),
    transparent_of_harmless built⟩

/-- A marker behind a nonterminal and before another one that vanishes, and two markers alone. -/
def veiled : Grammar :=
  (((Grammar.ofStart (.nonterminal "S")).define (.nonterminal "S")
    [[.terminal "a", .nonterminal "A", .epsilon, .nonterminal "B"]]).define (.nonterminal "A")
    [[.terminal "b"], []]).define (.nonterminal "B") [[.epsilon, .epsilon]]

theorem veiled_built : veiled.Built := by
  refine Grammar.built_define (Grammar.built_define (Grammar.built_define
    (Grammar.built_ofStart rfl) rfl ?_) rfl ?_) rfl ?_
  all_goals decide

theorem veiled_harmless : veiled.HarmlessMarkers := by
  have behind : ∀ p ∈ veiled.productions, ∀ i ∈ List.range p.rhs.length,
      p.rhs[i]? = some Symbol.epsilon →
        visible (p.rhs.drop (i + 1)) = [] ∨ visible (p.rhs.drop (i + 1)) = [.nonterminal "B"] := by
    decide +kernel
  intro p rule before rest split _
  have last : p.rhs.drop (before.length + 1) = rest := by simp [split]
  have options := behind p rule before.length (by simp [split]) (by simp [split])
  rw [last] at options
  unfold Grammar.Vanishes
  rcases options with none | single
  · rw [none]
    exact .refl
  · have empty : ⟨.nonterminal "B", [.epsilon, .epsilon]⟩ ∈ veiled.productions := by
      decide +kernel
    rw [single]
    exact .single (.replace [] [] _ empty)

theorem veiled_analysis : veiled.HarmlessMarkers ∧
    FirstFollow.ofGrammar veiled.unmarked = FirstFollow.ofGrammar veiled ∧
    ∃ table table₀ t t₀, Predictive.build veiled (FirstFollow.ofGrammar veiled) = .ok table ∧
      Predictive.build veiled.unmarked (FirstFollow.ofGrammar veiled.unmarked) = .ok table₀ ∧
      ShiftReduce.build veiled (FirstFollow.ofGrammar veiled).follow = .ok t ∧
      ShiftReduce.build veiled.unmarked (FirstFollow.ofGrammar veiled.unmarked).follow = .ok t₀ ∧
      ∀ tokens, (Parser.predictive veiled table).parse tokens =
          (Parser.predictive veiled.unmarked table₀).parse tokens ∧
        (Parser.shiftReduce veiled t).parse tokens =
          (Parser.shiftReduce veiled.unmarked t₀).parse tokens := by
  have predictive : (Predictive.build veiled (FirstFollow.ofGrammar veiled)).toOption.any
      (fun _ => true) = true := by
    decide +kernel
  have shiftReduce : (ShiftReduce.build veiled
      (FirstFollow.ofGrammar veiled).follow).toOption.any (fun _ => true) = true := by
    decide +kernel
  obtain ⟨table, made, _⟩ := exists_ok_of_any predictive
  obtain ⟨t, tables, _⟩ := exists_ok_of_any shiftReduce
  have transparent := (unmarked_analysis veiled_built).2.2 veiled_harmless
  obtain ⟨⟨table₀, made₀⟩, _⟩ := transparent.predictive.mp ⟨table, made⟩
  obtain ⟨t₀, tables₀⟩ := transparent.shiftReduce.mp ⟨t, tables⟩
  refine ⟨veiled_harmless, transparent.sets, table, table₀, t, t₀, made, made₀, tables, tables₀, ?_⟩
  intro tokens
  exact ⟨transparent.predictiveRuns table table₀ made made₀ tokens,
    transparent.shiftReduceRuns t t₀ tables tables₀ tokens⟩

/-- The walk over the alternative of `A` comes past a marker, so `A` is said to vanish. -/
def misled : Grammar :=
  ((Grammar.ofStart (.nonterminal "S")).define (.nonterminal "S")
    [[.nonterminal "A"], []]).define (.nonterminal "A") [[.epsilon, .terminal "a"]]

/-- Both alternatives of `S` then claim one cell; without the marker they do not. -/
theorem misled_classification : misled.Built ∧
    Symbol.epsilon ∈ (FirstFollow.ofGrammar misled).first.getD (.nonterminal "A") ∅ ∧
    Symbol.epsilon ∉ (FirstFollow.ofGrammar misled.unmarked).first.getD (.nonterminal "A") ∅ ∧
    (¬ ∃ table, Predictive.build misled (FirstFollow.ofGrammar misled) = .ok table) ∧
    ∃ table, Predictive.build misled.unmarked (FirstFollow.ofGrammar misled.unmarked) =
      .ok table := by
  refine ⟨?_, by decide +kernel, by decide +kernel, ?_, ?_⟩
  · refine Grammar.built_define (Grammar.built_define (Grammar.built_ofStart rfl) rfl ?_) rfl ?_
    all_goals decide
  · refine not_exists_ok ?_
    decide +kernel
  · have filled : (Predictive.build misled.unmarked
        (FirstFollow.ofGrammar misled.unmarked)).toOption.any (fun _ => true) = true := by
      decide +kernel
    obtain ⟨table, made, _⟩ := exists_ok_of_any filled
    exact ⟨table, made⟩

end TableParsing
