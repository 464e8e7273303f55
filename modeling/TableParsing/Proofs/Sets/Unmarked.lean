import TableParsing.Proofs.Grammar.Recasting
import TableParsing.Proofs.Sets.Lookahead

/- A grammar and what is left of it without the epsilon markers in alternatives that are not empty.
   Both have the same derivations. The walks that compute FIRST and FOLLOW find in the grammar at
   least what they find without the markers, and with harmless markers nothing else. So with
   harmless markers the computed families are the same. -/
namespace TableParsing

/-- The grammar with the body of each alternative in its place, or the lone marker where the body
is empty. -/
def Grammar.unmarked (g : Grammar) : Grammar := unmarking.grammar g

variable {g : Grammar}

@[simp] theorem start_unmarked : g.unmarked.start = g.start := rfl

@[simp] theorem nonterminals_unmarked : g.unmarked.nonterminals = g.nonterminals := by
  refine SortedSet.ext fun s => ?_
  exact unmarking.symbol_mem_nonterminals

@[simp] theorem terminals_unmarked : g.unmarked.terminals = g.terminals := by
  refine SortedSet.ext fun s => ?_
  exact unmarking.symbol_mem_terminals

theorem mem_productions_unmarked {p : Production} :
    p ∈ g.unmarked.productions ↔
      ∃ q ∈ g.productions, ⟨q.lhs, Grammar.storedAlternative q.body⟩ = p :=
  unmarking.mem_productions

theorem body_stored (p : Production) :
    (⟨p.lhs, Grammar.storedAlternative p.body⟩ : Production).body = p.body := by
  have body := unmarking.production_body p
  rw [show unmarking.symbol = id from rfl, List.map_id] at body
  exact body

theorem declared_unmarked (built : g.Built) : g.unmarked.Declared :=
  Grammar.built_declared (unmarking.built_grammar built)

theorem soleMarkers_unmarked : g.unmarked.SoleMarkers := by
  intro p rule marked
  obtain ⟨q, _, rfl⟩ := mem_productions_unmarked.mp rule
  unfold Grammar.storedAlternative at marked ⊢
  dsimp only at marked ⊢
  split at marked
  · rename_i empty
    rw [if_pos empty]
  · exact absurd rfl (mem_visible.mp marked).2

theorem rewrites_unmarked {u v : List Symbol} : g.unmarked.Rewrites u v ↔ g.Rewrites u v := by
  constructor
  · rintro ⟨before, after, p, rule⟩
    obtain ⟨q, hq, rfl⟩ := mem_productions_unmarked.mp rule
    rw [body_stored]
    exact .replace before after q hq
  · rintro ⟨before, after, q, hq⟩
    have step := Grammar.Rewrites.replace before after _ (mem_productions_unmarked.mpr ⟨q, hq, rfl⟩)
    rw [body_stored] at step
    exact step

theorem derives_unmarked {u v : List Symbol} : g.unmarked.Derives u v ↔ g.Derives u v := by
  have same : g.unmarked.Rewrites = g.Rewrites := by
    funext u v
    exact propext rewrites_unmarked
  unfold Grammar.Derives
  rw [same]

theorem sentence_unmarked {w : List Symbol} : g.unmarked.Sentence w ↔ g.Sentence w := by
  unfold Grammar.Sentence
  rw [derives_unmarked, terminals_unmarked, start_unmarked]

section Walks

variable (d : g.Declared) {symbols : List Symbol} {x : Symbol}

theorem stored_eq_append_cons {before rest : List Symbol} {s : Symbol}
    (shown : s ≠ Symbol.epsilon) :
    Grammar.storedAlternative symbols = before ++ s :: rest ↔ symbols = before ++ s :: rest := by
  unfold Grammar.storedAlternative
  split
  · rename_i empty
    rw [List.isEmpty_iff.mp empty]
    cases before with
    | nil => simp [shown.symm]
    | cons b before => simp
  · exact Iff.rfl

include d

/-- A walk over a sequence finds what it finds without the markers. -/
theorem leads_of_visible (h : Leads g (visible symbols) x) : Leads g symbols x :=
  (mem_firstOf d).mp (mem_firstOf_of_filter ((mem_firstOf d).mpr h))

theorem leads_stored : Leads g (Grammar.storedAlternative symbols) x ↔ Leads g symbols x := by
  unfold Grammar.storedAlternative
  split
  · rename_i empty
    rw [List.isEmpty_iff.mp empty]
    constructor
    · intro h
      generalize hl : [Symbol.epsilon] = lone at h
      cases h with
      | done => exact .done
      | marker rest => exact .done
      | afterMarker later => exact (List.cons.inj hl).2 ▸ later
      | plain shown => exact absurd (List.cons.inj hl).1.symm shown
      | within rule =>
        exact absurd (List.cons.inj hl).1.symm (d.nonterminal_ne_epsilon (d.lhs_mem rule))
      | after rule =>
        exact absurd (List.cons.inj hl).1.symm (d.nonterminal_ne_epsilon (d.lhs_mem rule))
    · intro h
      exact .afterMarker h
  · exact Iff.rfl

theorem leads_of_unmarked (h : Leads g.unmarked symbols x) : Leads g symbols x := by
  induction h with
  | done => exact .done
  | marker rest => exact .marker rest
  | afterMarker _ ih => exact .afterMarker ih
  | plain shown other rest =>
    rw [nonterminals_unmarked] at other
    exact .plain shown other rest
  | within rule _ shown rest ih =>
    obtain ⟨q, hq, rfl⟩ := mem_productions_unmarked.mp rule
    exact .within (p := q) hq (leads_of_visible d ((leads_stored d).mp ih)) shown rest
  | after rule _ _ ihv ihl =>
    obtain ⟨q, hq, rfl⟩ := mem_productions_unmarked.mp rule
    exact .after (p := q) hq (leads_of_visible d ((leads_stored d).mp ihv)) ihl

theorem leads_rhs_of_unmarked {p : Production}
    (h : Leads g.unmarked (Grammar.storedAlternative p.body) x) : Leads g p.rhs x :=
  leads_of_visible d ((leads_stored d).mp (leads_of_unmarked d h))

theorem begins_of_unmarked {s : Symbol} (h : Begins g.unmarked s x) : Begins g s x := by
  obtain ⟨p, rule, rfl, leads⟩ := h
  obtain ⟨q, hq, rfl⟩ := mem_productions_unmarked.mp rule
  exact ⟨q, hq, rfl, leads_rhs_of_unmarked d leads⟩

theorem trails_of_unmarked {s : Symbol} (h : Trails g.unmarked s x) : Trails g s x := by
  induction h with
  | last => exact .last
  | ahead rule split member leads shown =>
    rw [nonterminals_unmarked] at member
    obtain ⟨q, hq, rfl⟩ := mem_productions_unmarked.mp rule
    obtain ⟨left, right, cut, rfl⟩ :=
      body_split ((stored_eq_append_cons (d.nonterminal_ne_epsilon member)).mp split)
    exact .ahead hq cut member (leads_of_visible d (leads_of_unmarked d leads)) shown
  | inherited rule split member vanishes _ ih =>
    rw [nonterminals_unmarked] at member
    obtain ⟨q, hq, rfl⟩ := mem_productions_unmarked.mp rule
    obtain ⟨left, right, cut, rfl⟩ :=
      body_split ((stored_eq_append_cons (d.nonterminal_ne_epsilon member)).mp split)
    exact .inherited hq cut member (leads_of_visible d (leads_of_unmarked d vanishes)) ih

theorem leads_of_vanishes (h : g.Vanishes symbols) : Leads g (visible symbols) Symbol.epsilon := by
  obtain ⟨f, conforms, roots, yield⟩ := Grammar.forest_of_derives h (by simp)
  have ahead := beginning_mem_firstOf d conforms
  rw [yield, roots] at ahead
  exact (mem_firstOf d).mp ahead

end Walks

/-- The epsilon that a walk over a sequence finds is true of it: the sequence derives the empty
string. -/
def Truthful (g : Grammar) (symbols : List Symbol) : Prop :=
  Symbol.epsilon ∈ firstOf g (FirstFollow.ofGrammar g).first symbols → g.Vanishes symbols

theorem leads_past_markers {before : List Symbol} (hidden : visible before = [])
    (rest : List Symbol) : Leads g (before ++ Symbol.epsilon :: rest) Symbol.epsilon := by
  cases before with
  | nil => exact .marker rest
  | cons s before =>
    obtain rfl : s = Symbol.epsilon := by
      by_contra shown
      simp [visible_cons shown] at hidden
    exact .marker _

/-- The markers are harmless exactly if all walks of the computation are truthful: those over the
alternatives, and those over what comes after a nonterminal in them. -/
theorem harmlessMarkers_iff_truthful (d : g.Declared) : g.HarmlessMarkers ↔
    ∀ p ∈ g.productions, Truthful g p.rhs ∧
      ∀ before s rest, p.rhs = before ++ s :: rest → s ∈ g.nonterminals → Truthful g rest := by
  constructor
  · intro harmless p rule
    refine ⟨?_, ?_⟩
    · intro found
      exact harmless.vanishes d rule (List.nil_append _).symm Grammar.passable_nil
        ((mem_firstOf d).mp found)
    · intro before s rest split member found
      exact harmless.vanishes d rule (by simpa using split)
        (Grammar.passable_nonterminal d member before) ((mem_firstOf d).mp found)
  · intro truthful p rule before rest split passable
    obtain ⟨whole, behind⟩ := truthful p rule
    rcases List.eq_nil_or_concat (visible before) with hidden | ⟨shown, s, cut⟩
    · -- the walk over the alternative comes past the marker
      have walk : Leads g p.rhs Symbol.epsilon := split ▸ leads_past_markers hidden rest
      have vanishes := whole ((mem_firstOf d).mpr walk)
      rwa [split, Grammar.Vanishes, visible_append, hidden, visible_marker] at vanishes
    · -- the walk behind the last nonterminal before the marker does
      have member : s ∈ g.nonterminals := passable s (by simp [cut])
      rw [List.concat_eq_append] at cut
      obtain ⟨left, tail, rfl, _, tailed⟩ := List.filter_eq_append_iff.mp cut
      obtain ⟨markers, between, rfl, _, _, hidden⟩ := List.filter_eq_cons_iff.mp tailed
      have walk : Leads g (between ++ Symbol.epsilon :: rest) Symbol.epsilon :=
        leads_past_markers hidden rest
      have vanishes := behind (left ++ markers) s _ (by simpa using split) member
        ((mem_firstOf d).mpr walk)
      have none : visible between = [] := hidden
      rwa [Grammar.Vanishes, visible_append, none, visible_marker] at vanishes

section Harmless

variable (built : g.Built) (harmless : g.HarmlessMarkers)
include built harmless

/-- With harmless markers, walks over what is left of an alternative find the same without them. -/
theorem leads_unmarked {p : Production} (rule : p ∈ g.productions) {before symbols : List Symbol}
    (split : p.rhs = before ++ symbols) (passable : g.Passable before) {x : Symbol}
    (h : Leads g symbols x) : Leads g.unmarked (visible symbols) x := by
  have d := Grammar.built_declared built
  have d' := declared_unmarked built
  induction h generalizing p before with
  | done => exact .done
  | marker rest =>
    have behind := harmless p rule before rest split passable
    rw [visible_marker]
    exact leads_of_vanishes d' (derives_unmarked.mpr behind)
  | @afterMarker rest x _ ih =>
    have split' : p.rhs = (before ++ [Symbol.epsilon]) ++ rest := by simpa using split
    have passable' : g.Passable (before ++ [Symbol.epsilon]) := by
      simpa [Grammar.Passable] using passable
    rw [visible_marker]
    exact ih rule split' passable'
  | @plain s shown other rest =>
    rw [visible_cons shown]
    exact .plain shown (by rwa [nonterminals_unmarked]) _
  | @within q x inside _ shown rest ih =>
    have member := d.lhs_mem inside
    have inner := ih inside (List.nil_append _).symm Grammar.passable_nil
    rw [visible_cons (d.nonterminal_ne_epsilon member)]
    have rule' := mem_productions_unmarked.mpr ⟨q, inside, rfl⟩
    exact .within rule' ((leads_stored d').mpr inner) shown _
  | @after q rest x inside _ _ ihv ihl =>
    have member := d.lhs_mem inside
    have empty := ihv inside (List.nil_append _).symm Grammar.passable_nil
    have split' : p.rhs = (before ++ [q.lhs]) ++ rest := by simpa using split
    have later := ihl rule split' (Grammar.passable_nonterminal d member before)
    have rule' := mem_productions_unmarked.mpr ⟨q, inside, rfl⟩
    rw [visible_cons (d.nonterminal_ne_epsilon member)]
    exact .after (p := ⟨q.lhs, Grammar.storedAlternative q.body⟩) rule'
      ((leads_stored d').mpr empty) later

theorem trails_unmarked {s x : Symbol} (h : Trails g s x) : Trails g.unmarked s x := by
  have d := Grammar.built_declared built
  have cut : ∀ {p : Production} {before rest : List Symbol} {s : Symbol},
      p.rhs = before ++ s :: rest → s ∈ g.nonterminals →
        Grammar.storedAlternative p.body = visible before ++ s :: visible rest := by
    intro p before rest s split member
    have shown := d.nonterminal_ne_epsilon member
    rw [stored_eq_append_cons shown, body_of_rhs split shown]
  induction h with
  | last => exact .last
  | @ahead p before rest s x rule split member leads shown =>
    have passable := Grammar.passable_nonterminal d member before
    have walk := leads_unmarked built harmless rule (by simpa using split) passable leads
    refine .ahead (mem_productions_unmarked.mpr ⟨p, rule, rfl⟩) (cut split member) ?_ walk shown
    rwa [nonterminals_unmarked]
  | @inherited p before rest s x rule split member vanishes _ ih =>
    have passable := Grammar.passable_nonterminal d member before
    have walk := leads_unmarked built harmless rule (by simpa using split) passable vanishes
    refine .inherited (mem_productions_unmarked.mpr ⟨p, rule, rfl⟩) (cut split member) ?_ walk ih
    rwa [nonterminals_unmarked]

theorem leads_rhs_unmarked {p : Production} (rule : p ∈ g.productions) {x : Symbol}
    (h : Leads g p.rhs x) : Leads g.unmarked (Grammar.storedAlternative p.body) x := by
  have walk := leads_unmarked built harmless rule (List.nil_append _).symm Grammar.passable_nil h
  exact (leads_stored (declared_unmarked built)).mpr walk

theorem begins_unmarked {s x : Symbol} (h : Begins g s x) : Begins g.unmarked s x := by
  obtain ⟨p, rule, rfl, leads⟩ := h
  exact ⟨_, mem_productions_unmarked.mpr ⟨p, rule, rfl⟩, rfl,
    leads_rhs_unmarked built harmless rule leads⟩

/-- With harmless markers the computed families are the same. -/
theorem ofGrammar_unmarked : FirstFollow.ofGrammar g.unmarked = FirstFollow.ofGrammar g := by
  have d := Grammar.built_declared built
  have d' := declared_unmarked built
  have covers : ∀ {sets}, Covers g.unmarked sets → Covers g sets := by
    intro sets covers
    rwa [Covers, nonterminals_unmarked] at covers
  have first : (FirstFollow.ofGrammar g.unmarked).first = (FirstFollow.ofGrammar g).first := by
    refine (covers (firstSets_covers d')).eq_of_mem (firstSets_covers d) ?_
    intro s x
    exact (mem_firstSets d').trans
      (Iff.trans ⟨begins_of_unmarked d, begins_unmarked built harmless⟩ (mem_firstSets d).symm)
  have follow : (FirstFollow.ofGrammar g.unmarked).follow = (FirstFollow.ofGrammar g).follow := by
    refine (covers (followSets_covers d' _)).eq_of_mem (followSets_covers d _) ?_
    intro s x
    exact (mem_followSets d').trans
      (Iff.trans ⟨trails_of_unmarked d, trails_unmarked built harmless⟩ (mem_followSets d).symm)
  change FirstFollow.mk _ _ = FirstFollow.mk _ _
  exact congr (congrArg FirstFollow.mk first) follow

end Harmless

end TableParsing
