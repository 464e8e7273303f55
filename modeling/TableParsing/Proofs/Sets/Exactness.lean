import TableParsing.Proofs.Sets.Unmarked

/- FIRST and FOLLOW as what derivations show. A walk over a sequence finds the terminals with which
   the sequence can begin, and a derivation can be undone under it step by step. What follows a
   nonterminal stands behind it in a string that some nonterminal derives; when such a string is
   traced back to its root, the two symbols come from one alternative, or what is between them has
   vanished and the one behind stands after a nonterminal that ends with the one before. -/
namespace TableParsing

variable {g : Grammar}

section Beginning

theorem leads_append {front rest : List Symbol} {x : Symbol} (plain : Symbol.epsilon ∉ front)
    (h : Leads g (front ++ rest) x) : (Leads g front x ∧ x ≠ Symbol.epsilon) ∨
      (Leads g front Symbol.epsilon ∧ Leads g rest x) := by
  induction front with
  | nil => exact Or.inr ⟨.done, h⟩
  | cons s front ih =>
    simp only [List.mem_cons, not_or] at plain
    obtain ⟨shown, plain⟩ := plain
    generalize whole : s :: front ++ rest = symbols at h
    cases h with
    | done => simp at whole
    | marker later => exact absurd (List.cons.inj whole).1.symm shown
    | afterMarker later => exact absurd (List.cons.inj whole).1.symm shown
    | plain visible other later =>
      obtain ⟨rfl, _⟩ := List.cons.inj whole
      exact Or.inl ⟨.plain visible other front, visible⟩
    | within rule inner visible later =>
      obtain ⟨rfl, _⟩ := List.cons.inj whole
      exact Or.inl ⟨.within rule inner visible front, visible⟩
    | after rule vanishes later =>
      obtain ⟨rfl, rfl⟩ := List.cons.inj whole
      rcases ih plain later with ⟨found, visible⟩ | ⟨empty, behind⟩
      · exact Or.inl ⟨.after rule vanishes found, visible⟩
      · exact Or.inr ⟨.after rule vanishes empty, behind⟩

theorem leads_append_right {rest other : List Symbol} (front : List Symbol)
    (more : ∀ x, Leads g rest x → Leads g other x) {x : Symbol} (h : Leads g (front ++ rest) x) :
    Leads g (front ++ other) x := by
  induction front with
  | nil => exact more x h
  | cons s front ih =>
    generalize whole : s :: front ++ rest = symbols at h
    cases h with
    | done => simp at whole
    | marker later =>
      obtain ⟨rfl, _⟩ := List.cons.inj whole
      exact .marker _
    | afterMarker later =>
      obtain ⟨rfl, rfl⟩ := List.cons.inj whole
      exact .afterMarker (ih later)
    | plain visible other later =>
      obtain ⟨rfl, _⟩ := List.cons.inj whole
      exact .plain visible other _
    | within rule inner visible later =>
      obtain ⟨rfl, _⟩ := List.cons.inj whole
      exact .within rule inner visible _
    | after rule vanishes later =>
      obtain ⟨rfl, rfl⟩ := List.cons.inj whole
      exact .after rule vanishes (ih later)

section Declared

variable (d : g.Declared)
include d

theorem leads_of_body {p : Production} (rule : p ∈ g.productions) {rest : List Symbol} {x : Symbol}
    (h : Leads g (p.body ++ rest) x) : Leads g (p.lhs :: rest) x := by
  rcases leads_append p.epsilon_not_mem_body h with ⟨found, visible⟩ | ⟨empty, behind⟩
  · exact .within rule (leads_of_visible d found) visible rest
  · exact .after rule (leads_of_visible d empty) behind

theorem leads_of_rewrites {u v : List Symbol} (step : g.Rewrites u v) {x : Symbol}
    (h : Leads g v x) : Leads g u x := by
  obtain ⟨before, after, p, rule⟩ := step
  rw [List.append_assoc] at h
  apply leads_append_right before _ h
  intro y found
  exact leads_of_body d rule found

/-- What a derived string can begin with, the string that it is derived from can begin with. -/
theorem leads_of_derives {u v : List Symbol} (derives : g.Derives u v) {x : Symbol}
    (h : Leads g v x) : Leads g u x := by
  induction derives with
  | refl => exact h
  | tail _ step ih => exact ih (leads_of_rewrites d step h)

theorem leads_declared {symbols : List Symbol} (known : Known g symbols) {x : Symbol}
    (h : Leads g symbols x) : x ∈ g.terminals ∨ x = Symbol.epsilon :=
  firstOf_within (firstSets_within d) known x ((mem_firstOf d).mpr h)

end Declared

section Harmless

variable (d : g.Declared) (harmless : g.HarmlessMarkers)
include d harmless

theorem derives_nil_of_leads {symbols : List Symbol} (plain : Symbol.epsilon ∉ symbols)
    (h : Leads g symbols Symbol.epsilon) : g.Derives symbols [] := by
  induction symbols with
  | nil => exact .refl
  | cons s rest ih =>
    simp only [List.mem_cons, not_or] at plain
    generalize whole : s :: rest = symbols at h
    generalize marker : Symbol.epsilon = x at h
    cases h with
    | done => simp at whole
    | marker later => exact absurd (List.cons.inj whole).1.symm plain.1
    | afterMarker later => exact absurd (List.cons.inj whole).1.symm plain.1
    | plain visible => exact absurd marker.symm visible
    | within rule inner visible => exact absurd marker.symm visible
    | after rule vanishes later =>
      obtain ⟨rfl, rfl⟩ := List.cons.inj whole
      have own := harmless.vanishes d rule (List.nil_append _).symm Grammar.passable_nil vanishes
      exact (own.skip rule rest).trans (ih plain.2 (marker ▸ later))

/-- A sequence in which a walk finds another symbol derives a string that begins with it. -/
theorem exists_derives_of_leads {symbols : List Symbol} {x : Symbol} (h : Leads g symbols x)
    (shown : x ≠ Symbol.epsilon) : ∃ rest, g.Derives (visible symbols) (x :: rest) := by
  induction h with
  | done => exact absurd rfl shown
  | marker => exact absurd rfl shown
  | afterMarker _ ih =>
    rw [visible_marker]
    exact ih shown
  | plain _ _ rest =>
    rw [visible_cons shown]
    exact ⟨_, .refl⟩
  | @within p x rule _ _ rest ih =>
    obtain ⟨behind, inner⟩ := ih shown
    rw [visible_cons (d.nonterminal_ne_epsilon (d.lhs_mem rule))]
    have first : g.Derives (p.lhs :: visible rest) (p.body ++ visible rest) :=
      .single (Grammar.Rewrites.replace [] (visible rest) p rule)
    have later := Grammar.Derives.extend inner [] (visible rest)
    exact ⟨behind ++ visible rest, first.trans later⟩
  | after rule vanishes _ _ ih =>
    obtain ⟨behind, later⟩ := ih shown
    have own := harmless.vanishes d rule (List.nil_append _).symm Grammar.passable_nil vanishes
    rw [visible_cons (d.nonterminal_ne_epsilon (d.lhs_mem rule))]
    exact ⟨behind, (own.skip rule _).trans later⟩

end Harmless

theorem firstOf_singleton {first : SymbolSets} {s : Symbol} (member : s ∈ g.nonterminals)
    (shown : s ≠ Symbol.epsilon) : firstOf g first [s] = first.getD s ∅ := by
  rw [firstOf, if_neg shown, if_pos (isNonterminal_iff.mpr member)]
  dsimp only
  split
  · rename_i vanishes
    apply SortedSet.ext
    intro x
    simp only [firstOf, SortedSet.mem_union, SortedSet.mem_erase, SortedSet.mem_ofList,
      List.mem_singleton]
    by_cases marker : x = Symbol.epsilon
    · simp [marker, vanishes]
    · simp [marker]
  · rfl

/-- A set is the FIRST set of a sequence: it holds the terminals with which the strings derived from
the sequence begin, the epsilon marker if the empty string is among them, and nothing else. -/
structure ShowsBeginnings (g : Grammar) (symbols : List Symbol) (set : SymbolSet) : Prop where
  terminal : ∀ t ∈ g.terminals, t ∈ set ↔ ∃ rest, g.Derives symbols (t :: rest)
  epsilon : Symbol.epsilon ∈ set ↔ g.Derives symbols []
  only : ∀ x ∈ set, x ∈ g.terminals ∨ x = Symbol.epsilon

theorem firstOf_showsBeginnings (d : g.Declared) (harmless : g.HarmlessMarkers)
    {symbols : List Symbol} (known : ∀ s ∈ symbols, s ∈ g.terminals ∨ s ∈ g.nonterminals) :
    ShowsBeginnings g symbols (firstOf g (FirstFollow.ofGrammar g).first symbols) := by
  have plain : Symbol.epsilon ∉ symbols := by
    intro marked
    rcases known _ marked with terminal | nonterminal
    · exact d.ne_epsilon terminal rfl
    · exact d.epsilon_not_nonterminal nonterminal
  have shown : visible symbols = symbols := by
    simp only [visible, List.filter_eq_self, decide_eq_true_eq]
    intro s hs same
    exact plain (same ▸ hs)
  have found : ∀ x, x ∈ firstOf g (FirstFollow.ofGrammar g).first symbols ↔ Leads g symbols x :=
    fun x => mem_firstOf d
  constructor
  case terminal =>
    intro t terminal
    have visible := d.ne_epsilon terminal
    rw [found]
    constructor
    · intro leads
      have derives := exists_derives_of_leads d harmless leads visible
      rwa [shown] at derives
    · intro derives
      obtain ⟨rest, derives⟩ := derives
      exact leads_of_derives d derives (.plain visible (d.terminal_not_nonterminal terminal) rest)
  case epsilon =>
    rw [found]
    constructor
    · intro leads
      exact derives_nil_of_leads d harmless plain leads
    · intro derives
      exact leads_of_derives d derives .done
  case only =>
    intro x member
    apply leads_declared d _ ((found x).mp member)
    intro s hs
    exact Or.inr (known s hs)

end Beginning

section Neighbours

/-- What comes after a string that is derived from a nonterminal, or begins the end of it. -/
def Behind (g : Grammar) (a : Symbol) (rest : List Symbol) (x : Symbol) : Prop :=
  (Leads g rest x ∧ x ≠ Symbol.epsilon) ∨ (Leads g rest Symbol.epsilon ∧ Trails g a x)

theorem Behind.of_leads {a : Symbol} {rest other : List Symbol}
    (more : ∀ x, Leads g rest x → Leads g other x) {x : Symbol} (h : Behind g a rest x) :
    Behind g a other x := by
  rcases h with ⟨leads, shown⟩ | ⟨empty, trails⟩
  · exact Or.inl ⟨more x leads, shown⟩
  · exact Or.inr ⟨more _ empty, trails⟩

theorem trails_of_body (d : g.Declared) {p : Production} (rule : p ∈ g.productions)
    {before rest : List Symbol} {s : Symbol} (split : p.body = before ++ s :: rest)
    (member : s ∈ g.nonterminals) {x : Symbol} (h : Behind g p.lhs rest x) : Trails g s x := by
  obtain ⟨left, right, cut, rfl⟩ := body_split split
  rcases h with ⟨leads, shown⟩ | ⟨empty, trails⟩
  · exact .ahead rule cut member (leads_of_visible d leads) shown
  · exact .inherited rule cut member (leads_of_visible d empty) trails

/-- What is behind a nonterminal in a string that `a` derives comes after it. The induction goes
back from the string to `a`; the nonterminal has been there before the last step, or it is in the
body that the step has put in. -/
theorem trails_of_derives (d : g.Declared) {a : Symbol} {before rest : List Symbol} {s : Symbol}
    (derives : g.Derives [a] (before ++ s :: rest)) (member : s ∈ g.nonterminals) {x : Symbol}
    (h : Behind g a rest x) : Trails g s x := by
  generalize whole : before ++ s :: rest = w at derives
  induction derives generalizing before s rest x with
  | refl =>
    obtain ⟨rfl, rfl⟩ : s = a ∧ rest = [] := by
      cases before with
      | nil => simpa using whole
      | cons b before => simp at whole
    rcases h with ⟨leads, shown⟩ | ⟨_, trails⟩
    · cases leads
      exact absurd rfl shown
    · exact trails
  | tail _ step ih =>
    obtain ⟨front, back, p, rule⟩ := step
    rw [List.append_assoc] at whole
    rcases exists_cut whole.symm with ⟨between, rfl, rfl⟩ | ⟨left, tail, rfl⟩
    · -- the step is behind the nonterminal
      have earlier : before ++ s :: (between ++ p.lhs :: back) =
          (before ++ s :: between) ++ p.lhs :: back := by simp
      refine ih member (h.of_leads ?_) earlier
      intro y leads
      apply leads_append_right between _ leads
      intro z found
      exact leads_of_body d rule found
    · rcases exists_cut tail with ⟨right, inside, rfl⟩ | ⟨between, later, rfl⟩
      · -- the step has put the nonterminal in
        have outer : ∀ y, Behind g a back y → Trails g p.lhs y :=
          fun y behind => ih (d.lhs_mem rule) behind rfl
        have plain : Symbol.epsilon ∉ right := by
          intro marked
          exact p.epsilon_not_mem_body (inside ▸ by simp [marked])
        apply trails_of_body d rule inside member
        rcases h with ⟨leads, shown⟩ | ⟨empty, trails⟩
        · rcases leads_append plain leads with own | ⟨vanishes, later⟩
          · exact Or.inl own
          · exact Or.inr ⟨vanishes, outer x (Or.inl ⟨later, shown⟩)⟩
        · rcases leads_append plain empty with ⟨_, shown⟩ | ⟨vanishes, later⟩
          · exact absurd rfl shown
          · exact Or.inr ⟨vanishes, outer x (Or.inr ⟨later, trails⟩)⟩
      · -- the step is before the nonterminal
        have earlier : (front ++ p.lhs :: between) ++ s :: rest = front ++ p.lhs :: back := by
          simp [later]
        exact ih member h earlier

section Harmless

variable (d : g.Declared) (harmless : g.HarmlessMarkers)
include d harmless

/-- Where what is behind a nonterminal in an alternative can vanish, the nonterminal can take the
place of the left-hand side as the last symbol before what follows. -/
theorem derives_of_vanishing {p : Production} (rule : p ∈ g.productions)
    {before rest : List Symbol} {s : Symbol} (split : p.rhs = before ++ s :: rest)
    (member : s ∈ g.nonterminals) (vanishes : Leads g rest Symbol.epsilon)
    (front back : List Symbol) :
    g.Derives (front ++ p.lhs :: back) (front ++ visible before ++ s :: back) := by
  have split' : p.rhs = (before ++ [s]) ++ rest := by simpa using split
  have empty : g.Vanishes rest :=
    harmless.vanishes d rule split' (Grammar.passable_nonterminal d member before) vanishes
  have first : g.Derives (front ++ p.lhs :: back) (front ++ p.body ++ back) :=
    .single (Grammar.Rewrites.replace front back p rule)
  have later := empty.extend (front ++ visible before ++ [s]) back
  rw [body_of_rhs split (d.nonterminal_ne_epsilon member)] at first
  simp only [List.append_assoc, List.cons_append, List.nil_append] at first later ⊢
  exact first.trans later

/-- What follows a nonterminal stands behind it in what some nonterminal derives, and the end marker
follows what can stand last in what the start symbol derives. -/
theorem exists_derives_of_trails {s x : Symbol} (h : Trails g s x) :
    (x = Symbol.endMarker ∧ ∃ before, g.Derives [g.start] (before ++ [s])) ∨
      (x ∈ g.terminals ∧ ∃ a ∈ g.nonterminals, ∃ before after,
        g.Derives [a] (before ++ s :: x :: after)) := by
  induction h with
  | last => exact Or.inl ⟨rfl, [], .refl⟩
  | @ahead p before rest s x rule split member leads shown =>
    have known : Known g rest := by
      intro y hy
      apply known_rhs d rule
      simp [split, hy]
    have terminal := (leads_declared d known leads).resolve_right shown
    obtain ⟨after, inner⟩ := exists_derives_of_leads d harmless leads shown
    have first : g.Derives [p.lhs] p.body := by
      simpa [Grammar.Derives] using
        Relation.ReflTransGen.single (Grammar.Rewrites.replace [] [] p rule)
    have later := inner.extend (visible before ++ [s]) []
    rw [body_of_rhs split (d.nonterminal_ne_epsilon member)] at first
    simp only [List.append_assoc, List.cons_append, List.nil_append, List.append_nil] at later
    exact Or.inr ⟨terminal, p.lhs, d.lhs_mem rule, visible before, after, first.trans later⟩
  | @inherited p before rest s x rule split member vanishes _ ih =>
    rcases ih with ⟨marker, front, derives⟩ | ⟨terminal, a, nonterminal, front, after, derives⟩
    · have later := derives_of_vanishing d harmless rule split member vanishes front []
      exact Or.inl ⟨marker, front ++ visible before, derives.trans later⟩
    · have later := derives_of_vanishing d harmless rule split member vanishes front (x :: after)
      exact Or.inr ⟨terminal, a, nonterminal, front ++ visible before, after, derives.trans later⟩

end Harmless

/-- A set is the FOLLOW set of a nonterminal: it holds the terminals that stand behind it in what
some nonterminal derives, the end marker if it can stand last in what the start symbol derives, and
nothing else. -/
structure ShowsNeighbours (g : Grammar) (s : Symbol) (set : SymbolSet) : Prop where
  terminal : ∀ t ∈ g.terminals, t ∈ set ↔
    ∃ a ∈ g.nonterminals, ∃ before after, g.Derives [a] (before ++ s :: t :: after)
  endMarker : Symbol.endMarker ∈ set ↔ ∃ before, g.Derives [g.start] (before ++ [s])
  only : ∀ x ∈ set, x ∈ g.terminals ∨ x = Symbol.endMarker
  no_epsilon : Symbol.epsilon ∉ set
  no_nonterminal : ∀ x ∈ set, x ∉ g.nonterminals

theorem showsNeighbours_of_trails (d : g.Declared) (harmless : g.HarmlessMarkers) {s : Symbol}
    (member : s ∈ g.nonterminals) {set : SymbolSet} (found : ∀ x, x ∈ set ↔ Trails g s x) :
    ShowsNeighbours g s set := by
  have only : ∀ x ∈ set, x ∈ g.terminals ∨ x = Symbol.endMarker := by
    intro x hx
    rcases exists_derives_of_trails d harmless ((found x).mp hx) with ⟨marker, _⟩ | ⟨terminal, _⟩
    · exact Or.inr marker
    · exact Or.inl terminal
  constructor
  case only => exact only
  case terminal =>
    intro t terminal
    rw [found]
    constructor
    · intro trails
      rcases exists_derives_of_trails d harmless trails with ⟨marker, _⟩ | ⟨_, derives⟩
      · exact absurd marker (d.ne_endMarker terminal)
      · exact derives
    · intro derives
      obtain ⟨a, _, before, after, derives⟩ := derives
      have plain : Leads g (t :: after) t :=
        .plain (d.ne_epsilon terminal) (d.terminal_not_nonterminal terminal) after
      exact trails_of_derives d derives member (Or.inl ⟨plain, d.ne_epsilon terminal⟩)
  case endMarker =>
    rw [found]
    constructor
    · intro trails
      rcases exists_derives_of_trails d harmless trails with ⟨_, derives⟩ | ⟨terminal, _⟩
      · exact derives
      · exact absurd terminal d.endMarker_not_terminal
    · intro derives
      obtain ⟨before, derives⟩ := derives
      exact trails_of_derives d derives member (Or.inr ⟨.done, .last⟩)
  case no_epsilon =>
    intro marked
    rcases only _ marked with terminal | same
    · exact d.ne_epsilon terminal rfl
    · cases same
  case no_nonterminal =>
    intro x hx nonterminal
    rcases only x hx with terminal | rfl
    · exact d.terminal_not_nonterminal terminal nonterminal
    · exact d.endMarker_not_nonterminal nonterminal

end Neighbours

theorem Covers.exists_get? {sets : SymbolSets} (covers : Covers g sets) {s : Symbol}
    (member : s ∈ g.nonterminals) : ∃ set, sets.get? s = some set ∧ sets.getD s ∅ = set := by
  have key : s ∈ sets.keys := covers ▸ member
  obtain ⟨set, found⟩ := OrderedMap.mem_keys.mp key
  exact ⟨set, found, by rw [OrderedMap.getD, found, Option.getD_some]⟩

/-- A list of letters, after one that may be missing. One nonterminal has no alternatives, and one
is not reached from the start. -/
def chained : Grammar :=
  ((((Grammar.ofStart (.nonterminal "S")).define (.nonterminal "S")
    [[.nonterminal "S", .terminal "d"], [.nonterminal "A", .nonterminal "B"]]).define
    (.nonterminal "A") [[.terminal "a"], []]).define
    (.nonterminal "B") [[.nonterminal "A", .nonterminal "A"], [.nonterminal "U"]]).define
    (.nonterminal "V") [[.nonterminal "U", .terminal "e"]]

theorem chained_built : chained.Built := by
  refine Grammar.built_define (Grammar.built_define (Grammar.built_define (Grammar.built_define
    (Grammar.built_ofStart rfl) rfl ?_) rfl ?_) rfl ?_) rfl ?_
  all_goals decide

theorem chained_soleMarkers : chained.SoleMarkers := by
  have sole : ∀ p ∈ chained.productions, Symbol.epsilon ∈ p.rhs → p.rhs = [Symbol.epsilon] := by
    decide +kernel
  exact sole

/-- The FIRST sets are exact, for every sequence of declared symbols and so for every
nonterminal. -/
theorem first_exact (built : g.Built) (sole : g.SoleMarkers) :
    (∀ symbols : List Symbol, (∀ s ∈ symbols, s ∈ g.terminals ∨ s ∈ g.nonterminals) →
      ShowsBeginnings g symbols (firstOf g (FirstFollow.ofGrammar g).first symbols)) ∧
    ∀ s ∈ g.nonterminals, ∃ set, (FirstFollow.ofGrammar g).first.get? s = some set ∧
      ShowsBeginnings g [s] set := by
  have d := Grammar.built_declared built
  refine ⟨fun symbols => firstOf_showsBeginnings d sole.harmless, ?_⟩
  intro s member
  obtain ⟨set, found, own⟩ := (firstSets_covers d).exists_get? member
  have known : ∀ x ∈ [s], x ∈ g.terminals ∨ x ∈ g.nonterminals := by simp [member]
  have single := firstOf_showsBeginnings d sole.harmless known
  rw [firstOf_singleton member (d.nonterminal_ne_epsilon member)] at single
  exact ⟨set, found, own ▸ single⟩

/-- `B` can vanish before `S`, and nothing is behind `U`. -/
theorem chained_first : chained.Built ∧ chained.SoleMarkers ∧
    (∃ rest, chained.Derives [.nonterminal "B", .nonterminal "S"] (.terminal "d" :: rest)) ∧
    chained.Derives [.nonterminal "A", .nonterminal "B"] [] ∧
    ¬ ∃ rest, chained.Derives [.nonterminal "U", .nonterminal "S"] (.terminal "d" :: rest) := by
  have exact := (first_exact chained_built chained_soleMarkers).1
  have letter : Symbol.terminal "d" ∈ chained.terminals := by decide +kernel
  have begins := exact [.nonterminal "B", .nonterminal "S"] (by decide +kernel)
  have vanishes := exact [.nonterminal "A", .nonterminal "B"] (by decide +kernel)
  have stuck := exact [.nonterminal "U", .nonterminal "S"] (by decide +kernel)
  refine ⟨chained_built, chained_soleMarkers, ?_, ?_, ?_⟩
  · exact (begins.terminal _ letter).mp (by decide +kernel)
  · exact vanishes.epsilon.mp (by decide +kernel)
  · rw [← stuck.terminal _ letter]
    decide +kernel

/-- The FOLLOW sets are exact, for nonterminals that the start symbol reaches and for others. -/
theorem follow_exact (built : g.Built) (sole : g.SoleMarkers) : ∀ s ∈ g.nonterminals,
    ∃ set, (followSets g (firstSets g)).get? s = some set ∧ ShowsNeighbours g s set := by
  have d := Grammar.built_declared built
  intro s member
  obtain ⟨set, found, own⟩ := (followSets_covers d (firstSets g)).exists_get? member
  refine ⟨set, found, ?_⟩
  apply showsNeighbours_of_trails d sole.harmless member
  intro x
  rw [← own]
  exact mem_followSets d

/-- `A` stands before itself and last, and `U` before a letter below the unreachable `V` only. -/
theorem chained_follow : chained.Built ∧ chained.SoleMarkers ∧
    (∃ a ∈ chained.nonterminals, ∃ before after,
      chained.Derives [a] (before ++ .nonterminal "A" :: .terminal "a" :: after)) ∧
    (∃ before, chained.Derives [.nonterminal "S"] (before ++ [.nonterminal "A"])) ∧
    ∃ a ∈ chained.nonterminals, ∃ before after,
      chained.Derives [a] (before ++ .nonterminal "U" :: .terminal "e" :: after) := by
  have exact := follow_exact chained_built chained_soleMarkers
  obtain ⟨set, found, neighbours⟩ := exact (.nonterminal "A") (by decide +kernel)
  obtain ⟨set', found', neighbours'⟩ := exact (.nonterminal "U") (by decide +kernel)
  have members : ((followSets chained (firstSets chained)).get? (.nonterminal "A")).any
      (fun set => Symbol.terminal "a" ∈ set ∧ Symbol.endMarker ∈ set) = true := by decide +kernel
  have members' : ((followSets chained (firstSets chained)).get? (.nonterminal "U")).any
      (fun set => Symbol.terminal "e" ∈ set) = true := by decide +kernel
  rw [found] at members
  rw [found'] at members'
  obtain ⟨letter, last⟩ := of_decide_eq_true members
  have behind := of_decide_eq_true members'
  refine ⟨chained_built, chained_soleMarkers, ?_, ?_, ?_⟩
  · exact (neighbours.terminal _ (by decide +kernel)).mp letter
  · exact neighbours.endMarker.mp last
  · exact (neighbours'.terminal _ (by decide +kernel)).mp behind

end TableParsing
