import TableParsing.Proofs.Sets.Closed

/- FIRST and FOLLOW by rules. The computed sets hold exactly what the rules give, in whatever order
   the passes applied them; so a statement about the sets is proved by induction on the rules. The
   computed families have the declared nonterminals as their keys. -/
namespace TableParsing

variable {g : Grammar}

/-- What the walk over a sequence finds: the symbols with which it can begin, and the epsilon marker
if it can vanish or the walk comes past a marker. -/
inductive Leads (g : Grammar) : List Symbol → Symbol → Prop where
  | done : Leads g [] Symbol.epsilon
  | marker (rest : List Symbol) : Leads g (Symbol.epsilon :: rest) Symbol.epsilon
  | afterMarker {rest : List Symbol} {x : Symbol} (later : Leads g rest x) :
      Leads g (Symbol.epsilon :: rest) x
  | plain {s : Symbol} (visible : s ≠ Symbol.epsilon) (other : s ∉ g.nonterminals)
      (rest : List Symbol) : Leads g (s :: rest) s
  | within {p : Production} {x : Symbol} (rule : p ∈ g.productions) (inner : Leads g p.rhs x)
      (visible : x ≠ Symbol.epsilon) (rest : List Symbol) : Leads g (p.lhs :: rest) x
  | after {p : Production} {rest : List Symbol} {x : Symbol} (rule : p ∈ g.productions)
      (vanishes : Leads g p.rhs Symbol.epsilon) (later : Leads g rest x) :
      Leads g (p.lhs :: rest) x

/-- What comes after a nonterminal: what the rest of an alternative begins with and, if the rest can
vanish, what comes after the left-hand side. -/
inductive Trails (g : Grammar) : Symbol → Symbol → Prop where
  | last : Trails g g.start Symbol.endMarker
  | ahead {p : Production} {before rest : List Symbol} {s x : Symbol} (rule : p ∈ g.productions)
      (split : p.rhs = before ++ s :: rest) (member : s ∈ g.nonterminals) (leads : Leads g rest x)
      (visible : x ≠ Symbol.epsilon) : Trails g s x
  | inherited {p : Production} {before rest : List Symbol} {s x : Symbol}
      (rule : p ∈ g.productions) (split : p.rhs = before ++ s :: rest)
      (member : s ∈ g.nonterminals) (vanishes : Leads g rest Symbol.epsilon)
      (behind : Trails g p.lhs x) : Trails g s x

def Begins (g : Grammar) (s x : Symbol) : Prop := ∃ p ∈ g.productions, p.lhs = s ∧ Leads g p.rhs x

theorem leads_of_mem_firstOf {sets : SymbolSets} (sound : Growth.Holds (Begins g) sets)
    {symbols : List Symbol} {x : Symbol} (hx : x ∈ firstOf g sets symbols) :
    Leads g symbols x := by
  induction symbols with
  | nil =>
    obtain rfl : x = Symbol.epsilon := by simpa [firstOf] using hx
    exact .done
  | cons s rest ih =>
    unfold firstOf at hx
    split at hx
    · rename_i marker
      subst marker
      rcases SortedSet.mem_insert.mp hx with rfl | later
      · exact .marker rest
      · exact .afterMarker (ih later)
    · rename_i visible
      split at hx
      · dsimp only at hx
        split at hx
        · rename_i vanishes
          obtain ⟨q, rule, rfl, empty⟩ := sound s _ vanishes
          rcases SortedSet.mem_union.mp hx with own | later
          · obtain ⟨own, shown⟩ := SortedSet.mem_erase.mp own
            obtain ⟨p, rule', same, inner⟩ := sound _ x own
            exact same ▸ .within rule' inner shown rest
          · exact .after rule empty (ih later)
        · rename_i stays
          obtain ⟨p, rule, rfl, inner⟩ := sound s x hx
          refine .within rule inner ?_ rest
          rintro rfl
          exact stays hx
      · rename_i other
        rw [isNonterminal_iff] at other
        obtain rfl : x = s := by simpa using hx
        exact .plain visible other rest

theorem begins_of_mem_firstSets {s x : Symbol} (hx : x ∈ (firstSets g).getD s ∅) :
    Begins g s x := by
  refine firstSets_holds ?_ s x hx
  rintro sets _ _ sound ⟨p, rule, rfl, rfl⟩ x hx
  exact ⟨p, rule, rfl, leads_of_mem_firstOf sound hx⟩

section Declared

variable (d : g.Declared)
include d

theorem mem_firstOf_of_leads {symbols : List Symbol} {x : Symbol} (h : Leads g symbols x) :
    x ∈ firstOf g (firstSets g) symbols := by
  induction h with
  | done => simp [firstOf]
  | marker rest => simp [firstOf]
  | afterMarker _ ih => simp [firstOf, ih]
  | @plain s visible other rest =>
    have plain : g.isNonterminal s ≠ true := by
      rw [Ne, isNonterminal_iff]
      exact other
    simp [firstOf, visible, plain]
  | @within p x rule _ visible rest ih =>
    have own := firstSets_closed d rule ih
    have member := d.lhs_mem rule
    rw [firstOf, if_neg (d.nonterminal_ne_epsilon member), if_pos (isNonterminal_iff.mpr member)]
    dsimp only
    split
    · exact SortedSet.mem_union.mpr (Or.inl (SortedSet.mem_erase.mpr ⟨own, visible⟩))
    · exact own
  | @after p rest x rule _ _ vanishes ih =>
    have member := d.lhs_mem rule
    rw [firstOf, if_neg (d.nonterminal_ne_epsilon member), if_pos (isNonterminal_iff.mpr member)]
    dsimp only
    rw [if_pos (firstSets_closed d rule vanishes)]
    exact SortedSet.mem_union.mpr (Or.inr ih)

/-- The FIRST set of a sequence holds what the rules give. -/
theorem mem_firstOf {symbols : List Symbol} {x : Symbol} :
    x ∈ firstOf g (firstSets g) symbols ↔ Leads g symbols x :=
  ⟨leads_of_mem_firstOf fun _ _ => begins_of_mem_firstSets, mem_firstOf_of_leads d⟩

theorem mem_firstSets {s x : Symbol} :
    x ∈ (FirstFollow.ofGrammar g).first.getD s ∅ ↔ Begins g s x := by
  constructor
  · exact begins_of_mem_firstSets
  · rintro ⟨p, rule, rfl, leads⟩
    exact firstSets_closed d rule (mem_firstOf_of_leads d leads)

theorem mem_followSets {s x : Symbol} :
    x ∈ (FirstFollow.ofGrammar g).follow.getD s ∅ ↔ Trails g s x := by
  constructor
  · refine followSets_holds ?_ .last s x
    rintro sets target _ sound ⟨p, rule, before, rest, split, member, rfl⟩ y hy
    rcases mem_aheadOf.mp hy with ⟨ahead, visible⟩ | ⟨vanishes, behind⟩
    · exact .ahead rule split member ((mem_firstOf d).mp ahead) visible
    · exact .inherited rule split member ((mem_firstOf d).mp vanishes) (sound p.lhs y behind)
  · intro h
    induction h with
    | last => exact endMarker_mem_followSets
    | ahead rule split member leads visible =>
      exact followSets_closed d (firstSets_within d) rule split member
        (mem_aheadOf.mpr (Or.inl ⟨(mem_firstOf d).mpr leads, visible⟩))
    | inherited rule split member vanishes _ ih =>
      exact followSets_closed d (firstSets_within d) rule split member
        (mem_aheadOf.mpr (Or.inr ⟨(mem_firstOf d).mpr vanishes, ih⟩))

end Declared

/-- A family with a set for every declared nonterminal, in their order, and for nothing else. -/
def Covers (g : Grammar) (sets : SymbolSets) : Prop := sets.keys = g.nonterminals.toList

theorem Covers.eq_of_mem {a b : SymbolSets} (ha : Covers g a) (hb : Covers g b)
    (same : ∀ s x, x ∈ a.getD s ∅ ↔ x ∈ b.getD s ∅) : a = b := by
  have keys : a.keys = b.keys := ha.trans hb.symm
  refine OrderedMap.eq_of_get? keys ?_
  intro s hs
  obtain ⟨own, found⟩ := OrderedMap.mem_keys.mp hs
  obtain ⟨other, found'⟩ := OrderedMap.mem_keys.mp (keys ▸ hs)
  have equal := SortedSet.ext (same s)
  simp only [OrderedMap.getD, found, found', Option.getD_some] at equal
  rw [found, found', equal]

theorem covers_put {sets : SymbolSets} (covers : Covers g sets) {s : Symbol}
    (member : s ∈ g.nonterminals) (value : SymbolSet) : Covers g (sets.put s value) := by
  unfold Covers at covers ⊢
  rw [OrderedMap.keys_put, covers, if_pos (SortedSet.mem_def.mp member)]

theorem covers_emptySets : Covers g (emptySets g) := by
  have fold : ∀ (names : List Symbol) (sets : SymbolSets), (sets.keys ++ names).Nodup →
      ((names.map fun n => (n, (∅ : SymbolSet))).foldl (fun m e => m.put e.1 e.2) sets).keys =
        sets.keys ++ names := by
    intro names
    induction names with
    | nil => simp
    | cons n rest ih =>
      intro sets distinct
      have absent : n ∉ sets.keys := by
        intro member
        exact (List.nodup_append.mp distinct).2.2 n member n List.mem_cons_self rfl
      have keys : (sets.put n ∅).keys = sets.keys ++ [n] := by
        rw [OrderedMap.keys_put, if_neg absent]
      have tail := ih (sets.put n ∅) (by simpa [keys] using distinct)
      simpa [keys] using tail
  exact fold g.nonterminals.toList ∅ g.nonterminals.nodup

theorem Growth.Extends.covers {allowed : SymbolSets → Symbol → SymbolSet → Prop}
    (declared : ∀ sets target more, allowed sets target more → target ∈ g.nonterminals)
    {state later : Growth} (chain : Extends allowed state later) (start : Covers g state.sets) :
    Covers g later.sets := by
  induction chain with
  | refl => exact start
  | add _ may ih =>
    unfold Growth.add
    dsimp only
    split
    · exact ih
    · exact covers_put ih (declared _ _ _ may) _

theorem firstSets_covers (d : g.Declared) : Covers g (firstSets g) := by
  refine Growth.saturate_keeps (P := Covers g) ?_ _ covers_emptySets
  intro sets before
  refine (firstPass_extends sets).covers ?_ before
  rintro _ _ _ ⟨p, rule, rfl, _⟩
  exact d.lhs_mem rule

theorem followSets_covers (d : g.Declared) (first : SymbolSets) :
    Covers g (followSets g first) := by
  refine Growth.saturate_keeps (P := Covers g) ?_ _ (covers_put covers_emptySets d.start_mem _)
  intro sets before
  refine (followPass_extends first sets).covers ?_ before
  rintro _ _ _ ⟨_, _, _, _, _, member, _⟩
  exact member

end TableParsing
