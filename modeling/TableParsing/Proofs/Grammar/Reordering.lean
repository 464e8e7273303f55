import TableParsing.Proofs.Predictive.Tables

/- Two grammars with the same productions, added in different orders or more than once. What is
   given by rules does not see the order: the passes over the productions come to the same FIRST and
   FOLLOW sets, and a predictive table is for both or for neither and is the same. -/
namespace TableParsing

namespace Grammar

/-- One start symbol, the same nonterminals and the same productions, in whatever order. -/
structure Reordered (g h : Grammar) : Prop where
  start : g.start = h.start
  nonterminals : g.nonterminals = h.nonterminals
  productions : ∀ p, p ∈ g.productions ↔ p ∈ h.productions

/-- No nonterminal has two different alternatives with one body. -/
def DistinctBodies (g : Grammar) : Prop :=
  ∀ p ∈ g.productions, ∀ q ∈ g.productions, p.lhs = q.lhs → p.body = q.body → p = q

namespace Reordered

variable {g h : Grammar} (same : g.Reordered h)
include same

theorem symm : h.Reordered g where
  start := same.start.symm
  nonterminals := same.nonterminals.symm
  productions := fun p => (same.productions p).symm

theorem distinctBodies (distinct : g.DistinctBodies) : h.DistinctBodies := by
  intro p rule q rule'
  exact distinct p ((same.productions p).mpr rule) q ((same.productions q).mpr rule')

theorem terminals (d : g.Declared) (d' : h.Declared) : g.terminals = h.terminals := by
  refine SortedSet.ext fun s => ?_
  rw [d.mem_terminals, d'.mem_terminals, same.nonterminals]
  simp only [same.productions]

theorem leads {symbols : List Symbol} {x : Symbol} (leads : Leads g symbols x) :
    Leads h symbols x := by
  induction leads with
  | done => exact .done
  | marker rest => exact .marker rest
  | afterMarker _ ih => exact .afterMarker ih
  | plain visible other rest => exact .plain visible (same.nonterminals ▸ other) rest
  | within rule _ visible rest ih => exact .within ((same.productions _).mp rule) ih visible rest
  | after rule _ _ ihv ihl => exact .after ((same.productions _).mp rule) ihv ihl

theorem trails {s x : Symbol} (trails : Trails g s x) : Trails h s x := by
  induction trails with
  | last => exact same.start ▸ .last
  | ahead rule split member leads visible =>
    exact .ahead ((same.productions _).mp rule) split (same.nonterminals ▸ member)
      (same.leads leads) visible
  | inherited rule split member vanishes _ ih =>
    exact .inherited ((same.productions _).mp rule) split (same.nonterminals ▸ member)
      (same.leads vanishes) ih

theorem begins {s x : Symbol} (begins : Begins g s x) : Begins h s x := by
  obtain ⟨p, rule, left, leads⟩ := begins
  exact ⟨p, (same.productions p).mp rule, left, same.leads leads⟩

theorem covers {sets : SymbolSets} (covers : Covers g sets) : Covers h sets := by
  unfold Covers
  rw [← same.nonterminals]
  exact covers

theorem firstFollow (d : g.Declared) (d' : h.Declared) :
    FirstFollow.ofGrammar g = FirstFollow.ofGrammar h := by
  have first : (FirstFollow.ofGrammar g).first = (FirstFollow.ofGrammar h).first := by
    have own : Covers g (FirstFollow.ofGrammar g).first := firstSets_covers d
    refine own.eq_of_mem (same.symm.covers (firstSets_covers d')) ?_
    intro s x
    have rules : Begins g s x ↔ Begins h s x := ⟨same.begins, same.symm.begins⟩
    rw [mem_firstSets d, mem_firstSets d', rules]
  have follow : (FirstFollow.ofGrammar g).follow = (FirstFollow.ofGrammar h).follow := by
    have own : Covers g (FirstFollow.ofGrammar g).follow := followSets_covers d _
    refine own.eq_of_mem (same.symm.covers (followSets_covers d' _)) ?_
    intro s x
    have rules : Trails g s x ↔ Trails h s x := ⟨same.trails, same.symm.trails⟩
    rw [mem_followSets d, mem_followSets d', rules]
  cases hg : FirstFollow.ofGrammar g
  cases hh : FirstFollow.ofGrammar h
  rw [hg, hh] at first follow
  cases first
  cases follow
  rfl

end Reordered
end Grammar

namespace Predictive

variable {g h : Grammar} (same : g.Reordered h)
include same

theorem expects_reordered {p : Production} {ahead : Symbol} (expects : Expects g p ahead) :
    Expects h p ahead := by
  rcases expects with ⟨leads, visible⟩ | ⟨vanishes, trails⟩
  · exact Or.inl ⟨same.leads leads, visible⟩
  · exact Or.inr ⟨same.leads vanishes, same.trails trails⟩

theorem separate_reordered (separate : Separate g) : Separate h := by
  intro p rule q rule' left ahead expects expects'
  exact separate p ((same.productions p).mpr rule) q ((same.productions q).mpr rule') left ahead
    (expects_reordered same.symm expects) (expects_reordered same.symm expects')

theorem build_reordered (d : g.Declared) (d' : h.Declared) {table : Table}
    (made : build g (FirstFollow.ofGrammar g) = .ok table) :
    build h (FirstFollow.ofGrammar h) = .ok table := by
  have separate := (exists_build_iff_separate d).mp ⟨table, made⟩
  obtain ⟨other, made'⟩ := (exists_build_iff_separate d').mpr (separate_reordered same separate)
  have cells : table = other := by
    refine CellMap.ext ?_
    rintro ⟨s, a⟩
    refine Option.ext fun p => ?_
    rw [get?_iff_expects d made, get?_iff_expects d' made', same.productions]
    have expects : Expects g p a ↔ Expects h p a :=
      ⟨expects_reordered same, expects_reordered same.symm⟩
    rw [expects]
  rw [made', cells]

end Predictive
end TableParsing
