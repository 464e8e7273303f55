import TableParsing.Proofs.Predictive.Cells
import TableParsing.Proofs.Sets.Rules

/- The claims on the cells of a predictive table. With the computed sets a production claims a cell if
   it expects the lookahead; with a FOLLOW set for every nonterminal there is nothing but claims. -/
namespace TableParsing.Predictive

variable {g : Grammar}

/-- A production is to be used under a lookahead: its alternative can begin with it, or the
alternative can vanish and the lookahead come after the left-hand side. -/
def Expects (g : Grammar) (p : Production) (ahead : Symbol) : Prop :=
  Leads g p.rhs ahead ∧ ahead ≠ Symbol.epsilon ∨ Leads g p.rhs Symbol.epsilon ∧ Trails g p.lhs ahead

/-- No two productions of a nonterminal expect one lookahead. -/
def Separate (g : Grammar) : Prop :=
  ∀ p ∈ g.productions, ∀ q ∈ g.productions, p.lhs = q.lhs → ∀ ahead, Expects g p ahead →
    Expects g q ahead → p = q

def FollowKnown (g : Grammar) (ff : FirstFollow) : Prop :=
  ∀ s ∈ g.nonterminals, ∃ after, ff.follow.get? s = some after

section Declared

variable (d : g.Declared)
include d

theorem mem_aheadOf_iff_expects {p : Production} {ahead : Symbol} :
    ahead ∈ aheadOf g (FirstFollow.ofGrammar g).first (FirstFollow.ofGrammar g).follow p.lhs p.rhs ↔
      Expects g p ahead := by
  have first : ∀ x, x ∈ firstOf g (FirstFollow.ofGrammar g).first p.rhs ↔ Leads g p.rhs x :=
    fun _ => mem_firstOf d
  rw [mem_aheadOf, first, first, mem_followSets d]
  rfl

theorem get?_iff_expects {table : Table} (made : build g (FirstFollow.ofGrammar g) = .ok table)
    {s ahead : Symbol} {p : Production} : table.get? (s, ahead) = some p ↔
      p ∈ g.productions ∧ p.lhs = s ∧ Expects g p ahead := by
  rw [get?_build made]
  constructor
  · rintro ⟨rule, rfl, claimed⟩
    exact ⟨rule, rfl, (mem_aheadOf_iff_expects d).mp claimed⟩
  · rintro ⟨rule, rfl, expects⟩
    exact ⟨rule, rfl, (mem_aheadOf_iff_expects d).mpr expects⟩

theorem followKnown_ofGrammar : FollowKnown g (FirstFollow.ofGrammar g) := by
  have keys : (FirstFollow.ofGrammar g).follow.keys = g.nonterminals.toList :=
    followSets_covers d (firstSets g)
  intro s declared
  exact OrderedMap.mem_keys.mp (keys ▸ declared)

theorem missing_not_mem_claims {ff : FirstFollow} (known : FollowKnown g ff) (s : Symbol) :
    Claim.missing s ∉ claims g ff := by
  intro member
  obtain ⟨p, rule, claimed⟩ := List.mem_flatMap.mp member
  obtain ⟨after, found⟩ := known p.lhs (d.lhs_mem rule)
  unfold claimsOf at claimed
  dsimp only at claimed
  rw [found] at claimed
  split at claimed <;> simp at claimed

end Declared
end TableParsing.Predictive
