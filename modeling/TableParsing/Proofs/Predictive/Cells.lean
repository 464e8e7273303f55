import TableParsing.Predictive.Table
import TableParsing.Proofs.Sets.Closed

/- What a finished predictive table holds: in each cell the production that claims it, and nothing
   where no production does. -/
namespace TableParsing.Predictive

variable {g : Grammar} {ff : FirstFollow} {table : Table}

theorem mem_claimsOf {p q : Production} {a : Symbol} :
    Claim.cell p a ∈ claimsOf g ff q ↔
      p = q ∧ a ∈ aheadOf g ff.first ff.follow q.lhs q.rhs := by
  rw [mem_aheadOf]
  unfold claimsOf
  dsimp only
  rw [List.mem_append, List.mem_map]
  by_cases vanishes : Symbol.epsilon ∈ firstOf g ff.first q.rhs
  · rw [if_pos vanishes]
    cases found : ff.follow.get? q.lhs with
    | none =>
      simp [OrderedMap.getD, found, vanishes, ← SortedSet.mem_def, and_comm, eq_comm]
    | some after =>
      simp only [OrderedMap.getD, found, vanishes, ← SortedSet.mem_def, SortedSet.mem_erase,
        List.mem_map, Claim.cell.injEq, Option.getD_some, true_and]
      constructor
      · rintro (⟨x, hx, rfl, rfl⟩ | ⟨x, hx, rfl, rfl⟩)
        · exact ⟨rfl, Or.inl hx⟩
        · exact ⟨rfl, Or.inr hx⟩
      · rintro ⟨rfl, hx | hx⟩
        · exact Or.inl ⟨a, hx, rfl, rfl⟩
        · exact Or.inr ⟨a, hx, rfl, rfl⟩
  · simp [vanishes, ← SortedSet.mem_def, and_comm, eq_comm]

theorem mem_claims {p : Production} {a : Symbol} :
    Claim.cell p a ∈ claims g ff ↔
      p ∈ g.productions ∧ a ∈ aheadOf g ff.first ff.follow p.lhs p.rhs := by
  simp only [claims, List.mem_flatMap, mem_claimsOf]
  constructor
  · rintro ⟨q, hq, rfl, ha⟩
    exact ⟨hq, ha⟩
  · rintro ⟨hp, ha⟩
    exact ⟨p, hp, rfl, ha⟩

/-- Everything that settling a claim can do. -/
theorem place_cases {mode : OnConflict} {d next : Draft} {p : Production} {a : Symbol}
    (placed : d.place mode (.cell p a) = .ok next) :
    d.table.get? (p.lhs, a) = none ∧ next = { d with table := d.table.put (p.lhs, a) p } ∨
      d.table.get? (p.lhs, a) = some p ∧ next = d ∨
      ∃ existing, d.table.get? (p.lhs, a) = some existing ∧ existing ≠ p ∧ mode = .collect ∧
        next = { d with conflicts := d.conflicts ++ [⟨p.lhs, a, existing, p⟩] } := by
  unfold Draft.place at placed
  dsimp only at placed
  cases found : d.table.get? (p.lhs, a) with
  | none =>
    rw [found] at placed
    cases placed
    exact Or.inl ⟨rfl, rfl⟩
  | some existing =>
    rw [found] at placed
    dsimp only at placed
    by_cases same : existing = p
    · rw [if_pos same] at placed
      cases placed
      exact Or.inr (Or.inl ⟨congrArg some same, rfl⟩)
    · rw [if_neg same] at placed
      cases mode with
      | stop => cases placed
      | collect =>
        cases placed
        exact Or.inr (Or.inr ⟨existing, rfl, same, rfl, rfl⟩)

/-- A settled claim finds its cell free or already its own, and writes there only. -/
theorem place_eq_ok {d e : Draft} {claim : Claim} (h : d.place .stop claim = .ok e) :
    ∃ p a, claim = .cell p a ∧ (∀ q, d.table.get? (p.lhs, a) = some q → q = p) ∧
      ∀ cell, e.table.get? cell = if (p.lhs, a) = cell then some p else d.table.get? cell := by
  cases claim with
  | missing s => cases h
  | cell p a =>
    refine ⟨p, a, rfl, ?_⟩
    rcases place_cases h with ⟨found, rfl⟩ | ⟨found, rfl⟩ | ⟨_, _, _, collects, _⟩
    · exact ⟨by simp [found], fun cell => CellMap.get?_put d.table (p.lhs, a) cell p⟩
    · refine ⟨fun q other => Option.some.inj (other.symm.trans found), ?_⟩
      intro cell
      split
      · rename_i here
        rw [← here, found]
      · rfl
    · cases collects

theorem get?_foldlM_place {cs : List Claim} {d e : Draft}
    (h : cs.foldlM (Draft.place .stop) d = .ok e) (s a : Symbol) (p : Production) :
    e.table.get? (s, a) = some p ↔
      d.table.get? (s, a) = some p ∨ (p.lhs = s ∧ Claim.cell p a ∈ cs) := by
  induction cs generalizing d with
  | nil =>
    cases h
    simp
  | cons claim rest ih =>
    rw [List.foldlM_cons] at h
    cases first : d.place .stop claim with
    | error e =>
      rw [first] at h
      cases h
    | ok k =>
      rw [first] at h
      obtain ⟨q, b, rfl, free, cells⟩ := place_eq_ok first
      rw [ih h, cells, List.mem_cons, Claim.cell.injEq]
      by_cases here : (q.lhs, b) = (s, a)
      · obtain ⟨rfl, rfl⟩ := Prod.mk.inj here
        rw [if_pos rfl, Option.some.injEq]
        constructor
        · rintro (rfl | ⟨row, member⟩)
          · exact Or.inr ⟨rfl, Or.inl ⟨rfl, rfl⟩⟩
          · exact Or.inr ⟨row, Or.inr member⟩
        · rintro (old | ⟨row, ⟨rfl, _⟩ | member⟩)
          · exact Or.inl (free p old).symm
          · exact Or.inl rfl
          · exact Or.inr ⟨row, member⟩
      · rw [if_neg here]
        constructor
        · rintro (old | ⟨row, member⟩)
          · exact Or.inl old
          · exact Or.inr ⟨row, Or.inr member⟩
        · rintro (old | ⟨row, ⟨rfl, rfl⟩ | member⟩)
          · exact Or.inl old
          · exact absurd (congrArg (·, a) row) here
          · exact Or.inr ⟨row, member⟩

theorem get?_build (built : build g ff = .ok table) {s a : Symbol} {p : Production} :
    table.get? (s, a) = some p ↔
      p ∈ g.productions ∧ p.lhs = s ∧ a ∈ aheadOf g ff.first ff.follow s p.rhs := by
  unfold build fill at built
  cases filled : (claims g ff).foldlM (Draft.place .stop) ⟨∅, []⟩ with
  | error e =>
    rw [filled] at built
    cases built
  | ok d =>
    rw [filled] at built
    cases built
    rw [get?_foldlM_place filled, CellMap.get?_empty, mem_claims]
    constructor
    · rintro (none | ⟨rfl, rule, member⟩)
      · cases none
      · exact ⟨rule, rfl, member⟩
    · rintro ⟨rule, rfl, member⟩
      exact Or.inr ⟨rfl, rule, member⟩

end TableParsing.Predictive
