import TableParsing.Proofs.ShiftReduce.Derivation

/- Runs that never end. A reduction reads nothing and looks no deeper into the stack than the state
   it exposes, so what it does above a state does not depend on what is below. If reductions alone
   lead back to a configuration, or back to the state on top with that state kept below, they can
   be repeated forever. -/
namespace TableParsing.ShiftReduce

variable {t : Tables} {c next last : Config}

/-- The configuration after a number of reductions, if there are so many without a shift. -/
def reduceTimes (t : Tables) : Nat → Config → Option Config
  | 0, c => some c
  | k + 1, c =>
    match step t c with
    | .reduce _ next => reduceTimes t k next
    | _ => none

theorem reduceTimes_succ {k : Nat} :
    reduceTimes t (k + 1) c = some last ↔
      ∃ p next, step t c = .reduce p next ∧ reduceTimes t k next = some last := by
  rw [reduceTimes]
  cases hs : step t c with
  | reduce p next =>
    simp only [Step.reduce.injEq]
    constructor
    · intro h
      exact ⟨p, next, ⟨rfl, rfl⟩, h⟩
    · rintro ⟨_, _, ⟨rfl, rfl⟩, h⟩
      exact h
  | shift | deadEnd | accept | reject | fault => simp

theorem reduceTimes_add (i j : Nat) (c : Config) :
    reduceTimes t (i + j) c = (reduceTimes t i c).bind (reduceTimes t j) := by
  induction i generalizing c with
  | zero =>
    rw [Nat.zero_add]
    rfl
  | succ i ih =>
    rw [Nat.succ_add, reduceTimes, reduceTimes]
    cases step t c with
    | reduce p next => exact ih next
    | shift | deadEnd | accept | reject | fault => rfl

theorem reduceTimes_one : reduceTimes t 1 c = some last ↔ ∃ p, step t c = .reduce p last := by
  rw [reduceTimes_succ]
  constructor
  · rintro ⟨p, next, first, same⟩
    exact ⟨p, Option.some.inj same ▸ first⟩
  · rintro ⟨p, first⟩
    exact ⟨p, last, first, rfl⟩

theorem reduceTimes_last {k : Nat} (h : reduceTimes t (k + 1) c = some last) :
    ∃ middle p, reduceTimes t k c = some middle ∧ step t middle = .reduce p last := by
  rw [reduceTimes_add] at h
  obtain ⟨middle, before, after⟩ := Option.bind_eq_some_iff.mp h
  obtain ⟨p, reduces⟩ := reduceTimes_one.mp after
  exact ⟨middle, p, before, reduces⟩

theorem reduceTimes_concat {k : Nat} {p : Production} (h : reduceTimes t k c = some next)
    (more : step t next = .reduce p last) : reduceTimes t (k + 1) c = some last := by
  rw [reduceTimes_add, h]
  exact reduceTimes_one.mpr ⟨p, more⟩

theorem reduceTimes_repeat {k : Nat} (h : reduceTimes t k c = some c) (n : Nat) :
    reduceTimes t (n * k) c = some c := by
  induction n with
  | zero =>
    rw [Nat.zero_mul]
    rfl
  | succ n ih =>
    rw [Nat.succ_mul, reduceTimes_add, ih]
    exact h

theorem moves_of_reduceTimes {k : Nat} (h : reduceTimes t k c = some last) :
    ∃ ps, Moves t c ps last := by
  induction k generalizing c with
  | zero => exact ⟨[], Option.some.inj h ▸ .refl c⟩
  | succ k ih =>
    obtain ⟨p, next, first, rest⟩ := reduceTimes_succ.mp h
    obtain ⟨ps, moves⟩ := ih rest
    exact ⟨p :: ps, .reduce first moves⟩

theorem outcome_of_reduceTimes {k : Nat} (h : reduceTimes t k c = some last) (n : Nat) :
    outcome t (n + k) c = outcome t n last := by
  induction k generalizing c with
  | zero => rw [Option.some.inj h, Nat.add_zero]
  | succ k ih =>
    obtain ⟨p, next, first, rest⟩ := reduceTimes_succ.mp h
    rw [← Nat.add_assoc, outcome, first]
    exact ih rest

theorem outcome_none_of_reduceTimes {k n : Nat} (h : reduceTimes t k c = some last)
    (le : n ≤ k) : outcome t n c = none := by
  induction n generalizing c k with
  | zero => rfl
  | succ n ih =>
    obtain ⟨k, rfl⟩ : ∃ j, k = j + 1 := ⟨k - 1, by omega⟩
    obtain ⟨p, next, first, rest⟩ := reduceTimes_succ.mp h
    rw [outcome, first]
    exact ih rest (by omega)

/-- A reduction does the same with more states below. -/
theorem step_reduce_append {p : Production} (h : step t c = .reduce p next) (more : List Int) :
    next.input = c.input ∧ step t ⟨c.stack ++ more, c.input⟩ =
      .reduce p ⟨next.stack ++ more, c.input⟩ := by
  obtain ⟨ahead, rest, exposed, left, target, input, found, popped, entered, rfl⟩ :=
    step_reduce_iff.mp h
  refine ⟨rfl, step_reduce_iff.mpr
    ⟨ahead, rest, exposed, left ++ more, target, input, ?_, ?_, entered, rfl⟩⟩
  · have top : Config.state ⟨c.stack ++ more, c.input⟩ = c.state := by
      unfold Config.state
      cases hs : c.stack with
      | nil =>
        rw [hs, List.drop_nil] at popped
        cases popped
      | cons n below => rfl
    rw [top]
    exact found
  · have short : p.body.length ≤ c.stack.length := by
      by_contra long
      rw [List.drop_eq_nil_of_le (by omega)] at popped
      cases popped
    dsimp only
    rw [List.drop_append_of_le_length short, popped]
    rfl

theorem reduceTimes_append {k : Nat} (h : reduceTimes t k c = some last) (more : List Int) :
    last.input = c.input ∧ reduceTimes t k ⟨c.stack ++ more, c.input⟩ =
      some ⟨last.stack ++ more, c.input⟩ := by
  induction k generalizing c with
  | zero =>
    obtain rfl := Option.some.inj h
    exact ⟨rfl, rfl⟩
  | succ k ih =>
    obtain ⟨p, next, first, rest⟩ := reduceTimes_succ.mp h
    obtain ⟨input, framed⟩ := step_reduce_append first more
    obtain ⟨later, tail⟩ := ih rest
    rw [input] at later tail
    exact ⟨later, reduceTimes_succ.mpr ⟨p, _, framed, tail⟩⟩

/-- Reductions alone lead back, either to the configuration itself or to the state on top, with
that state kept below and whatever is below it untouched. -/
def Circles (t : Tables) (c : Config) : Prop :=
  ∃ k > 0, reduceTimes t k c = some c ∨ ∃ top below grown, c.stack = top :: below ∧
    reduceTimes t k ⟨[top], c.input⟩ = some ⟨top :: (grown ++ [top]), c.input⟩

/-- Reductions go on without end. -/
def Forever (t : Tables) (c : Config) : Prop := ∀ k, ∃ last, reduceTimes t k c = some last

theorem Forever.outcome (h : Forever t c) (n : Nat) : ShiftReduce.outcome t n c = none := by
  obtain ⟨last, reached⟩ := h n
  exact outcome_none_of_reduceTimes reached (Nat.le_refl n)

theorem Forever.later {k : Nat} (h : Forever t c) (reached : reduceTimes t k c = some next) :
    Forever t next := by
  intro j
  obtain ⟨last, both⟩ := h (k + j)
  rw [reduceTimes_add, reached] at both
  exact ⟨last, both⟩

/-- Reductions go on if they lead from each configuration of a kind to another of it. -/
theorem forever_of_recurrence {P : Config → Prop}
    (recurs : ∀ c, P c → ∃ k > 0, ∃ next, reduceTimes t k c = some next ∧ P next)
    {c : Config} (h : P c) : Forever t c := by
  intro n
  induction n using Nat.strongRecOn generalizing c with
  | ind n ih =>
    obtain ⟨k, positive, next, leads, again⟩ := recurs c h
    by_cases le : n ≤ k
    · have split : k = n + (k - n) := by omega
      rw [split, reduceTimes_add] at leads
      obtain ⟨middle, reached, _⟩ := Option.bind_eq_some_iff.mp leads
      exact ⟨middle, reached⟩
    · have split : n = k + (n - k) := by omega
      rw [split, reduceTimes_add, leads]
      exact ih (n - k) (by omega) again

theorem forever_of_circles (h : Circles t c) : Forever t c := by
  obtain ⟨k, positive, back | ⟨top, below, grown, stack, back⟩⟩ := h
  · refine forever_of_recurrence (P := fun d => d = c) ?_ rfl
    rintro d rfl
    exact ⟨k, positive, d, back, rfl⟩
  · refine forever_of_recurrence
      (P := fun d => ∃ left, d = ⟨top :: left, c.input⟩) ?_ ⟨below, ?_⟩
    · rintro d ⟨left, rfl⟩
      obtain ⟨_, framed⟩ := reduceTimes_append back left
      exact ⟨k, positive, _, framed, grown ++ [top] ++ left, rfl⟩
    · rw [← stack]

theorem outcome_none_of_moves_circles {ps : List Production} (moves : Moves t c ps last)
    (h : Circles t last) (n : Nat) : outcome t n c = none := by
  induction moves generalizing n with
  | refl => exact (forever_of_circles h).outcome n
  | shift first _ ih =>
    cases n with
    | zero => rfl
    | succ n =>
      rw [outcome, first]
      exact ih h n
  | reduce first _ ih =>
    cases n with
    | zero => rfl
    | succ n =>
      rw [outcome, first]
      exact ih h n

end TableParsing.ShiftReduce
