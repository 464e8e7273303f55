import Mathlib.Data.Fintype.BigOperators
import Mathlib.Tactic.Linarith
import Mathlib.Tactic.Ring
import TableParsing.Proofs.ShiftReduce.Circles

/- The limit on the steps of a shift-reduce run cuts no run short, and a run that exceeds it
   circles. Between two shifts the stack is what is left of the old one with new states on top. The
   new states are all different, or the reductions that led from one of them to the same state above
   it could be repeated. So there are not more stacks than choices of an old part and of different
   new states, and none of them comes twice. -/
namespace TableParsing.ShiftReduce

variable {t : Tables} {c next last : Config}

theorem mem_enteredStates_of_goto {n target : Int} {s : Symbol}
    (h : t.goto.get? (n, s) = some target) : target ∈ enteredStates t := by
  refine SortedSet.mem_ofList.mpr (List.mem_cons_of_mem _ (List.mem_append_left _ ?_))
  exact List.mem_map.mpr ⟨((n, s), target), CellMap.mem_cells.mpr h, rfl⟩

/-- What reductions have made of a stack: `gone` of its states are left, and `new` ones are on
top, each of which has been reached from those below it. -/
structure Grown (t : Tables) (old c : Config) (new : List Int) (gone : Nat) : Prop where
  stack : c.stack = new ++ old.stack.drop gone
  input : c.input = old.input
  kept : gone < old.stack.length
  distinct : new.Nodup
  entered : ∀ q ∈ new, q ∈ enteredStates t
  history : ∀ above q below, new = above ++ q :: below →
    ∃ k, reduceTimes t k ⟨[q], old.input⟩ = some ⟨above ++ [q], old.input⟩

theorem grown_refl (kept : c.stack ≠ []) : Grown t c c [] 0 where
  stack := rfl
  input := rfl
  kept := List.length_pos_iff.mpr kept
  distinct := List.nodup_nil
  entered := by
    intro q hq
    exact absurd hq List.not_mem_nil
  history := by
    intro above q below h
    simp at h

section Growth

variable {old : Config} {new : List Int} {gone : Nat}

theorem grown_step_old {p : Production} (h : Grown t old c new gone)
    {exposed target : Int} {left : List Int} (deep : new.length ≤ p.body.length)
    (popped : c.stack.drop p.body.length = exposed :: left)
    (entered : t.goto.get? (exposed, p.lhs) = some target) :
    Grown t old ⟨target :: exposed :: left, c.input⟩ [target]
      (gone + (p.body.length - new.length)) := by
  rw [h.stack, List.drop_append, List.drop_eq_nil_of_le deep, List.nil_append,
    List.drop_drop] at popped
  constructor
  case stack => rw [popped, List.singleton_append]
  case input => exact h.input
  case kept =>
    by_contra all
    rw [List.drop_eq_nil_of_le (by omega)] at popped
    cases popped
  case distinct => simp
  case entered =>
    intro q hq
    rw [List.mem_singleton.mp hq]
    exact mem_enteredStates_of_goto entered
  case history =>
    intro above q below split
    cases above with
    | nil => exact ⟨0, rfl⟩
    | cons x above => simp at split

/-- A reduction that exposes a new state happens above every new state that it keeps. -/
theorem history_step_new {p : Production} (h : Grown t old c new gone) {ahead : Symbol}
    {rest : List Symbol} (input : c.input = ahead :: rest)
    (found : t.action.get? (c.state, ahead) = some (.reduce p)) {exposed target : Int}
    {left : List Int} (popped : c.stack.drop p.body.length = exposed :: left)
    (entered : t.goto.get? (exposed, p.lhs) = some target) {above below : List Int} {q : Int}
    (kept : new.drop p.body.length = above ++ q :: below) :
    ∃ k > 0, reduceTimes t k ⟨[q], old.input⟩ = some ⟨target :: (above ++ [q]), old.input⟩ := by
  have shallow : p.body.length ≤ new.length := by
    by_contra deep
    rw [List.drop_eq_nil_of_le (by omega)] at kept
    simp at kept
  obtain ⟨upper, length, whole⟩ : ∃ upper : List Int, upper.length = p.body.length ∧
      new = (upper ++ above) ++ q :: below := by
    refine ⟨new.take p.body.length, List.length_take_of_le shallow, ?_⟩
    rw [List.append_assoc, ← kept, List.take_append_drop]
  obtain ⟨k, before⟩ := h.history _ q below whole
  have top : Config.state ⟨upper ++ above ++ [q], old.input⟩ = c.state := by
    unfold Config.state
    rw [h.stack, whole]
    cases upper ++ above <;> rfl
  have exposes : ∃ others, above ++ [q] = exposed :: others := by
    rw [h.stack, List.drop_append_of_le_length shallow, kept] at popped
    cases above with
    | nil => exact ⟨[], by rw [(List.cons.inj popped).1, List.nil_append]⟩
    | cons x above => exact ⟨above ++ [q], by rw [(List.cons.inj popped).1, List.cons_append]⟩
  obtain ⟨others, exposes⟩ := exposes
  have last : step t ⟨upper ++ above ++ [q], old.input⟩ =
      .reduce p ⟨target :: (above ++ [q]), old.input⟩ := by
    refine step_reduce_iff.mpr ⟨ahead, rest, exposed, others, target, ?_, ?_, ?_, entered, ?_⟩
    · exact h.input ▸ input
    · rw [top]
      exact found
    · dsimp only
      rw [List.append_assoc, List.drop_append_of_le_length (by omega),
        List.drop_eq_nil_of_le (by omega), List.nil_append, exposes]
    · rw [exposes]
  exact ⟨k + 1, by omega, reduceTimes_concat before last⟩

/-- A reduction keeps the form of the stack, unless the run circles. -/
theorem grown_step {p : Production} (h : Grown t old c new gone)
    (reduces : step t c = .reduce p next) :
    Circles t next ∨ ∃ new gone, Grown t old next new gone := by
  obtain ⟨ahead, rest, exposed, left, target, input, found, popped, entered, rfl⟩ :=
    step_reduce_iff.mp reduces
  by_cases deep : new.length ≤ p.body.length
  · exact Or.inr ⟨_, _, grown_step_old h deep popped entered⟩
  · have history := @history_step_new t c old new gone p h ahead rest input found exposed target
      left popped entered
    -- to enter a state above itself closes a circle; any other state keeps the new ones distinct
    by_cases again : target ∈ new.drop p.body.length
    · obtain ⟨above, below, split⟩ := List.append_of_mem again
      obtain ⟨k, positive, back⟩ := history split
      rw [← h.input] at back
      exact Or.inl ⟨k, positive, Or.inr ⟨target, exposed :: left, above, rfl, back⟩⟩
    · refine Or.inr ⟨target :: new.drop p.body.length, gone, ?_⟩
      have split : new.drop p.body.length ++ old.stack.drop gone = exposed :: left := by
        rw [← popped, h.stack, List.drop_append_of_le_length (by omega)]
      constructor
      case stack => rw [List.cons_append, split]
      case input => exact h.input
      case kept => exact h.kept
      case distinct =>
        exact List.nodup_cons.mpr ⟨again, h.distinct.sublist (List.drop_sublist _ _)⟩
      case entered =>
        intro q hq
        rcases List.mem_cons.mp hq with rfl | hq
        · exact mem_enteredStates_of_goto entered
        · exact h.entered q (List.mem_of_mem_drop hq)
      case history =>
        intro above q below here
        cases above with
        | nil => exact ⟨0, rfl⟩
        | cons x above =>
          obtain ⟨rfl, kept⟩ := List.cons.inj here
          obtain ⟨k, _, reached⟩ := history kept
          exact ⟨k, reached⟩

end Growth

/-- Nothing that a configuration leads to circles. -/
def Straight (t : Tables) (c : Config) : Prop := ∀ ps last, Moves t c ps last → ¬ Circles t last

theorem grown_reduceTimes (straight : Straight t c) (kept : c.stack ≠ []) {k : Nat}
    (h : reduceTimes t k c = some last) : ∃ new gone, Grown t c last new gone := by
  induction k generalizing last with
  | zero =>
    obtain rfl := Option.some.inj h
    exact ⟨[], 0, grown_refl kept⟩
  | succ k ih =>
    obtain ⟨middle, p, before, reduces⟩ := reduceTimes_last h
    obtain ⟨new, gone, grown⟩ := ih before
    rcases grown_step grown reduces with circles | found
    · obtain ⟨ps, moves⟩ := moves_of_reduceTimes h
      exact absurd circles (straight ps _ moves)
    · exact found

theorem Grown.length_le {old : Config} {new : List Int} {gone : Nat}
    (h : Grown t old c new gone) : new.length ≤ (enteredStates t).size :=
  h.distinct.length_le_of_subset h.entered

/-- The states of a list at the places of a range. -/
def places (n : Nat) {states : List Int} (new : List Int) (entered : ∀ q ∈ new, q ∈ states) :
    Fin n → Option {q // q ∈ states} := fun i =>
  if lt : i.val < new.length then some ⟨new[i.val], entered _ (List.getElem_mem lt)⟩ else none

theorem places_injective {n : Nat} {states new other : List Int}
    {entered : ∀ q ∈ new, q ∈ states} {entered' : ∀ q ∈ other, q ∈ states}
    (short : new.length ≤ n) (short' : other.length ≤ n)
    (same : places n new entered = places n other entered') : new = other := by
  refine List.ext_getElem? fun i => ?_
  by_cases inside : i < n
  · have here := congrFun same ⟨i, inside⟩
    unfold places at here
    dsimp only at here
    split at here
    · rename_i lt
      split at here
      · rename_i lt'
        rw [List.getElem?_eq_getElem lt, List.getElem?_eq_getElem lt']
        exact congrArg (Option.map Subtype.val) here
      · cases here
    · rename_i le
      split at here
      · cases here
      · rename_i le'
        rw [List.getElem?_eq_none (by omega), List.getElem?_eq_none (by omega)]
  · rw [List.getElem?_eq_none (by omega), List.getElem?_eq_none (by omega)]

/-- How many different new parts a stack can have. -/
def newParts (t : Tables) : Nat := Nat.pow ((enteredStates t).size + 1) (enteredStates t).size

theorem reduceTimes_injective (straight : Straight t c) {i j : Nat}
    (hi : reduceTimes t i c = some last) (hj : reduceTimes t j c = some last) : i = j := by
  have once : ∀ {i j}, reduceTimes t i c = some last → reduceTimes t j c = some last →
      ¬ i < j := by
    intro i j hi hj lt
    have split : j = i + (j - i) := by omega
    rw [split, reduceTimes_add, hi] at hj
    obtain ⟨ps, moves⟩ := moves_of_reduceTimes hi
    exact straight ps last moves ⟨j - i, by omega, Or.inl hj⟩
  have left := once hi hj
  have right := once hj hi
  omega

theorem card_places (t : Tables) (n : Nat) :
    Fintype.card (Fin n → Option {q // q ∈ (enteredStates t).toList}) ≤
      ((enteredStates t).size + 1) ^ n := by
  have states : Fintype.card {q // q ∈ (enteredStates t).toList} ≤ (enteredStates t).size := by
    rw [Fintype.card_of_subtype (enteredStates t).toList.toFinset fun q => List.mem_toFinset]
    exact List.toFinset_card_le _
  rw [Fintype.card_fun, Fintype.card_option, Fintype.card_fin]
  exact Nat.pow_le_pow_left (by omega) n

/-- There are not more reductions under one lookahead than stacks. -/
theorem reduceTimes_bound (straight : Straight t c) (kept : c.stack ≠ []) {k : Nat}
    (h : reduceTimes t k c = some last) : k + 1 ≤ c.stack.length * newParts t := by
  have reached : ∀ i : Fin (k + 1), ∃ d, reduceTimes t i c = some d := by
    intro i
    have split : k = i + (k - i) := by omega
    rw [split, reduceTimes_add] at h
    obtain ⟨d, before, _⟩ := Option.bind_eq_some_iff.mp h
    exact ⟨d, before⟩
  choose d hd using reached
  have forms : ∀ i, ∃ new gone, Grown t c (d i) new gone := by
    intro i
    exact grown_reduceTimes straight kept (hd i)
  choose new gone grown using forms
  -- a stack is told by how much of the old one is gone and by its new states in their places
  let n := (enteredStates t).size
  let code : Fin (k + 1) → Fin c.stack.length ×
      (Fin n → Option {q // q ∈ (enteredStates t).toList}) := fun i =>
    (⟨gone i, (grown i).kept⟩, places n (new i) (grown i).entered)
  have injective : Function.Injective code := by
    intro i j same
    have sameGone : gone i = gone j := Fin.mk.inj_iff.mp (Prod.mk.inj same).1
    have sameNew : new i = new j :=
      places_injective (grown i).length_le (grown j).length_le (Prod.mk.inj same).2
    have sameStack : (d i).stack = (d j).stack := by
      rw [(grown i).stack, (grown j).stack, sameGone, sameNew]
    have sameInput : (d i).input = (d j).input := by
      rw [(grown i).input, (grown j).input]
    have sameConfig : d i = d j := by
      cases hi : d i
      cases hj : d j
      simp_all
    have again := hd j
    rw [← sameConfig] at again
    exact Fin.ext (reduceTimes_injective straight (hd i) again)
  have count := Fintype.card_le_of_injective code injective
  rw [Fintype.card_prod, Fintype.card_fin, Fintype.card_fin] at count
  exact count.trans (Nat.mul_le_mul_left _ (card_places t n))

theorem reduceTimes_height (straight : Straight t c) (kept : c.stack ≠ []) {k : Nat}
    (h : reduceTimes t k c = some last) :
    last.stack ≠ [] ∧ last.stack.length ≤ c.stack.length + (enteredStates t).size := by
  obtain ⟨new, gone, grown⟩ := grown_reduceTimes straight kept h
  have short := grown.length_le
  have old := grown.kept
  have total : last.stack.length = new.length + (c.stack.length - gone) := by
    rw [grown.stack, List.length_append, List.length_drop]
  refine ⟨?_, by omega⟩
  rw [← List.length_pos_iff]
  omega

theorem exists_last_reduction {k : Nat} (h : reduceTimes t k c = none) :
    ∃ j last, j < k ∧ reduceTimes t j c = some last ∧ ∀ p next, step t last ≠ .reduce p next := by
  induction k generalizing c with
  | zero => cases h
  | succ k ih =>
    by_cases more : ∃ p next, step t c = .reduce p next
    · obtain ⟨p, next, first⟩ := more
      rw [reduceTimes, first] at h
      obtain ⟨j, last, lt, reached, stops⟩ := ih h
      exact ⟨j + 1, last, by omega, reduceTimes_succ.mpr ⟨p, next, first, reached⟩, stops⟩
    · refine ⟨0, c, by omega, rfl, ?_⟩
      intro p next first
      exact more ⟨p, next, first⟩

/-- The steps that a straight run takes at most, by the height of its stack and the length of its
input. -/
def runBound (t : Tables) : Nat → Nat → Nat
  | _, 0 => 1
  | height, length + 1 =>
    height * newParts t + runBound t (height + (enteredStates t).size + 1) length

theorem runBound_mono {h h' : Nat} (le : h ≤ h') (length : Nat) :
    runBound t h length ≤ runBound t h' length := by
  induction length generalizing h h' with
  | zero => exact Nat.le_refl 1
  | succ length ih =>
    unfold runBound
    exact Nat.add_le_add (Nat.mul_le_mul_right _ le) (ih (by omega))

theorem outcome_mono {n : Nat} {o : Outcome} (h : outcome t n c = some o) {m : Nat}
    (le : n ≤ m) : outcome t m c = some o := by
  induction n generalizing c m with
  | zero => cases h
  | succ n ih =>
    obtain ⟨m, rfl⟩ : ∃ j, m = j + 1 := ⟨m - 1, by omega⟩
    unfold outcome at h ⊢
    cases hs : step t c with
    | shift target next =>
      rw [hs] at h
      exact ih h (by omega)
    | reduce p next =>
      rw [hs] at h
      exact ih h (by omega)
    | deadEnd | accept | reject | fault =>
      rw [hs] at h
      exact h

theorem outcome_unique {n m : Nat} {o o' : Outcome} (h : outcome t n c = some o)
    (h' : outcome t m c = some o') : o = o' := by
  rcases Nat.le_total n m with le | le
  · exact Option.some.inj ((outcome_mono h le).symm.trans h')
  · exact Option.some.inj (h.symm.trans (outcome_mono h' le))

theorem Straight.of_moves {ps : List Production} (straight : Straight t c)
    (moves : Moves t c ps next) : Straight t next := by
  intro qs last more
  exact straight _ last (moves.trans more)

/-- A straight run ends within its bound. -/
theorem outcome_of_straight (straight : Straight t c) (kept : c.stack ≠ []) :
    ∃ o, outcome t (runBound t c.stack.length c.input.length) c = some o := by
  generalize hl : c.input.length = length
  induction length generalizing c with
  | zero =>
    have empty : c.input = [] := List.length_eq_zero_iff.mp hl
    exact ⟨.faulted .inputExhausted, by simp [runBound, outcome, step, empty]⟩
  | succ length ih =>
    have finite : reduceTimes t (c.stack.length * newParts t) c = none := by
      rw [Option.eq_none_iff_forall_ne_some]
      intro last reached
      have := reduceTimes_bound straight kept reached
      omega
    obtain ⟨j, last, lt, reached, stops⟩ := exists_last_reduction finite
    obtain ⟨ps, moves⟩ := moves_of_reduceTimes reached
    obtain ⟨nonempty, height⟩ := reduceTimes_height straight kept reached
    have input : last.input = c.input := (reduceTimes_append reached []).1
    have finish : ∀ {m o}, outcome t m last = some o →
        m + j ≤ runBound t c.stack.length (length + 1) →
        outcome t (runBound t c.stack.length (length + 1)) c = some o := by
      intro m o h le
      exact outcome_mono ((outcome_of_reduceTimes reached m).trans h) le
    cases hs : step t last with
    | reduce p next => exact absurd hs (stops p next)
    | shift target next =>
      obtain ⟨ahead, rest, same, rfl⟩ := step_shift_inv hs
      have rest_length : rest.length = length := by
        rw [← input, same, List.length_cons] at hl
        omega
      obtain ⟨o, ends⟩ := ih (straight.of_moves (moves.trans (.shift hs (.refl _))))
        (List.cons_ne_nil target last.stack) rest_length
      have further : outcome t (runBound t (last.stack.length + 1) length + 1) last = some o := by
        rw [outcome, hs]
        exact ends
      refine ⟨o, finish further ?_⟩
      have later := @runBound_mono t _ _ (Nat.add_le_add_right height 1) length
      change _ ≤ c.stack.length * newParts t +
        runBound t (c.stack.length + (enteredStates t).size + 1) length
      omega
    | accept | reject | deadEnd | fault =>
      have ends : ∃ o, outcome t 1 last = some o := by
        rw [outcome, hs]
        exact ⟨_, rfl⟩
      obtain ⟨o, ends⟩ := ends
      refine ⟨o, finish ends ?_⟩
      unfold runBound
      omega

/-- A run ends exactly if it never circles. -/
theorem ends_iff_straight (kept : c.stack ≠ []) :
    (∃ n o, outcome t n c = some o) ↔ Straight t c := by
  constructor
  · rintro ⟨n, o, ends⟩ ps last moves circles
    rw [outcome_none_of_moves_circles moves circles n] at ends
    cases ends
  · intro straight
    obtain ⟨o, ends⟩ := outcome_of_straight straight kept
    exact ⟨_, o, ends⟩

theorem runBound_le (h length : Nat) :
    runBound t h length ≤
      length * (h + length * ((enteredStates t).size + 1)) * newParts t + 1 := by
  induction length generalizing h with
  | zero => simp [runBound]
  | succ length ih =>
    have later := ih (h + (enteredStates t).size + 1)
    unfold runBound
    generalize (enteredStates t).size = n at *
    generalize newParts t = parts at *
    calc h * parts + runBound t (h + n + 1) length
        ≤ h * parts + (length * (h + n + 1 + length * (n + 1)) * parts + 1) :=
          Nat.add_le_add_left later _
      _ = (length * (h + (length + 1) * (n + 1)) + h) * parts + 1 := by ring
      _ ≤ (length * (h + (length + 1) * (n + 1)) + (h + (length + 1) * (n + 1))) * parts + 1 := by
          gcongr
          exact Nat.le_add_right _ _
      _ = (length + 1) * (h + (length + 1) * (n + 1)) * parts + 1 := by ring

theorem runBound_le_stepLimit (tokens : List Symbol) :
    runBound t 1 (tokens.length + 1) ≤ stepLimit t tokens := by
  have bound := @runBound_le t 1 (tokens.length + 1)
  unfold stepLimit
  unfold newParts at bound
  dsimp only
  generalize (enteredStates t).size = n at *
  generalize tokens.length = w at *
  have raised : Nat.pow (n + 1) (n + 2) = Nat.pow (n + 1) n * (n + 1) * (n + 1) := rfl
  have positive : 1 ≤ Nat.pow (n + 1) n := Nat.one_le_pow n (n + 1) (by omega)
  rw [raised]
  generalize Nat.pow (n + 1) n = parts at *
  have each : 1 + (w + 1) * (n + 1) ≤ (w + 2) * (n + 1) := by
    have spread : (w + 2) * (n + 1) = (w + 1) * (n + 1) + (n + 1) := by ring
    omega
  calc runBound t 1 (w + 1)
      ≤ (w + 1) * (1 + (w + 1) * (n + 1)) * parts + 1 := bound
    _ ≤ (w + 1) * ((w + 2) * (n + 1)) * parts + parts := by gcongr
    _ = ((w + 1) * (w + 2) * (n + 1) + 1) * parts := by ring
    _ ≤ ((w + 2) * (w + 2) * (n + 1)) * parts := by
        gcongr
        nlinarith
    _ ≤ (w + 2) * (w + 2) * (n + 3) * (parts * (n + 1) * (n + 1)) := by
        have larger : parts ≤ parts * (n + 1) * (n + 1) := by
          rw [Nat.mul_assoc]
          exact Nat.le_mul_of_pos_right parts (by positivity)
        exact Nat.mul_le_mul (Nat.mul_le_mul_left _ (by omega)) larger

theorem outcome_stepLimit {tokens : List Symbol} {n : Nat} {o : Outcome}
    (h : outcome t n (initial tokens) = some o) :
    outcome t (stepLimit t tokens) (initial tokens) = some o := by
  have kept : (initial tokens).stack ≠ [] := List.cons_ne_nil 0 []
  have straight := (ends_iff_straight kept).mp ⟨n, o, h⟩
  obtain ⟨o', ends⟩ := outcome_of_straight straight kept
  rw [outcome_unique ends h] at ends
  refine outcome_mono ends ?_
  have length : (initial tokens).input.length = tokens.length + 1 := by
    simp [initial]
  rw [length]
  exact runBound_le_stepLimit tokens

end TableParsing.ShiftReduce
