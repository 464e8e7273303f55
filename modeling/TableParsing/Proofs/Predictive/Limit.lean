import Mathlib.Tactic.Ring
import Mathlib.Tactic.Linarith
import TableParsing.Proofs.Predictive.Derivation

/- The limit on the steps of a predictive run cuts no run short. Between two matches the stack is
   rewritten from its top by rules that depend on one lookahead only. If that ends, a symbol is
   never expanded below itself, so the expansions below a symbol nest no deeper than there are rows
   in the table. From the depth we bound the expansions, and from these the whole run. -/
namespace TableParsing.Predictive

/-- Expands the symbols of a stack from its top until one is exposed that is not expanded. The
result is the number of expansions and the stack that is left. -/
def exposeAll (expose : Symbol → Option (Nat × List Symbol)) :
    List Symbol → Option (Nat × List Symbol)
  | [] => some (0, [])
  | s :: rest =>
    match expose s with
    | none => none
    | some (k, []) => (exposeAll expose rest).map fun r => (k + r.1, r.2)
    | some (k, x :: xs) => some (k, x :: (xs ++ rest))

/-- Expands one symbol by rules, nested to a given depth at most. -/
def expose (rule : Symbol → Option (List Symbol)) : Nat → Symbol → Option (Nat × List Symbol)
  | 0, s => if rule s = none then some (0, [s]) else none
  | depth + 1, s =>
    match rule s with
    | none => some (0, [s])
    | some body => (exposeAll (expose rule depth) body).map fun r => (r.1 + 1, r.2)

section Depth

variable {rule : Symbol → Option (List Symbol)}

theorem expose_none {s : Symbol} (stuck : rule s = none) (depth : Nat) :
    expose rule depth s = some (0, [s]) := by
  cases depth <;> simp [expose, stuck]

theorem expose_some {s : Symbol} {body : List Symbol} (rewrites : rule s = some body)
    (depth : Nat) : expose rule (depth + 1) s =
      (exposeAll (expose rule depth) body).map fun r => (r.1 + 1, r.2) := by
  simp [expose, rewrites]

theorem exposeAll_congr {f h : Symbol → Option (Nat × List Symbol)} {symbols : List Symbol}
    {r : Nat × List Symbol} (found : exposeAll f symbols = some r)
    (agree : ∀ s ∈ symbols, ∀ x, f s = some x → h s = some x) :
    exposeAll h symbols = some r := by
  induction symbols generalizing r with
  | nil => exact found
  | cons s rest ih =>
    unfold exposeAll at found ⊢
    cases hs : f s with
    | none => simp [hs] at found
    | some x =>
      rw [agree s List.mem_cons_self x hs]
      rw [hs] at found
      obtain ⟨k, left⟩ := x
      cases left with
      | nil =>
        obtain ⟨tail, inner, rfl⟩ := Option.map_eq_some_iff.mp found
        dsimp only
        rw [ih inner fun y hy => agree y (List.mem_cons_of_mem s hy)]
        rfl
      | cons y ys => exact found

theorem expose_succ {depth : Nat} {s : Symbol} {r : Nat × List Symbol}
    (found : expose rule depth s = some r) : expose rule (depth + 1) s = some r := by
  induction depth generalizing s r with
  | zero =>
    cases hr : rule s with
    | none => simpa [expose, hr] using found
    | some body => simp [expose, hr] at found
  | succ depth ih =>
    cases hr : rule s with
    | none =>
      rw [expose_none hr] at found ⊢
      exact found
    | some body =>
      rw [expose_some hr] at found ⊢
      obtain ⟨inner, all, rfl⟩ := Option.map_eq_some_iff.mp found
      rw [exposeAll_congr all fun x _ y hy => ih hy]
      rfl

theorem expose_mono {low high : Nat} (le : low ≤ high) {s : Symbol} {r : Nat × List Symbol}
    (found : expose rule low s = some r) : expose rule high s = some r := by
  induction le with
  | refl => exact found
  | step _ ih => exact expose_succ ih

/-- If a depth is needed, there is a chain of symbols for each of which less is needed than for the
one before, so that they are all different. -/
theorem chain_of_depth {depth : Nat} {s : Symbol} {r : Nat × List Symbol}
    (found : expose rule (depth + 1) s = some r) (needed : expose rule depth s = none) :
    ∃ chain : List Symbol, chain.Nodup ∧ chain.length = depth + 1 ∧
      ∀ x ∈ chain, (∃ body, rule x = some body) ∧ ∃ y, expose rule (depth + 1) x = some y := by
  have rewrites : ∃ body, rule s = some body := by
    cases hr : rule s with
    | none => rw [expose_none hr] at needed; cases needed
    | some body => exact ⟨body, rfl⟩
  induction depth generalizing s r with
  | zero =>
    refine ⟨[s], by simp, rfl, ?_⟩
    intro x hx
    rw [List.mem_singleton.mp hx]
    exact ⟨rewrites, r, found⟩
  | succ depth ih =>
    obtain ⟨body, hb⟩ := rewrites
    rw [expose_some hb] at found needed
    obtain ⟨inner, all, rfl⟩ := Option.map_eq_some_iff.mp found
    -- if every symbol of the body needed less, so would `s`
    have deeper : ∃ x ∈ body, ∃ y, expose rule (depth + 1) x = some y ∧
        expose rule depth x = none := by
      by_contra shallow
      push Not at shallow
      have same : exposeAll (expose rule depth) body = some inner := by
        refine exposeAll_congr all ?_
        intro x hx y hy
        cases hd : expose rule depth x with
        | none => exact absurd hd (shallow x hx y hy)
        | some z => rw [← hy, expose_succ hd]
      rw [same] at needed
      cases needed
    obtain ⟨x, _, y, hy, hx⟩ := deeper
    have xrule : ∃ body, rule x = some body := by
      cases hr : rule x with
      | none => rw [expose_none hr] at hx; cases hx
      | some body => exact ⟨body, rfl⟩
    obtain ⟨chain, nodup, length, each⟩ := ih hy hx xrule
    refine ⟨s :: chain, List.nodup_cons.mpr ⟨?_, nodup⟩, by simp [length], ?_⟩
    -- what the chain holds needs less than `s` does
    · intro member
      obtain ⟨_, z, hz⟩ := each s member
      rw [expose_some hb, needed] at hz
      cases hz
    · intro z hz
      rcases List.mem_cons.mp hz with rfl | hz
      · exact ⟨⟨body, hb⟩, _, found ▸ expose_some hb (depth + 1)⟩
      · obtain ⟨zrule, w, hw⟩ := each z hz
        exact ⟨zrule, w, expose_succ hw⟩

theorem expose_rows {rows : List Symbol} (covers : ∀ s body, rule s = some body → s ∈ rows)
    {depth : Nat} {s : Symbol} {r : Nat × List Symbol} (found : expose rule depth s = some r) :
    expose rule rows.length s = some r := by
  induction depth with
  | zero => exact expose_mono (Nat.zero_le _) found
  | succ depth ih =>
    cases hd : expose rule depth s with
    | some x =>
      have same := expose_succ hd
      rw [found] at same
      exact ih (same ▸ hd)
    | none =>
      obtain ⟨chain, nodup, length, each⟩ := chain_of_depth found hd
      have subset : chain ⊆ rows := by
        intro x hx
        obtain ⟨⟨body, hb⟩, _⟩ := each x hx
        exact covers x body hb
      have bound := nodup.length_le_of_subset subset
      exact expose_mono (by omega) found

/-- The most expansions below a symbol when bodies have a given length and nest to a given depth. -/
def expansionBound (width : Nat) : Nat → Nat
  | 0 => 0
  | depth + 1 => width * expansionBound width depth + 1

/-- Each symbol of a stack costs at most `cost` expansions, and at most `extra` symbols are left for
the last one that is touched. -/
theorem exposeAll_bound {f : Symbol → Option (Nat × List Symbol)} {cost extra : Nat}
    (each : ∀ s r, f s = some r → r.1 ≤ cost ∧ r.2.length ≤ extra + 1)
    {symbols : List Symbol} {r : Nat × List Symbol} (found : exposeAll f symbols = some r) :
    r.1 ≤ symbols.length * cost ∧ r.2.length ≤ symbols.length + extra ∧
      r.1 + r.2.length * cost ≤ (symbols.length + extra + 1) * cost := by
  induction symbols generalizing r with
  | nil =>
    cases found
    simp
  | cons s rest ih =>
    unfold exposeAll at found
    cases hs : f s with
    | none => simp [hs] at found
    | some x =>
      rw [hs] at found
      obtain ⟨small, short⟩ := each s x hs
      obtain ⟨k, left⟩ := x
      cases left with
      | nil =>
        obtain ⟨tail, inner, rfl⟩ := Option.map_eq_some_iff.mp found
        obtain ⟨h1, h2, h3⟩ := ih inner
        simp only [List.length_cons, Nat.add_mul, Nat.one_mul] at *
        omega
      | cons y ys =>
        cases found
        simp only [List.length_cons, List.length_append] at *
        refine ⟨?_, by omega, ?_⟩
        · rw [Nat.add_mul]
          omega
        · have room : ys.length + rest.length + 1 ≤ rest.length + 1 + extra := by omega
          have := Nat.mul_le_mul_right cost room
          rw [Nat.add_mul (rest.length + 1 + extra), Nat.one_mul]
          omega

theorem expose_bound {width : Nat} (narrow : ∀ s body, rule s = some body → body.length ≤ width)
    {depth : Nat} {s : Symbol} {r : Nat × List Symbol} (found : expose rule depth s = some r) :
    r.1 ≤ expansionBound width depth ∧ r.2.length ≤ depth * width + 1 := by
  induction depth generalizing s r with
  | zero =>
    unfold expose at found
    split at found
    · cases found
      exact ⟨Nat.le_refl 0, by simp⟩
    · cases found
  | succ depth ih =>
    cases hr : rule s with
    | none =>
      rw [expose_none hr] at found
      cases found
      exact ⟨Nat.zero_le _, by simp⟩
    | some body =>
      rw [expose_some hr] at found
      obtain ⟨inner, all, rfl⟩ := Option.map_eq_some_iff.mp found
      obtain ⟨steps, left, _⟩ := exposeAll_bound (fun s r => ih) all
      have short := narrow s body hr
      have := Nat.mul_le_mul_right (expansionBound width depth) short
      simp only [expansionBound, Nat.succ_mul]
      omega

theorem expansionBound_lt (width depth : Nat) :
    expansionBound width depth + 1 ≤ Nat.pow (width + 2) depth := by
  induction depth with
  | zero => simp [expansionBound]
  | succ depth ih =>
    have grown := Nat.mul_le_mul_left (width + 2) ih
    simp only [expansionBound, Nat.pow_eq, Nat.pow_succ] at *
    rw [Nat.mul_comm ((width + 2) ^ depth)]
    nlinarith

theorem exposeAll_stuck {f : Symbol → Option (Nat × List Symbol)}
    (each : ∀ s k x xs, f s = some (k, x :: xs) → rule x = none) {symbols : List Symbol}
    {k : Nat} {x : Symbol} {xs : List Symbol} (found : exposeAll f symbols = some (k, x :: xs)) :
    rule x = none := by
  induction symbols generalizing k with
  | nil => cases found
  | cons s rest ih =>
    unfold exposeAll at found
    cases hs : f s with
    | none => simp [hs] at found
    | some y =>
      rw [hs] at found
      obtain ⟨j, left⟩ := y
      cases left with
      | nil =>
        obtain ⟨⟨i, tail⟩, inner, same⟩ := Option.map_eq_some_iff.mp found
        cases same
        exact ih inner
      | cons z zs =>
        cases found
        exact each s _ _ _ hs

theorem expose_stuck {depth : Nat} {s : Symbol} {k : Nat} {x : Symbol} {xs : List Symbol}
    (found : expose rule depth s = some (k, x :: xs)) : rule x = none := by
  induction depth generalizing s k x xs with
  | zero =>
    unfold expose at found
    split at found
    · rename_i stuck
      cases found
      exact stuck
    · cases found
  | succ depth ih =>
    cases hr : rule s with
    | none =>
      rw [expose_none hr] at found
      cases found
      exact hr
    | some body =>
      rw [expose_some hr] at found
      obtain ⟨⟨i, left⟩, inner, same⟩ := Option.map_eq_some_iff.mp found
      cases same
      exact exposeAll_stuck (fun s k x xs => ih) inner

end Depth

section Runs

variable {g : Grammar} {table : Table} {input : List Symbol}

/-- The bodies by which symbols are replaced under one lookahead. -/
def ruleUnder (g : Grammar) (table : Table) (ahead s : Symbol) : Option (List Symbol) :=
  if s = Symbol.endMarker then none
  else if g.isNonterminal s then (table.get? (s, ahead)).map Production.body
  else none

theorem outcome_rule {s : Symbol} {body : List Symbol}
    (rewrites : ruleUnder g table (input.headD Symbol.endMarker) s = some body) (n : Nat)
    (below : List Symbol) : outcome g table (n + 1) ⟨s :: below, input⟩ =
      outcome g table n ⟨body ++ below, input⟩ := by
  unfold ruleUnder at rewrites
  split at rewrites
  · cases rewrites
  · rename_i ne
    split at rewrites
    · rename_i declared
      obtain ⟨p, cell, rfl⟩ := Option.map_eq_some_iff.mp rewrites
      simp only [outcome, step, ne, ↓reduceIte, declared, cell]
    · cases rewrites

theorem step_of_stuck {s : Symbol} {below : List Symbol} {p : Production} {next : Config}
    (stuck : ruleUnder g table (input.headD Symbol.endMarker) s = none) :
    step g table ⟨s :: below, input⟩ ≠ .expanded p next := by
  intro expanded
  unfold step at expanded
  dsimp only at expanded
  split at expanded
  · split at expanded <;> cases expanded
  · rename_i ne
    split at expanded
    · rename_i declared
      simp only [ruleUnder, ne, ↓reduceIte, declared, Option.map_eq_none_iff] at stuck
      rw [stuck] at expanded
      cases expanded
    · split at expanded <;> cases expanded

theorem outcome_exposeAll {f : Symbol → Option (Nat × List Symbol)}
    (each : ∀ s k left, f s = some (k, left) → ∀ n below,
      outcome g table (n + k) ⟨s :: below, input⟩ = outcome g table n ⟨left ++ below, input⟩)
    {symbols : List Symbol} {k : Nat} {left : List Symbol}
    (found : exposeAll f symbols = some (k, left)) (n : Nat) (below : List Symbol) :
    outcome g table (n + k) ⟨symbols ++ below, input⟩ =
      outcome g table n ⟨left ++ below, input⟩ := by
  induction symbols generalizing k left n with
  | nil =>
    cases found
    rfl
  | cons s rest ih =>
    unfold exposeAll at found
    cases hs : f s with
    | none => simp [hs] at found
    | some y =>
      rw [hs] at found
      obtain ⟨j, kept⟩ := y
      cases kept with
      | nil =>
        obtain ⟨⟨i, tail⟩, inner, same⟩ := Option.map_eq_some_iff.mp found
        cases same
        rw [Nat.add_comm j, ← Nat.add_assoc, List.cons_append, each s j [] hs]
        exact ih inner n
      | cons z zs =>
        cases found
        rw [List.cons_append, each s k (z :: zs) hs]
        simp

theorem outcome_expose {depth : Nat} {s : Symbol} {k : Nat} {left : List Symbol}
    (found : expose (ruleUnder g table (input.headD Symbol.endMarker)) depth s = some (k, left))
    (n : Nat) (below : List Symbol) : outcome g table (n + k) ⟨s :: below, input⟩ =
      outcome g table n ⟨left ++ below, input⟩ := by
  induction depth generalizing s k left n below with
  | zero =>
    unfold expose at found
    split at found
    · cases found
      rfl
    · cases found
  | succ depth ih =>
    cases hr : ruleUnder g table (input.headD Symbol.endMarker) s with
    | none =>
      rw [expose_none hr] at found
      cases found
      rfl
    | some body =>
      rw [expose_some hr] at found
      obtain ⟨⟨i, kept⟩, inner, same⟩ := Option.map_eq_some_iff.mp found
      cases same
      rw [← Nat.add_assoc, outcome_rule hr]
      exact outcome_exposeAll (fun s k left found n below => ih found n below) inner n below

theorem outcome_mono {n : Nat} {c : Config} {o : Outcome} (h : outcome g table n c = some o)
    {m : Nat} (le : n ≤ m) : outcome g table m c = some o := by
  induction n generalizing c m with
  | zero => cases h
  | succ n ih =>
    obtain ⟨m, rfl⟩ : ∃ j, m = j + 1 := ⟨m - 1, by omega⟩
    unfold outcome at h ⊢
    cases hs : step g table c with
    | matched s next =>
      rw [hs] at h
      exact ih h (by omega)
    | expanded p next =>
      rw [hs] at h
      exact ih h (by omega)
    | accept last =>
      rw [hs] at h
      exact h
    | reject why last =>
      rw [hs] at h
      exact h

theorem outcome_unique {n m : Nat} {c : Config} {o o' : Outcome}
    (h : outcome g table n c = some o) (h' : outcome g table m c = some o') : o = o' := by
  rcases Nat.le_total n m with le | le
  · exact Option.some.inj ((outcome_mono h le).symm.trans h')
  · exact Option.some.inj (h.symm.trans (outcome_mono h' le))

theorem exposeAll_of_outcome {n : Nat} {symbols below : List Symbol} {o : Outcome}
    (h : outcome g table n ⟨symbols ++ below, input⟩ = some o) :
    ∃ depth k left, k ≤ n ∧
      exposeAll (expose (ruleUnder g table (input.headD Symbol.endMarker)) depth) symbols =
        some (k, left) := by
  induction n using Nat.strongRecOn generalizing symbols below with
  | ind n ih =>
    cases symbols with
    | nil => exact ⟨0, 0, [], Nat.zero_le n, rfl⟩
    | cons s rest =>
      cases hr : ruleUnder g table (input.headD Symbol.endMarker) s with
      | none =>
        refine ⟨0, 0, s :: rest, Nat.zero_le n, ?_⟩
        rw [exposeAll, expose_none hr]
        rfl
      | some body =>
        cases n with
        | zero => cases h
        | succ n =>
          rw [List.cons_append, outcome_rule hr] at h
          obtain ⟨depth, k, left, le, inner⟩ := ih n (by omega) h
          have top : expose (ruleUnder g table (input.headD Symbol.endMarker)) (depth + 1) s =
              some (k + 1, left) := by
            rw [expose_some hr, inner]
            rfl
          cases left with
          | cons y ys =>
            refine ⟨depth + 1, k + 1, y :: (ys ++ rest), by omega, ?_⟩
            rw [exposeAll, top]
          | nil =>
            -- the first symbol vanished, so the others are next
            have later : outcome g table (n - k) ⟨rest ++ below, input⟩ = some o := by
              have replay := outcome_exposeAll (fun s k left => outcome_expose) inner (n - k)
                (rest ++ below)
              rw [Nat.sub_add_cancel le] at replay
              rw [replay] at h
              exact h
            obtain ⟨depth', k', left, le', others⟩ := ih (n - k) (by omega) later
            refine ⟨max (depth + 1) depth', k + 1 + k', left, by omega, ?_⟩
            rw [exposeAll, expose_mono (Nat.le_max_left _ _) top]
            dsimp only
            rw [exposeAll_congr others fun x _ y hy => expose_mono (Nat.le_max_right _ _) hy]
            rfl

def height (table : Table) : Nat := (SortedSet.ofList (table.cells.map (·.1.1))).size

def width (table : Table) : Nat := (table.values.map (·.body.length)).foldl max 0

theorem ruleUnder_cell {ahead s : Symbol} {body : List Symbol}
    (rewrites : ruleUnder g table ahead s = some body) :
    ∃ p, ((s, ahead), p) ∈ table.cells ∧ p.body = body := by
  unfold ruleUnder at rewrites
  split at rewrites
  · cases rewrites
  · split at rewrites
    · obtain ⟨p, cell, same⟩ := Option.map_eq_some_iff.mp rewrites
      exact ⟨p, CellMap.mem_cells.mpr cell, same⟩
    · cases rewrites

theorem ruleUnder_row {ahead s : Symbol} {body : List Symbol}
    (rewrites : ruleUnder g table ahead s = some body) :
    s ∈ (SortedSet.ofList (table.cells.map (·.1.1))).toList := by
  obtain ⟨p, cell, _⟩ := ruleUnder_cell rewrites
  have member : s ∈ SortedSet.ofList (table.cells.map (·.1.1)) :=
    SortedSet.mem_ofList.mpr (List.mem_map.mpr ⟨_, cell, rfl⟩)
  exact member

theorem ruleUnder_width {ahead s : Symbol} {body : List Symbol}
    (rewrites : ruleUnder g table ahead s = some body) : body.length ≤ width table := by
  obtain ⟨p, cell, rfl⟩ := ruleUnder_cell rewrites
  refine foldl_max_le.2 _ (List.mem_map.mpr ⟨p, ?_, rfl⟩)
  exact List.mem_map.mpr ⟨_, cell, rfl⟩

/-- One round of an ending run: the stack is exposed within the depth of the table, and what is left
of it neither vanishes nor is expanded. -/
theorem round_of_outcome {n : Nat} {stack : List Symbol} {o : Outcome}
    (h : outcome g table n ⟨stack, input⟩ = some o) :
    ∃ k left m, (∀ j, outcome g table (j + k) ⟨stack, input⟩ =
        outcome g table j ⟨left, input⟩) ∧
      outcome g table (m + 1) ⟨left, input⟩ = some o ∧
      (∀ p next, step g table ⟨left, input⟩ ≠ .expanded p next) ∧
      k + left.length * expansionBound (width table) (height table) ≤
        (stack.length + height table * width table + 1) *
          expansionBound (width table) (height table) := by
  have padded : outcome g table n ⟨stack ++ [], input⟩ = some o := by
    rw [List.append_nil]
    exact h
  obtain ⟨depth, k, left, le, deep⟩ := exposeAll_of_outcome padded
  have found := exposeAll_congr deep fun x _ y hy =>
    expose_rows (fun s body => ruleUnder_row) hy
  have replay : ∀ j, outcome g table (j + k) ⟨stack, input⟩ =
      outcome g table j ⟨left, input⟩ := by
    intro j
    simpa using outcome_exposeAll (fun s k left => outcome_expose) found j []
  have later : outcome g table (n - k) ⟨left, input⟩ = some o := by
    rw [← replay, Nat.sub_add_cancel le]
    exact h
  obtain ⟨m, hm⟩ : ∃ m, n - k = m + 1 := by
    cases hk : n - k with
    | zero => rw [hk] at later; cases later
    | succ m => exact ⟨m, rfl⟩
  refine ⟨k, left, m, replay, hm ▸ later, ?_, ?_⟩
  · intro p next expanded
    cases left with
    | nil => simp [step] at expanded
    | cons x xs =>
      have plain : ruleUnder g table (input.headD Symbol.endMarker) x = none :=
        exposeAll_stuck (fun _ _ _ _ h => expose_stuck h) found
      exact step_of_stuck plain expanded
  · exact (exposeAll_bound (fun s r hr => expose_bound (fun s body => ruleUnder_width) hr)
      found).2.2

/-- The most steps that an ending run takes from a stack of a given length, with so much input
left. -/
def runBound (table : Table) (stack input : Nat) : Nat :=
  let cost := expansionBound (width table) (height table)
  stack * cost + (input + 1) * ((height table * width table + 1) * cost + 1)

theorem runBound_ends {stack input k left : Nat}
    (paid : k + left * expansionBound (width table) (height table) ≤
      (stack + height table * width table + 1) * expansionBound (width table) (height table)) :
    1 + k ≤ runBound table stack input := by
  have room : stack + height table * width table + 1 =
      stack + (height table * width table + 1) := by omega
  rw [room, Nat.add_mul stack] at paid
  simp only [runBound, Nat.add_mul input 1, Nat.one_mul]
  omega

theorem runBound_matches {stack input k below : Nat}
    (paid : k + (below + 1) * expansionBound (width table) (height table) ≤
      (stack + height table * width table + 1) * expansionBound (width table) (height table)) :
    runBound table below input + 1 + k ≤ runBound table stack (input + 1) := by
  have room : stack + height table * width table + 1 =
      stack + (height table * width table + 1) := by omega
  rw [room, Nat.add_mul stack, Nat.add_mul below, Nat.one_mul] at paid
  simp only [runBound, Nat.add_mul (input + 1) 1, Nat.one_mul]
  omega

theorem outcome_runBound {n : Nat} {stack input : List Symbol} {o : Outcome}
    (h : outcome g table n ⟨stack, input⟩ = some o) :
    outcome g table (runBound table stack.length input.length) ⟨stack, input⟩ = some o := by
  induction input generalizing n stack with
  | nil =>
    obtain ⟨k, left, m, replay, later, stuck, paid⟩ := round_of_outcome h
    have ends : outcome g table 1 ⟨left, []⟩ = some o := by
      unfold outcome at later ⊢
      cases hs : step g table ⟨left, []⟩ with
      | matched s next =>
        obtain ⟨below, _, ne, here, _⟩ := step_matched hs
        exact absurd here ne
      | expanded p next => exact absurd hs (stuck p next)
      | accept last => simpa [hs] using later
      | reject why last => simpa [hs] using later
    rw [← replay] at ends
    exact outcome_mono ends (runBound_ends paid)
  | cons a rest ih =>
    obtain ⟨k, left, m, replay, later, stuck, paid⟩ := round_of_outcome h
    cases hs : step g table ⟨left, a :: rest⟩ with
    | matched s next =>
      obtain ⟨below, top, _, _, rfl⟩ := step_matched hs
      rw [outcome, hs] at later
      have next := ih later
      have reached : outcome g table (runBound table below.length rest.length + 1)
          ⟨left, a :: rest⟩ = some o := by
        rw [outcome, hs]
        exact next
      rw [← replay] at reached
      change left = s :: below at top
      rw [top] at paid
      exact outcome_mono reached (runBound_matches paid)
    | expanded p next => exact absurd hs (stuck p next)
    | accept last =>
      have ends : outcome g table 1 ⟨left, a :: rest⟩ = some o := by
        rw [outcome, hs] at later ⊢
        exact later
      rw [← replay] at ends
      exact outcome_mono ends (runBound_ends paid)
    | reject why last =>
      have ends : outcome g table 1 ⟨left, a :: rest⟩ = some o := by
        rw [outcome, hs] at later ⊢
        exact later
      rw [← replay] at ends
      exact outcome_mono ends (runBound_ends paid)

theorem runBound_le_stepLimit (tokens : List Symbol) :
    runBound table 2 (tokens.length + 1) ≤ stepLimit table tokens := by
  have cost := expansionBound_lt (width table) (height table)
  change _ ≤ (tokens.length + 2) * (height table + 1) * (width table + 1) *
    Nat.pow (width table + 2) (height table + 1)
  unfold runBound
  dsimp only
  generalize expansionBound (width table) (height table) = c at *
  generalize height table = n at *
  generalize width table = w at *
  have raised : Nat.pow (w + 2) (n + 1) = Nat.pow (w + 2) n * (w + 2) := rfl
  rw [raised]
  generalize Nat.pow (w + 2) n = power at *
  have spread : (n + 1) * (w + 1) * (w + 2) =
      n * w + 2 + (n * w * w + 2 * n * w + 2 * n + w * w + 3 * w) := by ring
  have twice : 2 * c ≤ (tokens.length + 2) * (c + (n * w + 1)) :=
    Nat.mul_le_mul (by omega) (by omega)
  calc 2 * c + (tokens.length + 1 + 1) * ((n * w + 1) * c + 1)
      ≤ (tokens.length + 2) * (c + (n * w + 1)) +
          (tokens.length + 2) * ((n * w + 1) * c + 1) := Nat.add_le_add_right twice _
    _ = (tokens.length + 2) * ((n * w + 2) * (c + 1)) := by ring
    _ ≤ (tokens.length + 2) * ((n * w + 2) * power) := by gcongr
    _ ≤ (tokens.length + 2) * ((n + 1) * (w + 1) * (w + 2) * power) := by
      gcongr
      rw [spread]
      exact Nat.le_add_right _ _
    _ = (tokens.length + 2) * (n + 1) * (w + 1) * (power * (w + 2)) := by ring

/-- The limit cuts no run short: a run that ends at all ends within it. -/
theorem outcome_stepLimit {tokens : List Symbol} {n : Nat} {o : Outcome}
    (h : outcome g table n (initial g tokens) = some o) :
    outcome g table (stepLimit table tokens) (initial g tokens) = some o := by
  refine outcome_mono (outcome_runBound h) ?_
  simpa using runBound_le_stepLimit tokens

end Runs

end TableParsing.Predictive
