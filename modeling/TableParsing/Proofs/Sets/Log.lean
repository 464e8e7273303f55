import Mathlib.Data.List.Count
import TableParsing.Proofs.Sets.Exactness

/- What the passes log. An addition logs exactly the symbols that are new to the set, so a pass logs
   what it adds, each symbol once, and the whole log holds every member of every set once. The
   passes come to their end by themselves: the limit on their number is never what stops them. -/
namespace TableParsing

variable {g : Grammar}

def passPairs (pass : PassLog) : List (Symbol × Symbol) :=
  pass.entries.flatMap fun e => e.2.map (e.1, ·)

def loggedPairs (log : List PassLog) : List (Symbol × Symbol) := log.flatMap passPairs

/-- The sets after one symbol after the other has been put into the set of its nonterminal. -/
def replay (sets : SymbolSets) (pairs : List (Symbol × Symbol)) : SymbolSets :=
  pairs.foldl (fun sets pair => sets.update pair.1 ∅ (·.insert pair.2)) sets

/-- A log of passes, none of them empty, that holds each member of each set once and nothing else.
Replayed from empty sets it adds a new symbol at each place and ends at the sets. -/
structure Partitions (g : Grammar) (log : List PassLog) (sets : SymbolSets) : Prop where
  filled : ∀ pass ∈ log, pass.entries ≠ [] ∧ ∀ e ∈ pass.entries, e.2 ≠ []
  once : ∀ s x, (loggedPairs log).count (s, x) = if x ∈ sets.getD s ∅ then 1 else 0
  fresh : ∀ before s x after, loggedPairs log = before ++ (s, x) :: after →
    x ∉ (replay (emptySets g) before).getD s ∅
  rebuilt : replay (emptySets g) (loggedPairs log) = sets

theorem count_pairs {es : List (Symbol × List Symbol)} (keys : (es.map Prod.fst).Nodup)
    (s x : Symbol) : (es.flatMap fun e => e.2.map (e.1, ·)).count (s, x) =
      ((findEntry s es).getD []).count x := by
  induction es with
  | nil => rfl
  | cons e rest ih =>
    obtain ⟨absent, keys⟩ := List.nodup_cons.mp keys
    rw [List.flatMap_cons, List.count_append, ih keys, findEntry]
    by_cases same : e.1 = s
    · subst same
      have own : (e.2.map (e.1, ·)).count (e.1, x) = e.2.count x :=
        List.count_map_of_injective e.2 (e.1, ·) (Prod.mk_right_injective e.1) x
      rw [if_pos rfl, own, findEntry_of_absent absent]
      rfl
    · have apart : (s, x) ∉ e.2.map (e.1, ·) := by simp [same]
      rw [if_neg same, List.count_eq_zero_of_not_mem apart, Nat.zero_add]

theorem count_passPairs (pass : PassLog) (s x : Symbol) :
    (passPairs pass).count (s, x) = (pass.getD s []).count x :=
  count_pairs pass.nodup s x

theorem mem_replay {sets : SymbolSets} {pairs : List (Symbol × Symbol)} {s x : Symbol} :
    x ∈ (replay sets pairs).getD s ∅ ↔ x ∈ sets.getD s ∅ ∨ (s, x) ∈ pairs := by
  induction pairs generalizing sets with
  | nil => simp [replay]
  | cons pair rest ih =>
    have step : x ∈ (sets.update pair.1 ∅ (·.insert pair.2)).getD s ∅ ↔
        x ∈ sets.getD s ∅ ∨ (s, x) = pair := by
      rw [OrderedMap.update, OrderedMap.getD_put, Prod.ext_iff]
      by_cases same : pair.1 = s
      · subst same
        simp [or_comm]
      · simp [same, Ne.symm same]
    rw [replay, List.foldl_cons, ← replay, ih, step, List.mem_cons, or_assoc]

theorem replay_covers {sets : SymbolSets} (covers : Covers g sets)
    {pairs : List (Symbol × Symbol)} (declared : ∀ pair ∈ pairs, pair.1 ∈ g.nonterminals) :
    Covers g (replay sets pairs) := by
  induction pairs generalizing sets with
  | nil => exact covers
  | cons pair rest ih =>
    obtain ⟨member, declared⟩ := List.forall_mem_cons.mp declared
    exact ih (covers_put covers member _) declared

/-- What is left to show of a log: that a pass is not empty and logs each member once. -/
theorem partitions_of_count {log : List PassLog} {sets : SymbolSets} (covers : Covers g sets)
    (filled : ∀ pass ∈ log, pass.entries ≠ [] ∧ ∀ e ∈ pass.entries, e.2 ≠ [])
    (once : ∀ s x, (loggedPairs log).count (s, x) = if x ∈ sets.getD s ∅ then 1 else 0) :
    Partitions g log sets := by
  have logged : ∀ s x, (s, x) ∈ loggedPairs log ↔ x ∈ sets.getD s ∅ := by
    intro s x
    rw [← List.count_pos_iff, once s x]
    split <;> simp_all
  refine ⟨filled, once, ?_, ?_⟩
  · intro before s x after split there
    have both := once s x
    rw [split, List.count_append, List.count_cons_self] at both
    have earlier : (s, x) ∈ before := by simpa [getD_emptySets] using mem_replay.mp there
    have positive := List.count_pos_iff.mpr earlier
    split at both <;> omega
  · have declared : ∀ pair ∈ loggedPairs log, pair.1 ∈ g.nonterminals := by
      rintro ⟨s, x⟩ here
      have key : s ∈ sets.keys := by
        by_contra absent
        have member := (logged s x).mp here
        rw [OrderedMap.getD_eq_default absent] at member
        exact SortedSet.not_mem_empty member
      rwa [covers] at key
    refine (replay_covers covers_emptySets declared).eq_of_mem covers ?_
    intro s x
    rw [mem_replay, getD_emptySets, logged]
    simp

namespace Growth

/-- An addition logs a symbol if it is new to the set. -/
theorem count_add (state : Growth) (target : Symbol) (more : SymbolSet) (s x : Symbol) :
    ((state.add target more).log.getD s []).count x = (state.log.getD s []).count x +
      if s = target ∧ x ∈ more ∧ x ∉ state.sets.getD s ∅ then 1 else 0 := by
  have once : ∀ fresh : SymbolSet, fresh.toList.count x = if x ∈ fresh then 1 else 0 := by
    intro fresh
    split
    · exact List.count_eq_one_of_mem fresh.nodup ‹_›
    · exact List.count_eq_zero_of_not_mem ‹_›
  unfold add
  dsimp only
  split
  · rename_i empty
    have none := SortedSet.isEmpty_iff.mp empty x
    rw [SortedSet.mem_diff] at none
    have quiet : ¬ (s = target ∧ x ∈ more ∧ x ∉ state.sets.getD s ∅) := by
      rintro ⟨rfl, new⟩
      exact none new
    rw [if_neg quiet, Nat.add_zero]
  · rw [OrderedMap.update, OrderedMap.getD_put]
    by_cases same : target = s
    · subst same
      rw [if_pos rfl, List.count_append, once]
      simp
    · simp [same, Ne.symm same]

variable {allowed : SymbolSets → Symbol → SymbolSet → Prop}

/-- A chain of additions logs what it adds to the sets, each symbol once. -/
theorem Extends.count {state later : Growth} (chain : Extends allowed state later) (s x : Symbol) :
    (later.log.getD s []).count x = (state.log.getD s []).count x +
      if x ∈ later.sets.getD s ∅ ∧ x ∉ state.sets.getD s ∅ then 1 else 0 := by
  induction chain with
  | refl => simp
  | @add later target more chain _ ih =>
    have kept := chain.subset (s := s) (x := x)
    simp only [count_add, ih, mem_getD_add]
    by_cases old : x ∈ state.sets.getD s ∅
    · simp [old, kept old]
    · by_cases there : x ∈ later.sets.getD s ∅ <;> simp [old, there]

theorem Extends.count_pass {sets : SymbolSets} {after : Growth}
    (chain : Extends allowed ⟨sets, ∅⟩ after) (s x : Symbol) : (passPairs after.log).count (s, x) =
      if x ∈ after.sets.getD s ∅ ∧ x ∉ sets.getD s ∅ then 1 else 0 := by
  rw [count_passPairs, chain.count]
  exact Nat.zero_add _

theorem Extends.filled {state later : Growth} (chain : Extends allowed state later)
    (before : ∀ e ∈ state.log.entries, e.2 ≠ []) : ∀ e ∈ later.log.entries, e.2 ≠ [] := by
  induction chain with
  | refl => exact before
  | add _ _ ih =>
    unfold Growth.add
    dsimp only
    split
    · exact ih
    · rename_i some
      intro e entry
      rcases (OrderedMap.mem_entries_put e).mp entry with rfl | ⟨old, _⟩
      · intro none
        exact some (List.isEmpty_iff.mpr (List.append_eq_nil_iff.mp none).2)
      · exact ih e old

section Loop

variable {pass : SymbolSets → Growth} (chains : ∀ sets, Extends allowed ⟨sets, ∅⟩ (pass sets))
  {sets final : SymbolSets} {log : List PassLog} (loop : Repeats pass sets final log)
include chains loop

theorem Repeats.subset {s x : Symbol} (old : x ∈ sets.getD s ∅) : x ∈ final.getD s ∅ := by
  induction loop with
  | quiet last => exact (chains _).subset old
  | grows more rest ih => exact ih ((chains _).subset old)

theorem Repeats.filled : ∀ p ∈ log, p.entries ≠ [] ∧ ∀ e ∈ p.entries, e.2 ≠ [] := by
  induction loop with
  | quiet last => exact fun p none => absurd none List.not_mem_nil
  | @grows sets final log more rest ih =>
    refine List.forall_mem_cons.mpr ⟨⟨?_, ?_⟩, ih⟩
    · intro none
      rw [OrderedMap.isEmpty, none] at more
      cases more
    · exact (chains sets).filled fun e none => absurd none List.not_mem_nil

/-- A loop logs what it adds to the sets, each symbol once. -/
theorem Repeats.count (s x : Symbol) : (loggedPairs log).count (s, x) =
    if x ∈ final.getD s ∅ ∧ x ∉ sets.getD s ∅ then 1 else 0 := by
  induction loop with
  | @quiet sets last =>
    rw [← (chains sets).count_pass, passPairs, List.isEmpty_iff.mp last]
    rfl
  | @grows sets final log more rest ih =>
    have earlier := (chains sets).subset (s := s) (x := x)
    have later := rest.subset chains (s := s) (x := x)
    rw [loggedPairs, List.flatMap_cons, ← loggedPairs, List.count_append, ih,
      (chains sets).count_pass]
    by_cases old : x ∈ sets.getD s ∅
    · simp [old, earlier old]
    · by_cases new : x ∈ (pass sets).sets.getD s ∅ <;> simp [old, new, later]

end Loop

end Growth

section Logs

variable (d : g.Declared)
include d

theorem firstSets_partitions : Partitions g (firstSetsLogged g).2 (firstSets g) := by
  have loop := firstSets_repeats d
  refine partitions_of_count (firstSets_covers d) (loop.filled firstPass_extends) ?_
  intro s x
  rw [loop.count firstPass_extends, getD_emptySets]
  simp

theorem followSets_partitions : Partitions g (followSetsLogged g (firstSets g)).2
    (followSets g (firstSets g)) := by
  obtain ⟨log, whole, loop⟩ := followSets_repeats d (firstSets_within d)
  have chain := followPass_extends (g := g) (firstSets g)
  rw [whole]
  refine partitions_of_count (followSets_covers d _) ?_ ?_
  · have entries : (OrderedMap.ofList [(g.start, [Symbol.endMarker])]).entries =
        [(g.start, [Symbol.endMarker])] := rfl
    refine List.forall_mem_cons.mpr ⟨?_, loop.filled chain⟩
    simp [entries]
  · intro s x
    -- the end marker after the start symbol is logged before the loop, the rest by it
    have pairs : loggedPairs (OrderedMap.ofList [(g.start, [Symbol.endMarker])] :: log) =
        (g.start, Symbol.endMarker) :: loggedPairs log := rfl
    have first : x ∈ (initialFollow g).getD s ∅ ↔ (g.start, Symbol.endMarker) = (s, x) := by
      rw [initialFollow, OrderedMap.getD_put, getD_emptySets, Prod.mk.injEq]
      split <;> simp_all [eq_comm]
    have kept := loop.subset chain (s := s) (x := x)
    rw [pairs, List.count_cons, loop.count chain]
    by_cases marker : (g.start, Symbol.endMarker) = (s, x)
    · have there := first.mpr marker
      simp [marker, there, kept there]
    · have absent := mt first.mp marker
      simp [marker, absent]

end Logs

/-- The working logs of the two computations. Both loops come to an end, and their logs hold what
they return, each member of each set once. -/
theorem logs_partition (built : g.Built) :
    Growth.Repeats (firstPass g) (emptySets g) (firstSetsLogged g).1 (firstSetsLogged g).2 ∧
      Partitions g (firstSetsLogged g).2 (firstSetsLogged g).1 ∧
      (∃ log, (followSetsLogged g (firstSetsLogged g).1).2 =
          OrderedMap.ofList [(g.start, [Symbol.endMarker])] :: log ∧
        Growth.Repeats (followPass g (firstSetsLogged g).1) (initialFollow g)
          (followSetsLogged g (firstSetsLogged g).1).1 log) ∧
      Partitions g (followSetsLogged g (firstSetsLogged g).1).2
        (followSetsLogged g (firstSetsLogged g).1).1 := by
  have d := Grammar.built_declared built
  exact ⟨firstSets_repeats d, firstSets_partitions d,
    followSets_repeats d (firstSets_within d), followSets_partitions d⟩

/-- `S` gets its last letter in a third pass, from itself, and `A` what comes after it from several
alternatives in one pass. -/
theorem chained_logs : chained.Built ∧
    (firstSetsLogged chained).2.map OrderedMap.entries =
      [[(.nonterminal "A", [.terminal "a", .epsilon]),
        (.nonterminal "B", [.terminal "a", .epsilon])],
       [(.nonterminal "S", [.terminal "a", .epsilon])],
       [(.nonterminal "S", [.terminal "d"])]] ∧
    (followSetsLogged chained (firstSets chained)).2.map OrderedMap.entries =
      [[(.nonterminal "S", [.endMarker])],
       [(.nonterminal "S", [.terminal "d"]),
        (.nonterminal "A", [.terminal "a", .terminal "d", .endMarker]),
        (.nonterminal "B", [.terminal "d", .endMarker]),
        (.nonterminal "U", [.terminal "d", .endMarker, .terminal "e"])]] ∧
    replay (emptySets chained) (loggedPairs (firstSetsLogged chained).2) = firstSets chained ∧
    (loggedPairs (followSetsLogged chained (firstSets chained)).2).count
      (.nonterminal "A", .terminal "d") = 1 := by
  obtain ⟨_, first, _, follow⟩ := logs_partition chained_built
  refine ⟨chained_built, by decide +kernel, by decide +kernel, first.rebuilt, ?_⟩
  have once := follow.once (.nonterminal "A") (.terminal "d")
  have member : Symbol.terminal "d" ∈
      (followSets chained (firstSets chained)).getD (.nonterminal "A") ∅ := by decide +kernel
  exact once.trans (if_pos member)

end TableParsing
