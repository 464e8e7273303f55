import TableParsing.Proofs.Predictive.Language

/- What a run of the predictive engine keeps, whatever sets its table was built from. What has been
   read and then the stack are a form that the start symbol derives, each step replacing the
   leftmost nonterminal, and the steps are the expansions of the run. The end marker stays at the
   bottom of the stack and at the end of the input, so neither is ever used up. -/
namespace TableParsing

namespace Grammar

/-- Derivation steps each of which replaces the leftmost nonterminal, with their productions. -/
inductive Leftmost (g : Grammar) : List Symbol → List Production → List Symbol → Prop where
  | refl (w : List Symbol) : Leftmost g w [] w
  | replace {before after w : List Symbol} {p : Production} {ps : List Production}
      (rule : p ∈ g.productions) (terminal : ∀ s ∈ before, s ∈ g.terminals)
      (rest : Leftmost g (before ++ p.body ++ after) ps w) :
      Leftmost g (before ++ p.lhs :: after) (p :: ps) w

theorem Leftmost.trans {g : Grammar} {u v w : List Symbol} {ps qs : List Production}
    (first : g.Leftmost u ps v) (later : g.Leftmost v qs w) : g.Leftmost u (ps ++ qs) w := by
  induction first with
  | refl => exact later
  | replace rule terminal _ ih => exact .replace rule terminal (ih later)

end Grammar

namespace Predictive

variable {g : Grammar} {table : Table}

/-- Where a run is that has expanded by some productions: it has read `consumed`, has `left` still
to read, and `pending` is on the stack above the end marker. -/
structure Sentential (g : Grammar) (tokens : List Symbol) (ps : List Production) (c : Config)
    (consumed left pending : List Symbol) : Prop where
  tokens : tokens = consumed ++ left
  input : c.input = left ++ [Symbol.endMarker]
  stack : c.stack = pending ++ [Symbol.endMarker]
  inner : Symbol.endMarker ∉ pending
  derived : g.Leftmost [g.start] ps (consumed ++ pending)

variable {tokens consumed left pending : List Symbol} {ps qs : List Production} {c next : Config}

theorem sentential_initial (d : g.Declared) (tokens : List Symbol) :
    Sentential g tokens [] (initial g tokens) [] tokens [g.start] where
  tokens := rfl
  input := rfl
  stack := rfl
  inner := by
    intro marked
    rw [List.mem_singleton] at marked
    exact nonterminal_ne_endMarker d d.start_mem marked.symm
  derived := .refl _

namespace Sentential

/-- A match moves one symbol from the stack to what has been read. -/
theorem matched (h : Sentential g tokens ps c consumed left pending) {s : Symbol}
    (first : step g table c = .matched s next) : ∃ more rest, left = s :: more ∧
      pending = s :: rest ∧ Sentential g tokens ps next (consumed ++ [s]) more rest := by
  -- what is matched is not the end marker, so neither the input nor the stack is down to it
  obtain ⟨below, top, plain, here, rfl⟩ := step_matched first
  rw [h.input] at here
  cases left with
  | nil => exact absurd here plain
  | cons a more =>
    obtain rfl : s = a := here
    have stack := h.stack.symm.trans top
    cases pending with
    | nil => exact absurd (List.cons.inj stack).1.symm plain
    | cons x rest =>
      obtain ⟨rfl, tail⟩ := List.cons.inj stack
      refine ⟨more, rest, rfl, rfl, ?_⟩
      constructor
      case tokens => simpa using h.tokens
      case input => simp [h.input]
      case stack => exact tail.symm
      case inner => exact fun marked => h.inner (List.mem_cons_of_mem x marked)
      case derived => simpa using h.derived

/-- An expansion is a derivation step, and nothing before it is a nonterminal. -/
theorem expanded (d : g.Declared) (owned : Owned g table)
    (terminal : ∀ s ∈ tokens, s ∈ g.terminals)
    (h : Sentential g tokens ps c consumed left pending) {p : Production}
    (first : step g table c = .expanded p next) : ∃ rest, pending = p.lhs :: rest ∧
      Sentential g tokens (ps ++ [p]) next consumed left (p.body ++ rest) := by
  obtain ⟨top, below, split, plain, _, found, rfl⟩ := step_expanded first
  obtain ⟨rule, rfl⟩ := owned _ _ _ found
  have stack := h.stack.symm.trans split
  cases pending with
  | nil => exact absurd (List.cons.inj stack).1.symm plain
  | cons x rest =>
    obtain ⟨rfl, rfl⟩ := List.cons.inj stack
    have read : ∀ s ∈ consumed, s ∈ g.terminals := by
      intro s hs
      apply terminal
      rw [h.tokens]
      exact List.mem_append_left left hs
    have replaced : g.Leftmost (consumed ++ p.lhs :: rest) [p] (consumed ++ (p.body ++ rest)) := by
      apply Grammar.Leftmost.replace rule read
      rw [List.append_assoc]
      exact .refl _
    refine ⟨rest, rfl, ?_⟩
    constructor
    case tokens => exact h.tokens
    case input => exact h.input
    case stack => simp
    case inner =>
      intro marked
      rcases List.mem_append.mp marked with body | later
      · exact d.unmarked p rule (List.mem_filter.mp body).1
      · exact h.inner (List.mem_cons_of_mem p.lhs later)
    case derived => exact h.derived.trans replaced

theorem moves (d : g.Declared) (owned : Owned g table)
    (terminal : ∀ s ∈ tokens, s ∈ g.terminals) {last : Config}
    (run : Moves g table c qs last) (h : Sentential g tokens ps c consumed left pending) :
    ∃ consumed left pending, Sentential g tokens (ps ++ qs) last consumed left pending := by
  induction run generalizing ps consumed left pending with
  | refl c => exact ⟨consumed, left, pending, by simpa using h⟩
  | matched first _ ih =>
    obtain ⟨more, rest, _, _, next⟩ := h.matched first
    exact ih next
  | @expanded _ _ _ p qs first _ ih =>
    obtain ⟨rest, _, next⟩ := h.expanded d owned terminal first
    have whole := ih next
    rwa [List.append_assoc, List.singleton_append] at whole

theorem not_exhausted (h : Sentential g tokens ps c consumed left pending) (done : Config) :
    step g table c ≠ .reject .stackExhausted done := by
  intro exhausted
  have empty := step_exhausted exhausted
  rw [h.stack] at empty
  simp at empty

/-- A run that accepts has read everything and has nothing left to derive. -/
theorem derived_of_accept (d : g.Declared) (terminal : ∀ s ∈ tokens, s ∈ g.terminals)
    (h : Sentential g tokens ps c consumed left pending) {done : Config}
    (accept : step g table c = .accept done) : g.Leftmost [g.start] ps tokens := by
  obtain ⟨below, top, finished⟩ := step_accept accept
  have empty : pending = [] := by
    cases pending with
    | nil => rfl
    | cons x rest =>
      rw [h.stack] at top
      exact absurd ((List.cons.inj top).1 ▸ List.mem_cons_self) h.inner
  have read : left = [] := by
    cases left with
    | nil => rfl
    | cons a rest =>
      rw [h.input] at finished
      have member : a ∈ tokens := by
        rw [h.tokens]
        simp
      exact absurd finished (d.ne_endMarker (terminal a member))
  have whole := h.tokens
  have derived := h.derived
  rw [read, List.append_nil] at whole
  rwa [empty, List.append_nil, ← whole] at derived

end Sentential

section Runs

variable (d : g.Declared) (owned : Owned g table)
include d owned

theorem sentential_moves (terminal : ∀ s ∈ tokens, s ∈ g.terminals)
    (moves : Moves g table (initial g tokens) ps c) :
    ∃ consumed left pending, Sentential g tokens ps c consumed left pending :=
  (sentential_initial d tokens).moves d owned terminal moves

theorem outcome_not_exhausted (terminal : ∀ s ∈ tokens, s ∈ g.terminals) (limit : Nat) :
    outcome g table limit (initial g tokens) ≠ some (.rejected .stackExhausted) := by
  intro ends
  obtain ⟨last, done, moves, ⟨accepted, _⟩ | ⟨why, rejected, step⟩⟩ := moves_of_outcome ends
  · cases accepted
  · cases rejected
    obtain ⟨_, _, _, sentential⟩ := sentential_moves d owned terminal moves
    exact sentential.not_exhausted done step

theorem leftmost_of_outcome (terminal : ∀ s ∈ tokens, s ∈ g.terminals) {limit : Nat}
    (ends : outcome g table limit (initial g tokens) = some .accepted) :
    g.Leftmost [g.start] (expansions g table limit (initial g tokens)) tokens := by
  obtain ⟨last, done, moves, accept⟩ := moves_of_accepted ends
  obtain ⟨_, _, _, sentential⟩ := sentential_moves d owned terminal moves
  exact sentential.derived_of_accept d terminal accept

theorem run_not_exhausted (tokens : List Symbol) :
    run g table tokens ≠ some (.rejected .stackExhausted) := by
  cases foreign : undeclared? g tokens with
  | none =>
    have terminal := undeclared?_eq_none.mp foreign
    rw [run_of_declared terminal]
    exact outcome_not_exhausted d owned terminal _
  | some s =>
    -- the run does not begin
    unfold run
    rw [foreign]
    rintro ⟨⟩

theorem leftmost_of_run (accepted : run g table tokens = some .accepted) :
    g.Leftmost [g.start] (expansions g table (stepLimit table tokens) (initial g tokens))
      tokens := by
  obtain ⟨terminal, ends⟩ := run_accepted_iff.mp accepted
  exact leftmost_of_outcome d owned terminal ends

end Runs

/-- With a table built from any sets, every configuration of a run on terminals is a form of a
leftmost derivation by the productions expanded so far; the stack is never used up, and a run that
accepts spells a leftmost derivation of its input. -/
theorem predictive_run_leftmost (built : g.Built) {ff : FirstFollow}
    (made : build g ff = .ok table) {tokens : List Symbol}
    (terminal : ∀ s ∈ tokens, s ∈ g.terminals) :
    (∀ ps c, Moves g table (initial g tokens) ps c →
      ∃ consumed left pending, Sentential g tokens ps c consumed left pending) ∧
    (∀ limit, outcome g table limit (initial g tokens) ≠ some (.rejected .stackExhausted) ∧
      (outcome g table limit (initial g tokens) = some .accepted →
        g.Leftmost [g.start] (expansions g table limit (initial g tokens)) tokens)) ∧
    run g table tokens ≠ some (.rejected .stackExhausted) ∧
    (run g table tokens = some .accepted → g.Leftmost [g.start]
      (expansions g table (stepLimit table tokens) (initial g tokens)) tokens) := by
  have d := Grammar.built_declared built
  have owned := owned_build made
  refine ⟨?_, ?_, run_not_exhausted d owned tokens, leftmost_of_run d owned⟩
  · intro ps c moves
    exact sentential_moves d owned terminal moves
  · intro limit
    exact ⟨outcome_not_exhausted d owned terminal limit, leftmost_of_outcome d owned terminal⟩

/-- More than what follows the start symbol of the brackets. -/
def overstated : FirstFollow :=
  ⟨∅, OrderedMap.ofList [(.nonterminal "S",
    SortedSet.ofList [.terminal "b", .terminal "c", .endMarker, .nonterminal "S"])]⟩

theorem brackets_run_leftmost :
    ∃ table, build Grammar.brackets overstated = .ok table ∧
      run Grammar.brackets table [.terminal "a", .terminal "b"] = some .accepted ∧
      Grammar.brackets.Leftmost [.nonterminal "S"]
        [⟨.nonterminal "S", [.terminal "a", .epsilon, .nonterminal "S", .terminal "b"]⟩,
          ⟨.nonterminal "S", [.epsilon]⟩] [.terminal "a", .terminal "b"] := by
  have runs : (build Grammar.brackets overstated).toOption.any (fun table =>
      run Grammar.brackets table [.terminal "a", .terminal "b"] = some .accepted ∧
      expansions Grammar.brackets table (stepLimit table [.terminal "a", .terminal "b"])
        (initial Grammar.brackets [.terminal "a", .terminal "b"]) =
        [⟨.nonterminal "S", [.terminal "a", .epsilon, .nonterminal "S", .terminal "b"]⟩,
          ⟨.nonterminal "S", [.epsilon]⟩]) = true := by
    decide +kernel
  obtain ⟨table, made, h⟩ := exists_ok_of_any runs
  obtain ⟨accepted, expanded⟩ := of_decide_eq_true h
  have terminal : ∀ s ∈ [Symbol.terminal "a", Symbol.terminal "b"],
      s ∈ Grammar.brackets.terminals := by
    decide +kernel
  have derived :=
    (predictive_run_leftmost Grammar.brackets_built made terminal).2.2.2 accepted
  rw [expanded] at derived
  exact ⟨table, made, accepted, derived⟩

end Predictive
end TableParsing
