import TableParsing.Proofs.Sets.Lookahead
import TableParsing.Proofs.ShiftReduce.Cells
import TableParsing.ShiftReduce.Run

/- Runs of the shift-reduce engine as derivations. Whatever sets of following symbols the tables
   come from, the stack is a path of the automaton whose labels are the roots of a forest over what
   has been read, and the reductions are the productions of the forest in postorder. With the
   computed sets, the run follows every parse tree of the input, up to the choice between
   alternatives of one body, or accepts on the way. -/
namespace TableParsing.ShiftReduce
open Automaton

variable {g : Grammar} {follow : SymbolSets} {t : Tables}

/-- Any number of shifts and reductions, with the productions reduced by. -/
inductive Moves (t : Tables) : Config → List Production → Config → Prop where
  | refl (c : Config) : Moves t c [] c
  | shift {c next last : Config} {target : Int} {ps : List Production}
      (first : step t c = .shift target next) (rest : Moves t next ps last) : Moves t c ps last
  | reduce {c next last : Config} {p : Production} {ps : List Production}
      (first : step t c = .reduce p next) (rest : Moves t next ps last) :
      Moves t c (p :: ps) last

theorem Moves.trans {a b c : Config} {ps qs : List Production} (ab : Moves t a ps b)
    (bc : Moves t b qs c) : Moves t a (ps ++ qs) c := by
  induction ab with
  | refl => exact bc
  | shift first _ ih => exact .shift first (ih bc)
  | reduce first _ ih => exact .reduce first (ih bc)

theorem Moves.outcome {c last : Config} {ps : List Production} (moves : Moves t c ps last) :
    ∃ k, ∀ n, ShiftReduce.outcome t (n + k) c = ShiftReduce.outcome t n last ∧
      reductions t (n + k) c = ps ++ reductions t n last := by
  induction moves with
  | refl c => exact ⟨0, fun n => ⟨rfl, rfl⟩⟩
  | shift first _ ih =>
    obtain ⟨k, same⟩ := ih
    refine ⟨k + 1, ?_⟩
    intro n
    rw [← Nat.add_assoc, ShiftReduce.outcome, reductions, first]
    exact same n
  | reduce first _ ih =>
    obtain ⟨k, same⟩ := ih
    refine ⟨k + 1, ?_⟩
    intro n
    rw [← Nat.add_assoc, ShiftReduce.outcome, reductions, first]
    exact ⟨(same n).1, congrArg (_ :: ·) (same n).2⟩

theorem moves_of_accepted {n : Nat} {c : Config}
    (h : ShiftReduce.outcome t n c = some .accepted) :
    ∃ last, Moves t c (reductions t n c) last ∧ step t last = .accept := by
  induction n generalizing c with
  | zero => cases h
  | succ n ih =>
    unfold ShiftReduce.outcome at h
    unfold reductions
    cases hs : step t c with
    | shift target next =>
      rw [hs] at h
      obtain ⟨last, moves, accept⟩ := ih h
      exact ⟨last, .shift hs moves, accept⟩
    | reduce p next =>
      rw [hs] at h
      obtain ⟨last, moves, accept⟩ := ih h
      exact ⟨last, .reduce hs moves, accept⟩
    | accept => exact ⟨c, .refl c, hs⟩
    | deadEnd | reject | fault =>
      rw [hs] at h
      cases h

section Steps

variable {n : Int} {below : List Int} {ahead : Symbol} {rest : List Symbol}

theorem step_shift {target : Int} (found : t.action.get? (n, ahead) = some (.shift target)) :
    step t ⟨n :: below, ahead :: rest⟩ = .shift target ⟨target :: n :: below, rest⟩ := by
  simp only [step, Config.state, List.headD_cons, found]

theorem step_reduce {p : Production} (found : t.action.get? (n, ahead) = some (.reduce p))
    {exposed target : Int} {left : List Int}
    (popped : (n :: below).drop p.body.length = exposed :: left)
    (entered : t.goto.get? (exposed, p.lhs) = some target) :
    step t ⟨n :: below, ahead :: rest⟩ = .reduce p ⟨target :: exposed :: left, ahead :: rest⟩ := by
  simp only [step, Config.state, List.headD_cons, found, reduceBy, popped, entered]

theorem step_accept (found : t.action.get? (n, ahead) = some .accept) :
    step t ⟨n :: below, ahead :: rest⟩ = .accept := by
  simp only [step, Config.state, List.headD_cons, found]

theorem step_reject (none : t.action.get? (n, ahead) = none) :
    step t ⟨n :: below, ahead :: rest⟩ = .reject (.noAction n ahead) := by
  simp only [step, Config.state, List.headD_cons, none]

theorem step_reduce_iff {c next : Config} {p : Production} :
    step t c = .reduce p next ↔ ∃ ahead rest exposed left target, c.input = ahead :: rest ∧
      t.action.get? (c.state, ahead) = some (.reduce p) ∧
      c.stack.drop p.body.length = exposed :: left ∧
      t.goto.get? (exposed, p.lhs) = some target ∧
      next = ⟨target :: exposed :: left, c.input⟩ := by
  obtain ⟨stack, input⟩ := c
  cases input with
  | nil => simp [step]
  | cons ahead rest =>
    constructor
    · intro h
      unfold step at h
      dsimp only at h
      split at h
      · cases h
      · cases h
      · rename_i q found
        unfold reduceBy at h
        dsimp only at h
        split at h
        · cases h
        · rename_i exposed left popped
          split at h
          · cases h
          · rename_i target entered
            cases h
            exact ⟨ahead, rest, exposed, left, target, rfl, found, popped, entered, rfl⟩
      · cases h
      · cases h
    · rintro ⟨_, _, exposed, left, target, same, found, popped, entered, rfl⟩
      obtain ⟨rfl, rfl⟩ := List.cons.inj same
      dsimp only at popped
      simp only [step, found, reduceBy, popped, entered]

theorem step_shift_inv {c next : Config} {target : Int} (h : step t c = .shift target next) :
    ∃ ahead rest, c.input = ahead :: rest ∧ next = ⟨target :: c.stack, rest⟩ := by
  obtain ⟨stack, input⟩ := c
  cases input with
  | nil => cases h
  | cons ahead rest =>
    refine ⟨ahead, rest, rfl, ?_⟩
    unfold step at h
    dsimp only at h
    split at h
    · cases h
    · cases h
      rfl
    · unfold reduceBy at h
      split at h
      · cases h
      · split at h <;> cases h
    · cases h
    · cases h

theorem step_accept_inv {c : Config} (h : step t c = .accept) :
    ∃ ahead rest, c.input = ahead :: rest ∧ t.action.get? (c.state, ahead) = some .accept := by
  obtain ⟨stack, input⟩ := c
  cases input with
  | nil => cases h
  | cons ahead rest =>
    refine ⟨ahead, rest, rfl, ?_⟩
    unfold step at h
    dsimp only at h
    split at h
    · cases h
    · cases h
    · unfold reduceBy at h
      split at h
      · cases h
      · split at h <;> cases h
    · cases h
    · rename_i found
      exact found

theorem step_accept_congr (h : step t ⟨n :: below, ahead :: rest⟩ = .accept)
    (behind : List Symbol) : step t ⟨n :: below, ahead :: behind⟩ = .accept := by
  obtain ⟨_, _, same, found⟩ := step_accept_inv h
  obtain ⟨rfl, _⟩ := List.cons.inj same
  exact step_accept found

end Steps

section Table

variable (d : g.Declared) (built : build g follow = .ok t) {stack : List Int}
  {read : List Symbol}
include d built

theorem exists_entered {p : Production} (rule : p ∈ g.productions)
    (path : Path (automaton g) stack (read ++ p.body)) (item : Valid g read p.lhs [] p.body) :
    ∃ (target exposed : Int) (left : List Int), stack.drop p.body.length = exposed :: left ∧
      t.goto.get? (exposed, p.lhs) = some target ∧
      Path (automaton g) (target :: exposed :: left) (read ++ [p.lhs]) := by
  have ne := Augmented.start_name_free (Or.inl (d.lhs_mem rule))
  have popped := path.drop
  obtain ⟨exposed, left, same⟩ := popped.cons
  rw [same] at popped
  obtain ⟨outer, before, after, caller⟩ := item.caller ne
  obtain ⟨k, move, longer⟩ := exists_transition d (finished_automaton g) popped caller
  exact ⟨k, exposed, left, same, (get?_goto d built).mpr ⟨d.lhs_mem rule, k, move, rfl⟩, longer⟩

theorem exists_step_shift {lhs s : Symbol} {done todo : List Symbol}
    (path : Path (automaton g) stack read) (item : Valid g read lhs done (s :: todo))
    (terminal : s ∈ g.terminals) (rest : List Symbol) :
    ∃ target : Int, step t ⟨stack, s :: rest⟩ = .shift target ⟨target :: stack, rest⟩ ∧
      Path (automaton g) (target :: stack) (read ++ [s]) := by
  obtain ⟨n, below, rfl⟩ := path.cons
  obtain ⟨target, found, longer⟩ := exists_shift d built path item terminal
  exact ⟨target, step_shift found, longer⟩

/-- A body on top of the stack is reduced under a symbol that may follow, or the run accepts. -/
theorem exists_step_reduce {p : Production} (rule : p ∈ g.productions)
    (path : Path (automaton g) stack (read ++ p.body)) (item : Valid g read p.lhs [] p.body)
    {ahead : Symbol} (after : ahead ∈ follow.getD p.lhs ∅) (rest : List Symbol) :
    step t ⟨stack, ahead :: rest⟩ = .accept ∨ ∃ q entered, q.lhs = p.lhs ∧ q.body = p.body ∧
      step t ⟨stack, ahead :: rest⟩ = .reduce q ⟨entered, ahead :: rest⟩ ∧
      Path (automaton g) entered (read ++ [p.lhs]) := by
  obtain ⟨target, exposed, left, popped, entered, longer⟩ := exists_entered d built rule path item
  obtain ⟨n, below, rfl⟩ := path.cons
  rcases exists_reduce d built path item.completed rule after with accepts | ⟨q, own, body, found⟩
  · exact Or.inl (step_accept accepts)
  · rw [← own] at entered
    rw [← body] at popped
    exact Or.inr ⟨q, _, own, body, step_reduce found popped entered, longer⟩

/-- A reduction in the table finds its body on top of the stack, and a state to enter. -/
theorem reduce_inv {n : Int} {below : List Int} {ahead : Symbol} {p : Production}
    (path : Path (automaton g) (n :: below) read)
    (found : t.action.get? (n, ahead) = some (.reduce p)) :
    ∃ before, p ∈ g.productions ∧ read = before ++ p.body ∧ ahead ∈ follow.getD p.lhs ∅ ∧
      ∃ (target exposed : Int) (left : List Int),
        (n :: below).drop p.body.length = exposed :: left ∧
        t.goto.get? (exposed, p.lhs) = some target ∧
        Path (automaton g) (target :: exposed :: left) (before ++ [p.lhs]) := by
  cases claimed_of_action d built path found with
  | reduce item ne first after =>
    obtain ⟨rule, rfl, rfl⟩ := productionOf_eq_ok d first
    obtain ⟨before, rfl, opened⟩ := item.split
    rw [List.append_nil] at opened
    exact ⟨before, rule, rfl, after, exists_entered d built rule path opened⟩

theorem path_step_reduce {c next : Config} {p : Production}
    (path : Path (automaton g) c.stack read) (h : step t c = .reduce p next) :
    ∃ before, p ∈ g.productions ∧ read = before ++ p.body ∧
      (∃ ahead rest, c.input = ahead :: rest ∧ ahead ∈ follow.getD p.lhs ∅) ∧
      next.input = c.input ∧ Path (automaton g) next.stack (before ++ [p.lhs]) := by
  obtain ⟨ahead, rest, exposed, left, target, input, found, popped, entered, rfl⟩ :=
    step_reduce_iff.mp h
  obtain ⟨n, below, top⟩ := path.cons
  have state : c.state = n := by
    unfold Config.state
    rw [top]
    rfl
  rw [state] at found
  rw [top] at path popped
  obtain ⟨before, rule, split, after, target', exposed', left', popped', entered', longer⟩ :=
    reduce_inv d built path found
  obtain ⟨rfl, rfl⟩ := List.cons.inj (popped.symm.trans popped')
  obtain rfl := Option.some.inj (entered.symm.trans entered')
  exact ⟨before, rule, split, ⟨ahead, rest, input, after⟩, rfl, longer⟩

/-- The run accepts at the end marker only, with the start symbol alone on the stack. -/
theorem accept_inv {ahead : Symbol} {rest : List Symbol} (path : Path (automaton g) stack read)
    (h : step t ⟨stack, ahead :: rest⟩ = .accept) :
    ahead = Symbol.endMarker ∧ read = [g.start] := by
  obtain ⟨n, below, rfl⟩ := path.cons
  obtain ⟨_, _, same, found⟩ := step_accept_inv h
  obtain ⟨rfl, rfl⟩ := List.cons.inj same
  cases claimed_of_action d built path found with
  | accept item => exact ⟨rfl, item.start_read d⟩

end Table

/-- The stack spells a forest, which yields what has been read of the input. -/
structure Spells (g : Grammar) (tokens : List Symbol) (c : Config) (f : Forest) : Prop where
  conforms : f.Conforms g
  path : Path (automaton g) c.stack f.roots
  read : f.yield ++ c.input = tokens ++ [Symbol.endMarker]

theorem spells_initial (tokens : List Symbol) : Spells g tokens (initial tokens) .nil :=
  ⟨trivial, .base, rfl⟩

section Soundness

variable (d : g.Declared) (built : build g follow = .ok t) {tokens : List Symbol} {f : Forest}
include d built

theorem spells_step_shift {n target : Int} {below : List Int} {ahead : Symbol}
    {rest : List Symbol} (h : Spells g tokens ⟨n :: below, ahead :: rest⟩ f)
    (found : t.action.get? (n, ahead) = some (.shift target)) :
    Spells g tokens ⟨target :: n :: below, rest⟩ (f ++ .leaf ahead .nil) := by
  cases claimed_of_action d built h.path found with
  | shift item terminal move =>
    refine ⟨?_, ?_, ?_⟩
    · rw [Forest.conforms_append]
      exact ⟨h.conforms, terminal, trivial⟩
    · rw [Forest.roots_append]
      exact .step h.path move
    · rw [Forest.yield_append, ← h.read, List.append_assoc]
      rfl

theorem spells_step_reduce {n : Int} {below : List Int} {ahead : Symbol} {rest : List Symbol}
    {p : Production} (h : Spells g tokens ⟨n :: below, ahead :: rest⟩ f)
    (found : t.action.get? (n, ahead) = some (.reduce p)) :
    ∃ a b next, f = a ++ b ∧ step t ⟨n :: below, ahead :: rest⟩ = .reduce p next ∧
      Spells g tokens next (a ++ .node p b .nil) := by
  obtain ⟨before, rule, whole, _, target, exposed, left, popped, entered, longer⟩ :=
    reduce_inv d built h.path found
  obtain ⟨a, b, rfl, ha, hb⟩ := Forest.append_of_roots whole
  refine ⟨a, b, _, rfl, step_reduce found popped entered, ?_, ?_, ?_⟩
  · have both := h.conforms
    rw [Forest.conforms_append] at both ⊢
    exact ⟨both.1, rule, hb, both.2, trivial⟩
  · rw [Forest.roots_append, ha]
    exact longer
  · have read := h.read
    rw [Forest.yield_append] at read ⊢
    simpa only [Forest.yield, List.append_nil] using read

theorem parses_of_accept (terminal : ∀ s ∈ tokens, s ∈ g.terminals) {stack : List Int}
    {ahead : Symbol} {rest : List Symbol} (h : Spells g tokens ⟨stack, ahead :: rest⟩ f)
    (accept : step t ⟨stack, ahead :: rest⟩ = .accept) : f.Parses g tokens := by
  obtain ⟨rfl, roots⟩ := accept_inv d built h.path accept
  refine ⟨roots, h.conforms, ?_⟩
  -- the end marker stands at the end of the input only
  have read : f.yield ++ Symbol.endMarker :: rest = tokens ++ [Symbol.endMarker] := h.read
  have unmarked : Symbol.endMarker ∉ tokens := by
    intro marked
    exact d.endMarker_not_terminal (terminal _ marked)
  obtain ⟨whole, _⟩ :=
    (List.append_cons_inj_of_notMem unmarked List.not_mem_nil).mp read.symm
  exact whole.symm

/-- Everything that a step can do. -/
theorem step_spelled {c : Config} (h : Spells g tokens c f) :
    (∃ s target next, step t c = .shift target next ∧
      Spells g tokens next (f ++ .leaf s .nil)) ∨
    (∃ p a b next, step t c = .reduce p next ∧ f = a ++ b ∧
      Spells g tokens next (a ++ .node p b .nil)) ∨
    (step t c = .accept ∧ ((∀ s ∈ tokens, s ∈ g.terminals) → f.Parses g tokens)) ∨
    ∃ state s, step t c = .reject (.noAction state s) := by
  obtain ⟨stack, input⟩ := c
  obtain ⟨n, below, rfl⟩ : ∃ n below, stack = n :: below := h.path.cons
  cases input with
  | nil =>
    have marked : Symbol.endMarker ∈ f.yield := by
      have read : f.yield ++ [] = tokens ++ [Symbol.endMarker] := h.read
      rw [List.append_nil] at read
      rw [read]
      exact List.mem_append_right _ List.mem_cons_self
    exact absurd (Forest.yield_terminals h.conforms _ marked) d.endMarker_not_terminal
  | cons ahead rest =>
    cases found : t.action.get? (n, ahead) with
    | none => exact Or.inr (Or.inr (Or.inr ⟨n, ahead, step_reject found⟩))
    | some act =>
      cases act with
      | shift target =>
        exact Or.inl ⟨ahead, target, _, step_shift found, spells_step_shift d built h found⟩
      | reduce p =>
        obtain ⟨a, b, next, split, stepped, spells⟩ := spells_step_reduce d built h found
        exact Or.inr (Or.inl ⟨p, a, b, next, stepped, split, spells⟩)
      | reduceUnknown => cases claimed_of_action d built h.path found
      | accept =>
        refine Or.inr (Or.inr (Or.inl ⟨step_accept found, ?_⟩))
        intro terminal
        exact parses_of_accept d built terminal h (step_accept found)

/-- A run keeps the spelling, and its reductions are the new productions in postorder. -/
theorem spells_moves {c last : Config} {ps : List Production} (moves : Moves t c ps last)
    (h : Spells g tokens c f) :
    ∃ e, Spells g tokens last e ∧ e.postorder = f.postorder ++ ps := by
  induction moves generalizing f with
  | refl => exact ⟨f, h, (List.append_nil _).symm⟩
  | shift first _ ih =>
    rcases step_spelled d built h with ⟨s, target, next, same, spells⟩ | ⟨p, a, b, next, same, _⟩ |
      ⟨same, _⟩ | ⟨state, s, same⟩
    all_goals cases first.symm.trans same
    obtain ⟨e, last, post⟩ := ih spells
    refine ⟨e, last, ?_⟩
    rw [post, Forest.postorder_append]
    simp [Forest.postorder]
  | reduce first _ ih =>
    rcases step_spelled d built h with ⟨s, target, next, same, _⟩ |
      ⟨p, a, b, next, same, rfl, spells⟩ | ⟨same, _⟩ | ⟨state, s, same⟩
    all_goals cases first.symm.trans same
    obtain ⟨e, last, post⟩ := ih spells
    refine ⟨e, last, ?_⟩
    rw [post, Forest.postorder_append, Forest.postorder_append]
    simp [Forest.postorder]

/-- A run that accepts spells a parse tree of the input. -/
theorem parses_of_accepted (terminal : ∀ s ∈ tokens, s ∈ g.terminals) {n : Nat}
    (h : outcome t n (initial tokens) = some .accepted) :
    ∃ f : Forest, f.Parses g tokens ∧ f.postorder = reductions t n (initial tokens) := by
  obtain ⟨last, moves, accept⟩ := moves_of_accepted h
  obtain ⟨f, spells, post⟩ := spells_moves d built moves (spells_initial tokens)
  rcases step_spelled d built spells with ⟨s, target, next, same, _⟩ | ⟨p, a, b, next, same, _⟩ |
    ⟨_, parses⟩ | ⟨state, s, same⟩
  · cases accept.symm.trans same
  · cases accept.symm.trans same
  · exact ⟨f, parses terminal, post⟩
  · cases accept.symm.trans same

theorem outcome_not_faulted {c : Config} (h : Spells g tokens c f) (n : Nat) (why : Fault) :
    outcome t n c ≠ some (.faulted why) := by
  induction n generalizing c f with
  | zero => simp [outcome]
  | succ n ih =>
    rcases step_spelled d built h with ⟨s, target, next, same, spells⟩ |
      ⟨p, a, b, next, same, _, spells⟩ | ⟨same, _⟩ | ⟨state, s, same⟩
    all_goals rw [outcome, same]
    · exact ih spells
    · exact ih spells
    · simp
    · simp

end Soundness

def Accepts (t : Tables) (c : Config) : Prop :=
  ∃ ps last, Moves t c ps last ∧ step t last = .accept

theorem Accepts.of_moves {c next : Config} {ps : List Production} (h : Accepts t next)
    (moves : Moves t c ps next) : Accepts t c := by
  obtain ⟨qs, last, more, accept⟩ := h
  exact ⟨ps ++ qs, last, moves.trans more, accept⟩

theorem Accepts.outcome {c : Config} (h : Accepts t c) :
    ∃ n, ShiftReduce.outcome t n c = some .accepted := by
  obtain ⟨ps, last, moves, accept⟩ := h
  obtain ⟨k, same⟩ := moves.outcome
  refine ⟨1 + k, (same 1).1.trans ?_⟩
  rw [ShiftReduce.outcome, accept]

section Completeness

variable (d : g.Declared) (built : build g (FirstFollow.ofGrammar g).follow = .ok t)
include d built

/-- A forest that some valid item expects is read and reduced to its roots, or the run accepts. -/
theorem moves_forest {f : Forest} (conforms : f.Conforms g) {rest : List Symbol}
    (fits : f.Fits (FirstFollow.ofGrammar g).follow rest) {stack : List Int}
    {read done todo : List Symbol} {lhs : Symbol} (path : Path (automaton g) stack read)
    (item : Valid g read lhs done (f.roots ++ todo)) :
    Accepts t ⟨stack, f.yield ++ rest⟩ ∨ ∃ ps last,
      Moves t ⟨stack, f.yield ++ rest⟩ ps ⟨last, rest⟩ ∧
      Path (automaton g) last (read ++ f.roots) := by
  induction f generalizing rest stack read lhs done todo with
  | nil =>
    refine Or.inr ⟨[], stack, .refl _, ?_⟩
    rw [Forest.roots, List.append_nil]
    exact path
  | leaf s others ih =>
    obtain ⟨target, shifts, longer⟩ :=
      exists_step_shift d built path item conforms.1 (others.yield ++ rest)
    rcases ih conforms.2 fits longer (.advance item) with accepts | ⟨ps, last, moves, reached⟩
    · exact Or.inl (accepts.of_moves (.shift shifts (.refl _)))
    · refine Or.inr ⟨ps, last, .shift shifts moves, ?_⟩
      simpa only [Forest.roots, List.append_assoc, List.singleton_append] using reached
  | node p children others ihc iho =>
    obtain ⟨rule, body, hc, ho⟩ := conforms
    obtain ⟨after, fitsOthers⟩ := fits
    have inner : Valid g read p.lhs [] (children.roots ++ []) := by
      rw [List.append_nil, body]
      exact .predict item rule
    have whole : p.body = [] ++ children.roots := body.symm
    have fitsChildren := fits_body d rule whole hc after
    rw [Forest.yield, List.append_assoc]
    -- first the children, then the reduction, then the trees to the right
    rcases ihc hc fitsChildren path inner with accepts | ⟨ps, middle, moves, reached⟩
    · exact Or.inl accepts
    · obtain ⟨a, tail, same, ha⟩ := after
      rw [body] at reached
      rw [same] at moves ⊢
      rcases exists_step_reduce d built rule reached (.predict item rule) ha tail with
        accepts | ⟨q, entered, _, _, reduces, longer⟩
      · exact Or.inl ⟨ps, _, moves, accepts⟩
      · have sofar := moves.trans (.reduce reduces (.refl _))
        rw [← same] at sofar ⊢
        rcases iho ho fitsOthers longer (.advance item) with accepts | ⟨qs, last, more, end'⟩
        · exact Or.inl (accepts.of_moves sofar)
        · refine Or.inr ⟨_, last, sofar.trans more, ?_⟩
          simpa only [Forest.roots, List.append_assoc, List.singleton_append] using end'

theorem accepts_of_parses {tokens : List Symbol} {f : Forest} (parses : f.Parses g tokens) :
    Accepts t (initial tokens) := by
  obtain ⟨roots, conforms, rfl⟩ := parses
  have item : Valid g [] (Augmented.ofGrammar g).start [] (f.roots ++ []) := by
    rw [roots]
    exact .start
  rcases moves_forest d built conforms (fits_start roots []) .base item with
    accepts | ⟨ps, last, moves, reached⟩
  · exact accepts
  · obtain ⟨n, below, rfl⟩ := reached.cons
    rw [roots] at reached
    exact ⟨ps, _, moves, step_accept (exists_accept d built reached (.advance .start))⟩

end Completeness

end TableParsing.ShiftReduce
