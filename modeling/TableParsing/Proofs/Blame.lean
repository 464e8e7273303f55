import TableParsing.Parser
import TableParsing.Proofs.Predictive.Language
import TableParsing.Proofs.ShiftReduce.Language

/- Where a run stops that rejects. A step looks at the stack and at the next symbol of the input, so
   what a run has done when it stops depends on nothing behind that symbol, and it rejects every
   input that begins in the same way. Sentences are accepted, so none begins like that: the run has
   read all that could be the beginning of a sentence. -/
namespace TableParsing

variable {g : Grammar} {tokens input : List Symbol} {steps : List Snapshot}
  {rejects rejects' : List Symbol → Prop}

/-- A run has stopped before a symbol, with which and whatever behind it its input is rejected. -/
def Stuck (rejects : List Symbol → Prop) (steps : List Snapshot) (input : List Symbol) : Prop :=
  ∃ read ahead rest final, input = read ++ ahead :: rest ∧ steps.getLast? = some final ∧
    final.remaining = (ahead :: rest).map Symbol.name ∧ ∀ other, rejects (read ++ ahead :: other)

namespace Stuck

variable {ahead : Symbol} {rest : List Symbol}

theorem here {final : Snapshot} (last : steps.getLast? = some final)
    (remaining : final.remaining = (ahead :: rest).map Symbol.name)
    (stops : ∀ other, rejects (ahead :: other)) : Stuck rejects steps (ahead :: rest) :=
  ⟨[], ahead, rest, final, rfl, last, remaining, stops⟩

/-- The step before has read the first symbol. -/
theorem read (later : Stuck rejects' steps rest) (first : Snapshot)
    (back : ∀ input, rejects' input → rejects (ahead :: input)) :
    Stuck rejects (first :: steps) (ahead :: rest) := by
  obtain ⟨read, found, left, final, rfl, last, remaining, stops⟩ := later
  refine ⟨ahead :: read, found, left, final, rfl, by simp [List.getLast?_cons, last], remaining, ?_⟩
  intro other
  exact back _ (stops other)

/-- The step before has looked at the first symbol only. -/
theorem stay (later : Stuck rejects' steps (ahead :: rest)) (first : Snapshot)
    (back : ∀ other, rejects' (ahead :: other) → rejects (ahead :: other)) :
    Stuck rejects (first :: steps) (ahead :: rest) := by
  obtain ⟨read, found, left, final, split, last, remaining, stops⟩ := later
  refine ⟨read, found, left, final, split, by simp [List.getLast?_cons, last], remaining, ?_⟩
  intro other
  cases read with
  | nil =>
    obtain ⟨rfl, _⟩ := List.cons.inj split
    exact back other (stops other)
  | cons x read =>
    obtain ⟨rfl, _⟩ := List.cons.inj split
    exact back _ (stops other)

end Stuck

/-- A number of symbols after which an input may be rejected: with the next symbol no sentence
begins, or all is read and no sentence; what can begin a sentence is read. -/
structure Blameless (g : Grammar) (tokens : List Symbol) (i : Nat) : Prop where
  within : i ≤ tokens.length
  ahead : i < tokens.length → ∀ w, g.Sentence w → ¬ tokens.take (i + 1) <+: w
  whole : i = tokens.length → ¬ g.Sentence tokens
  read : ∀ u w, u <+: tokens → g.Sentence w → u <+: w → u.length ≤ i

theorem blameless_of_ahead {i : Nat} (within : i ≤ tokens.length)
    (ahead : i < tokens.length → ∀ w, g.Sentence w → ¬ tokens.take (i + 1) <+: w)
    (whole : i = tokens.length → ¬ g.Sentence tokens) : Blameless g tokens i := by
  refine ⟨within, ahead, whole, ?_⟩
  intro u w begins sentence goes
  by_contra longer
  have short := begins.length_le
  have shorter : tokens.take (i + 1) <+: u := by
    rw [List.prefix_iff_eq_take.mp begins]
    exact List.take_prefix_take_left (by omega)
  exact ahead (by omega) w sentence (shorter.trans goes)

/-- Where sentences are not rejected, a run that is stuck is not so before a good symbol. -/
theorem blameless_of_stuck (stuck : Stuck rejects steps (tokens ++ [Symbol.endMarker]))
    (fair : ∀ w, g.Sentence w → ¬ rejects (w ++ [Symbol.endMarker])) :
    ∃ final i, steps.getLast? = some final ∧
      final.remaining = (tokens.drop i ++ [Symbol.endMarker]).map Symbol.name ∧
      Blameless g tokens i := by
  obtain ⟨read, ahead, rest, final, split, last, remaining, stops⟩ := stuck
  refine ⟨final, read.length, last, ?_⟩
  -- the run is stuck before a symbol of the input, or before the end marker
  rcases exists_cut split with ⟨between, rfl, rfl⟩ | ⟨between, bottom, rfl⟩
  · refine ⟨by simp [remaining], blameless_of_ahead (by simp) ?_ (by simp)⟩
    have begun : (read ++ ahead :: between).take (read.length + 1) = read ++ [ahead] := by
      simp [List.take_append, List.take_of_length_le]
    rw [begun]
    rintro _ w sentence ⟨more, rfl⟩
    apply fair _ sentence
    simpa using stops (more ++ [Symbol.endMarker])
  · cases between with
    | cons x between => simp at bottom
    | nil =>
      obtain ⟨rfl, rfl⟩ := List.cons.inj bottom
      refine ⟨by simp [remaining], blameless_of_ahead (by simp) (by simp) ?_⟩
      intro _ sentence
      have stopped := stops []
      rw [List.append_nil] at stopped
      exact fair tokens sentence stopped

namespace Predictive

variable {table : Table}

/-- What a step does under a symbol, whatever is behind it. -/
inductive Under (g : Grammar) (table : Table) (stack : List Symbol) (ahead : Symbol) : Prop where
  | matched (shown : ahead ≠ Symbol.endMarker) (below : List Symbol) (act : ∀ rest,
      step g table ⟨stack, ahead :: rest⟩ = .matched ahead ⟨below, rest⟩)
  | expanded (p : Production) (above : List Symbol) (act : ∀ rest,
      step g table ⟨stack, ahead :: rest⟩ = .expanded p ⟨above, ahead :: rest⟩)
  | accept (below : List Symbol) (act : ∀ rest,
      step g table ⟨stack, ahead :: rest⟩ = .accept ⟨below, ahead :: rest⟩)
  | reject (why : Rejection) (below : List Symbol) (act : ∀ rest,
      step g table ⟨stack, ahead :: rest⟩ = .reject why ⟨below, ahead :: rest⟩)

theorem step_under (stack : List Symbol) (ahead : Symbol) : Under g table stack ahead := by
  cases stack with
  | nil => exact .reject .stackExhausted [] fun _ => rfl
  | cons top below =>
    by_cases bottom : top = Symbol.endMarker
    · by_cases marked : ahead = Symbol.endMarker
      · exact .accept below fun _ => by simp [step, bottom, marked]
      · exact .reject (.unexpected ahead) below fun _ => by simp [step, bottom, marked]
    · cases declared : g.isNonterminal top with
      | true =>
        cases found : table.get? (top, ahead) with
        | none =>
          exact .reject (.noRule top ahead) below fun _ => by simp [step, bottom, declared, found]
        | some p =>
          exact .expanded p (p.body ++ below) fun _ => by simp [step, bottom, declared, found]
      | false =>
        by_cases same : top = ahead
        · subst same
          exact .matched bottom below fun _ => by simp [step, bottom, declared]
        · exact .reject (.mismatch top ahead) below fun _ => by
            simp [step, bottom, declared, same]

theorem stuck_of_rejected {n : Nat} {stack : List Symbol} {why : Rejection}
    (marked : [Symbol.endMarker] <:+ input)
    (ends : outcome g table n ⟨stack, input⟩ = some (.rejected why)) :
    Stuck (fun input => ∃ why, outcome g table n ⟨stack, input⟩ = some (.rejected why))
      (snapshots g table n ⟨stack, input⟩) input := by
  induction n generalizing stack input with
  | zero => cases ends
  | succ n ih =>
    cases input with
    | nil => simp at marked
    | cons ahead rest =>
      unfold outcome at ends
      simp only [outcome, snapshots]
      cases @step_under g table stack ahead with
      | matched shown below act =>
        rw [act] at ends ⊢
        -- the end marker is never matched, so there is a symbol to look at in the next step too
        have marked : [Symbol.endMarker] <:+ rest := by
          rcases List.suffix_cons_iff.mp marked with same | later
          · exact absurd (List.cons.inj same).1.symm shown
          · exact later
        apply (ih marked ends).read
        rintro other ⟨why, rejected⟩
        exact ⟨why, by rw [act]; exact rejected⟩
      | expanded p above act =>
        rw [act] at ends ⊢
        apply (ih marked ends).stay
        rintro other ⟨why, rejected⟩
        exact ⟨why, by rw [act]; exact rejected⟩
      | accept below act =>
        rw [act] at ends
        cases ends
      | reject why' below act =>
        rw [act]
        exact .here rfl rfl fun other => ⟨why', by rw [act]⟩

theorem sentence_not_rejected (d : g.Declared)
    (made : build g (FirstFollow.ofGrammar g) = .ok table) {w : List Symbol}
    (sentence : g.Sentence w) {n : Nat} {why : Rejection} :
    outcome g table n (initial g w) ≠ some (.rejected why) := by
  intro rejected
  have accepted := (run_accepted_iff_parses d made).mpr (Grammar.sentence_iff_parses.mp sentence)
  cases outcome_unique rejected (run_accepted_iff.mp accepted).2

theorem blameless_of_rejected (d : g.Declared)
    (made : build g (FirstFollow.ofGrammar g) = .ok table)
    (terminal : ∀ s ∈ tokens, s ∈ g.terminals) {why : Rejection}
    (ends : run g table tokens = some (.rejected why)) :
    ∃ final i, (trace g table tokens).getLast? = some final ∧
      final.remaining = (tokens.drop i ++ [Symbol.endMarker]).map Symbol.name ∧
      Blameless g tokens i := by
  have marked : [Symbol.endMarker] <:+ tokens ++ [Symbol.endMarker] := List.suffix_append _ _
  have stuck := stuck_of_rejected marked ((run_of_declared terminal).symm.trans ends)
  obtain ⟨final, i, last, remaining, blameless⟩ := blameless_of_stuck stuck (by
    rintro w sentence ⟨why, rejected⟩
    exact sentence_not_rejected d made sentence rejected)
  refine ⟨final, i, ?_, remaining, blameless⟩
  have whole : trace g table tokens = (initial g tokens).snapshot "init" ::
      snapshots g table (stepLimit table tokens) (initial g tokens) := by
    simp only [trace, undeclared?_eq_none.mpr terminal]
  have last' : (snapshots g table (stepLimit table tokens) (initial g tokens)).getLast? =
      some final := last
  rw [whole, List.getLast?_cons, last']
  rfl

end Predictive

namespace ShiftReduce

variable {t : Tables}

/-- What a step does under a symbol, whatever is behind it. -/
inductive Under (t : Tables) (stack : List Int) (ahead : Symbol) : Prop where
  | shift (target : Int) (above : List Int) (act : ∀ rest,
      step t ⟨stack, ahead :: rest⟩ = .shift target ⟨above, rest⟩)
  | reduce (p : Production) (above : List Int) (act : ∀ rest,
      step t ⟨stack, ahead :: rest⟩ = .reduce p ⟨above, ahead :: rest⟩)
  | deadEnd (p : Production) (below : List Int) (why : Rejection) (act : ∀ rest,
      step t ⟨stack, ahead :: rest⟩ = .deadEnd p ⟨below, ahead :: rest⟩ why)
  | accept (act : ∀ rest, step t ⟨stack, ahead :: rest⟩ = .accept)
  | reject (why : Rejection) (act : ∀ rest, step t ⟨stack, ahead :: rest⟩ = .reject why)
  | fault (why : Fault) (act : ∀ rest, step t ⟨stack, ahead :: rest⟩ = .fault why)

theorem step_under (stack : List Int) (ahead : Symbol) : Under t stack ahead := by
  cases act : t.action.get? (stack.headD 0, ahead) with
  | none =>
    exact .reject (.noAction (stack.headD 0) ahead) fun _ => by simp only [step, Config.state, act]
  | some entry =>
    cases entry with
    | shift target =>
      exact .shift target (target :: stack) fun _ => by simp only [step, Config.state, act]
    | accept => exact .accept fun _ => by simp only [step, Config.state, act]
    | reduceUnknown =>
      exact .fault (.productionUnknown (stack.headD 0)) fun _ => by
        simp only [step, Config.state, act]
    | reduce p =>
      cases popped : stack.drop p.body.length with
      | nil =>
        exact .fault (.stackUnderflow p) fun _ => by
          simp only [step, Config.state, act, reduceBy, popped]
      | cons exposed below =>
        cases found : t.goto.get? (exposed, p.lhs) with
        | none =>
          exact .deadEnd p (exposed :: below) (.noGoto exposed p.lhs) fun _ => by
            simp only [step, Config.state, act, reduceBy, popped, found]
        | some target =>
          exact .reduce p (target :: exposed :: below) fun _ => by
            simp only [step, Config.state, act, reduceBy, popped, found]

theorem stuck_of_rejected {n : Nat} {stack : List Int} {why : Rejection}
    (ends : outcome t n ⟨stack, input⟩ = some (.rejected why)) :
    Stuck (fun input => ∃ why, outcome t n ⟨stack, input⟩ = some (.rejected why))
      (snapshots t n ⟨stack, input⟩) input := by
  induction n generalizing stack input with
  | zero => cases ends
  | succ n ih =>
    cases input with
    | nil => cases ends
    | cons ahead rest =>
      unfold outcome at ends
      simp only [outcome, snapshots]
      cases @step_under t stack ahead with
      | shift target above act =>
        rw [act] at ends ⊢
        apply (ih ends).read
        rintro other ⟨why, rejected⟩
        exact ⟨why, by rw [act]; exact rejected⟩
      | reduce p above act =>
        rw [act] at ends ⊢
        apply (ih ends).stay
        rintro other ⟨why, rejected⟩
        exact ⟨why, by rw [act]; exact rejected⟩
      | deadEnd p below why' act =>
        rw [act]
        exact .here rfl rfl fun other => ⟨why', by rw [act]⟩
      | reject why' act =>
        rw [act]
        exact .here rfl rfl fun other => ⟨why', by rw [act]⟩
      | accept act =>
        rw [act] at ends
        cases ends
      | fault why' act =>
        rw [act] at ends
        cases ends

theorem sentence_not_rejected (d : g.Declared)
    (made : build g (FirstFollow.ofGrammar g).follow = .ok t) {w : List Symbol}
    (sentence : g.Sentence w) {n : Nat} {why : Rejection} :
    outcome t n (initial w) ≠ some (.rejected why) := by
  intro rejected
  have accepted := (run_accepted_iff_parses d made).mpr (Grammar.sentence_iff_parses.mp sentence)
  cases outcome_unique rejected (run_accepted_iff.mp accepted).2

theorem blameless_of_rejected (d : g.Declared)
    (made : build g (FirstFollow.ofGrammar g).follow = .ok t)
    (terminal : ∀ s ∈ tokens, s ∈ g.terminals) {why : Rejection}
    (ends : run g t tokens = some (.rejected why)) :
    ∃ final i, (trace g t tokens).getLast? = some final ∧
      final.remaining = (tokens.drop i ++ [Symbol.endMarker]).map Symbol.name ∧
      Blameless g tokens i := by
  have stuck := stuck_of_rejected ((run_of_declared terminal).symm.trans ends)
  obtain ⟨final, i, last, remaining, blameless⟩ := blameless_of_stuck stuck (by
    rintro w sentence ⟨why, rejected⟩
    exact sentence_not_rejected d made sentence rejected)
  refine ⟨final, i, ?_, remaining, blameless⟩
  unfold trace
  rw [undeclared?_eq_none.mpr terminal]
  exact last

end ShiftReduce

/-- A parser with the tables for the computed sets of its grammar. -/
inductive Parser.Provided (g : Grammar) : Parser → Prop where
  | predictive {table : Predictive.Table}
      (made : Predictive.build g (FirstFollow.ofGrammar g) = .ok table) :
      Provided g (.predictive g table)
  | shiftReduce {t : ShiftReduce.Tables}
      (made : ShiftReduce.build g (FirstFollow.ofGrammar g).follow = .ok t) :
      Provided g (.shiftReduce g t)

/-- A parser that rejects terminals has not stopped before it must: the input that is left in its
last step begins with the first symbol with which no sentence begins, or is the end marker. -/
theorem rejection_blameless (built : g.Built) {p : Parser} (provided : p.Provided g)
    {tokens : List Symbol} (terminal : ∀ s ∈ tokens, s ∈ g.terminals) {r : ParseResult}
    (ran : p.result true tokens = .ok r) (rejected : r.accepted = false) :
    ∃ final i, r.steps.getLast? = some final ∧
      final.remaining = (tokens.drop i ++ [Symbol.endMarker]).map Symbol.name ∧
      Blameless g tokens i := by
  have d := Grammar.built_declared built
  cases provided with
  | @predictive table made =>
    unfold Parser.result at ran
    dsimp only at ran
    cases ends : Predictive.run g table tokens with
    | none =>
      rw [ends] at ran
      cases ran
    | some o =>
      rw [ends] at ran
      cases ran
      cases o with
      | accepted => cases rejected
      | rejected why => exact Predictive.blameless_of_rejected d made terminal ends
  | @shiftReduce t made =>
    unfold Parser.result at ran
    dsimp only at ran
    cases ends : ShiftReduce.run g t tokens with
    | none =>
      rw [ends] at ran
      cases ran
    | some o =>
      rw [ends] at ran
      cases o with
      | accepted =>
        cases ran
        cases rejected
      | rejected why =>
        cases ran
        exact ShiftReduce.blameless_of_rejected d made terminal ends
      | faulted why => cases ran

/-- The predictive engine stops before the second closing bracket, of which one is too many. -/
theorem brackets_blameless :
    let tokens : List Symbol := [.terminal "a", .terminal "b", .terminal "b"]
    ∃ table r final,
      Predictive.build Grammar.brackets (FirstFollow.ofGrammar Grammar.brackets) = .ok table ∧
      (Parser.predictive Grammar.brackets table).result true tokens = .ok r ∧
      r.accepted = false ∧ r.steps.getLast? = some final ∧ final.remaining = ["b", "$"] ∧
      Blameless Grammar.brackets tokens 2 := by
  intro tokens
  have terminal : ∀ s ∈ tokens, s ∈ Grammar.brackets.terminals := by decide +kernel
  have stops : (Predictive.build Grammar.brackets
      (FirstFollow.ofGrammar Grammar.brackets)).toOption.any (fun table =>
        ((Parser.predictive Grammar.brackets table).result true tokens).toOption.any (fun r =>
          r.accepted = false ∧
            r.steps.getLast?.map Snapshot.remaining = some ["b", "$"])) = true := by
    decide +kernel
  obtain ⟨table, made, h⟩ := exists_ok_of_any stops
  obtain ⟨r, ran, h⟩ := exists_ok_of_any h
  obtain ⟨rejected, shown⟩ := of_decide_eq_true h
  obtain ⟨final, i, last, remaining, blameless⟩ :=
    rejection_blameless Grammar.brackets_built (.predictive made) terminal ran rejected
  rw [last, Option.map_some, Option.some.injEq] at shown
  have two := congrArg List.length (remaining.symm.trans shown)
  have within : i ≤ 3 := blameless.within
  obtain rfl : i = 2 := by
    simp [tokens] at two
    omega
  exact ⟨table, r, final, made, ran, rejected, last, shown, blameless⟩

end TableParsing
