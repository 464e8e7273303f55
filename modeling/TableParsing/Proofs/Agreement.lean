import TableParsing.Proofs.Predictive.Language
import TableParsing.Proofs.ShiftReduce.Language

/- The two engines agree. Each accepts exactly the inputs that have a parse tree, and the table of
   the predictive engine leaves room for one tree only. So the tree whose productions the predictive
   run expands from the root down is the one that the shift-reduce run builds from the leaves up. -/
namespace TableParsing

variable {g : Grammar} {table : Predictive.Table} {t : ShiftReduce.Tables}

/-- What both runs do is the only parse tree of the input, once in preorder and once in
postorder. -/
theorem engines_agree (built : g.Built)
    (predictive : Predictive.build g (FirstFollow.ofGrammar g) = .ok table)
    (shiftReduce : ShiftReduce.build g (FirstFollow.ofGrammar g).follow = .ok t)
    (tokens : List Symbol) :
    (Predictive.run g table tokens = some .accepted ↔
      ShiftReduce.run g t tokens = some .accepted) ∧
    (ShiftReduce.run g t tokens = some .accepted → ∃ f : Forest, f.Parses g tokens ∧
      (∀ other : Forest, other.Parses g tokens → other = f) ∧
      Predictive.expansions g table (Predictive.stepLimit table tokens)
        (Predictive.initial g tokens) = f.preorder ∧
      ShiftReduce.reductions t (ShiftReduce.stepLimit t tokens)
        (ShiftReduce.initial tokens) = f.postorder) := by
  have d := Grammar.built_declared built
  constructor
  · rw [Predictive.run_accepted_iff_parses d predictive,
      ShiftReduce.run_accepted_iff_parses d shiftReduce]
  · intro accepted
    obtain ⟨terminal, ends⟩ := ShiftReduce.run_accepted_iff.mp accepted
    obtain ⟨f, parses, reduced⟩ := ShiftReduce.parses_of_accepted d shiftReduce terminal ends
    obtain ⟨_, expanded⟩ := Predictive.accepted_of_parses d predictive parses
    refine ⟨f, parses, ?_, expanded, reduced.symm⟩
    intro other otherParses
    exact Predictive.parses_unique d predictive otherParses parses

theorem brackets_engines_agree :
    ∃ table t, Predictive.build Grammar.brackets (FirstFollow.ofGrammar Grammar.brackets) =
        .ok table ∧
      ShiftReduce.build Grammar.brackets (FirstFollow.ofGrammar Grammar.brackets).follow = .ok t ∧
      Predictive.run Grammar.brackets table [.terminal "a", .terminal "b"] = some .accepted ∧
      ∃ f : Forest, f.Parses Grammar.brackets [.terminal "a", .terminal "b"] ∧
        ∀ other : Forest, other.Parses Grammar.brackets [.terminal "a", .terminal "b"] →
          other = f := by
  have filled : (Predictive.build Grammar.brackets
      (FirstFollow.ofGrammar Grammar.brackets)).toOption.any (fun _ => true) = true := by
    decide +kernel
  have runs : (ShiftReduce.build Grammar.brackets
      (FirstFollow.ofGrammar Grammar.brackets).follow).toOption.any (fun t =>
        ShiftReduce.run Grammar.brackets t [.terminal "a", .terminal "b"] = some .accepted) =
          true := by
    decide +kernel
  obtain ⟨table, predictive, _⟩ := exists_ok_of_any filled
  obtain ⟨t, shiftReduce, h⟩ := exists_ok_of_any runs
  obtain ⟨same, trees⟩ := engines_agree Grammar.brackets_built predictive shiftReduce
    [.terminal "a", .terminal "b"]
  have accepted := of_decide_eq_true h
  obtain ⟨f, parses, only, _⟩ := trees accepted
  exact ⟨table, t, predictive, shiftReduce, same.mpr accepted, f, parses, only⟩

end TableParsing
