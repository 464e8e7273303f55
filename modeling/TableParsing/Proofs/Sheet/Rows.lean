import TableParsing.Console.Dialogue
import TableParsing.Proofs.Predictive.Conflicts
import TableParsing.Proofs.Sheet.Layout
import TableParsing.Proofs.ShiftReduce.Tables
import TableParsing.Service.Routes

/- The sheets of the tables. Their rows and columns are the declared symbols and the states,
   whatever the tables hold. So nothing is lost only because every key of a table is declared: the
   lookaheads come from FIRST and FOLLOW sets and from bodies, and those hold nothing but terminals
   and the end marker. -/
namespace TableParsing.Sheet

open Std

/-- A text that has something to see. -/
def Visible (text : String) : Prop := ∃ c ∈ text.toList, Text.isBlank c = false

/-- The cell at a crossing of rows and columns. -/
def cellAt (rows : Rows) (i j : Nat) : Option String := rows[i]?.bind (·[j]?)

/-- The frame of a sheet: what stands in its corner, its rows and columns with their names, and how
an entry is shown. -/
structure Frame (ρ κ ν : Type) where
  corner : String
  keys : List ρ
  columns : List κ
  keyName : ρ → String
  columnName : κ → String
  shown : ν → String

section Grid

variable {ρ κ ν : Type} [Ord ρ] [Ord κ] [TransOrd ρ] [TransOrd κ]

/-- Rows that show all of a table: below a heading one row for each key, with one cell for each
column, and a cell shows the entry of its place or is empty. No entry is at another place. -/
structure Displays (f : Frame ρ κ ν) (table : CellMap ρ κ ν) (rows : Rows) : Prop where
  keys_nodup : f.keys.Nodup
  columns_nodup : f.columns.Nodup
  height : rows.length = f.keys.length + 1
  width : ∀ row ∈ rows, row.length = f.columns.length + 1
  heading : rows[0]? = some (f.corner :: f.columns.map f.columnName)
  label : ∀ i k, f.keys[i]? = some k → cellAt rows (i + 1) 0 = some (f.keyName k)
  cell : ∀ i j k c, f.keys[i]? = some k → f.columns[j]? = some c →
    ∃ text, cellAt rows (i + 1) (j + 1) = some text ∧
      (text ≠ "" ↔ ∃ v, table.get? (k, c) = some v) ∧
      ∀ v, table.get? (k, c) = some v → text = f.shown v ∧ Visible text
  complete : ∀ k c v, table.get? (k, c) = some v → k ∈ f.keys ∧ c ∈ f.columns

section Cells

variable {f : Frame ρ κ ν} {table : CellMap ρ κ ν} {rows : Rows} (h : Displays f table rows)
  {i j : Nat} {k : ρ} {c : κ} (row : f.keys[i]? = some k) (column : f.columns[j]? = some c)
include h row column

theorem cellAt_of_entry {v : ν} (entry : table.get? (k, c) = some v) :
    cellAt rows (i + 1) (j + 1) = some (f.shown v) := by
  obtain ⟨text, place, _, shown⟩ := h.cell i j k c row column
  rw [place, (shown v entry).1]

theorem cellAt_of_no_entry (entry : table.get? (k, c) = none) :
    cellAt rows (i + 1) (j + 1) = some "" := by
  obtain ⟨text, place, filled, _⟩ := h.cell i j k c row column
  have blank : text = "" := by simpa [entry] using filled
  rw [place, blank]

end Cells

def entryText (f : Frame ρ κ ν) (table : CellMap ρ κ ν) (k : ρ) (c : κ) : String :=
  match table.get? (k, c) with
  | some v => f.shown v
  | none => ""

def grid (f : Frame ρ κ ν) (table : CellMap ρ κ ν) : Rows :=
  (f.corner :: f.columns.map f.columnName) ::
    f.keys.map fun k => f.keyName k :: f.columns.map (entryText f table k)

theorem displays_grid {f : Frame ρ κ ν} {table : CellMap ρ κ ν} (keys : f.keys.Nodup)
    (columns : f.columns.Nodup)
    (visible : ∀ k c v, table.get? (k, c) = some v → Visible (f.shown v))
    (complete : ∀ k c v, table.get? (k, c) = some v → k ∈ f.keys ∧ c ∈ f.columns) :
    Displays f table (grid f table) where
  keys_nodup := keys
  columns_nodup := columns
  height := by simp [grid]
  width := by
    intro row member
    rcases List.mem_cons.mp member with rfl | member
    · simp
    · obtain ⟨k, _, rfl⟩ := List.mem_map.mp member
      simp
  heading := rfl
  label := by
    intro i k row
    simp [cellAt, grid, row]
  cell := by
    intro i j k c row column
    refine ⟨entryText f table k c, by simp [cellAt, grid, row, column], ?_⟩
    unfold entryText
    cases found : table.get? (k, c) with
    | none => simp
    | some v =>
      have seen := visible k c v found
      refine ⟨⟨fun _ => ⟨v, rfl⟩, ?_⟩, ?_⟩
      · rintro _ empty
        obtain ⟨x, member, _⟩ := seen
        dsimp only at empty
        rw [empty] at member
        simp at member
      · rintro _ ⟨⟩
        exact ⟨rfl, seen⟩
  complete := complete

theorem rows_eq_grid {α : Type} {f : Frame ρ κ ν} {table : CellMap ρ κ ν} {xs : List α}
    {name : α → String} {cell : α → κ → String} (key : α → ρ) (keys : f.keys = xs.map key)
    (names : ∀ x, name x = f.keyName (key x))
    (cells : ∀ x c, cell x c = entryText f table (key x) c) :
    ((f.corner :: f.columns.map f.columnName) ::
      xs.map fun x => name x :: f.columns.map (cell x)) = grid f table := by
  rw [grid, keys, List.map_map, funext names, funext₂ cells]
  rfl

end Grid

def predictiveFrame (g : Grammar) : Frame Symbol Symbol Production :=
  { corner := "NonTerminal", keys := g.nonterminals.toList, columns := lookaheads g
    keyName := Symbol.name, columnName := Symbol.name, shown := fun p => spellEpsilon p.text }

/-- The numbers of the states of some tables, as the tables have them for keys. -/
def stateKeys (t : ShiftReduce.Tables) : List Int := (stateNumbers t).map fun (n : Nat) => n

def actionFrame (g : Grammar) (t : ShiftReduce.Tables) :
    Frame Int Symbol ShiftReduce.Action :=
  { corner := "State", keys := stateKeys t, columns := lookaheads g
    keyName := toString, columnName := Symbol.name, shown := fun a => spellEpsilon a.text }

def gotoFrame (g : Grammar) (t : ShiftReduce.Tables) : Frame Int Symbol Int :=
  { corner := "State", keys := stateKeys t, columns := g.nonterminals.toList
    keyName := toString, columnName := Symbol.name, shown := toString }

theorem predictiveRows_eq_grid (g : Grammar) (table : Predictive.Table) :
    predictiveRows g table = grid (predictiveFrame g) table := by
  refine rows_eq_grid (f := predictiveFrame g) (fun s => s) (List.map_id' _).symm (fun _ => rfl)
    fun s t => ?_
  unfold entryText
  cases table.get? (s, t) <;> rfl

theorem actionRows_eq_grid (g : Grammar) (t : ShiftReduce.Tables) :
    actionRows g t = grid (actionFrame g t) t.action := by
  refine rows_eq_grid (f := actionFrame g t) (fun n : Nat => (n : Int)) rfl (fun _ => rfl)
    fun n s => ?_
  unfold entryText
  cases t.action.get? ((n : Int), s) <;> rfl

theorem gotoRows_eq_grid (g : Grammar) (t : ShiftReduce.Tables) :
    gotoRows g t = grid (gotoFrame g t) t.goto := by
  refine rows_eq_grid (f := gotoFrame g t) (fun n : Nat => (n : Int)) rfl (fun _ => rfl)
    fun n s => ?_
  unfold entryText
  cases t.goto.get? ((n : Int), s) <;> rfl

theorem visible_spellEpsilon {text : String} {c : Char} (member : c ∈ text.toList)
    (other : c ≠ 'ε') (seen : Text.isBlank c = false) : Visible (spellEpsilon text) := by
  refine ⟨c, ?_, seen⟩
  rw [spellEpsilon, String.toList_ofList]
  exact List.mem_flatMap.mpr ⟨c, member, by simp [other]⟩

theorem visible_production (p : Production) : Visible (spellEpsilon p.text) := by
  refine visible_spellEpsilon (c := '-') ?_ (by decide) (by decide)
  simp [Production.text]

theorem visible_action (a : ShiftReduce.Action) : Visible (spellEpsilon a.text) := by
  cases a with
  | shift n =>
    refine visible_spellEpsilon (c := 's') ?_ (by decide) (by decide)
    simp [ShiftReduce.Action.text]
  | reduce p =>
    refine visible_spellEpsilon (c := 'r') ?_ (by decide) (by decide)
    simp [ShiftReduce.Action.text]
  | reduceUnknown => exact visible_spellEpsilon (c := 'r') (by decide) (by decide) (by decide)
  | accept => exact visible_spellEpsilon (c := 'a') (by decide) (by decide) (by decide)

theorem visible_number (n : Nat) : Visible (toString (n : Int)) := by
  have digits : (toString (n : Int)).toList = Nat.toDigits 10 n := by
    change (toString n).toList = _
    rw [Nat.toString_eq_repr, Nat.repr_eq_ofList_toDigits, String.toList_ofList]
  obtain ⟨c, member⟩ := List.exists_mem_of_ne_nil _ (Nat.toDigits_ne_nil (n := n) (b := 10))
  refine ⟨c, digits ▸ member, ?_⟩
  have digit := Nat.isDigit_of_mem_toDigits (by decide) (by decide) member
  have zero : '0'.toNat = 48 := rfl
  have nine : '9'.toNat = 57 := rfl
  simp only [Char.isDigit, Bool.and_eq_true, decide_eq_true_eq, UInt32.le_iff_toNat_le] at digit
  simp only [Text.isBlank, Bool.or_eq_false_iff, Bool.and_eq_false_iff, decide_eq_false_iff_not,
    beq_eq_false_iff_ne]
  simp only [Char.toNat] at *
  omega

section Keys

variable {g : Grammar} (d : g.Declared)

theorem stateKeys_nodup (t : ShiftReduce.Tables) : (stateKeys t).Nodup :=
  List.nodup_range.map Nat.cast_injective

theorem mem_stateKeys {t : ShiftReduce.Tables} {n : Int} :
    n ∈ stateKeys t ↔ ∃ k : Nat, n = k ∧ k < t.states.length := by
  simp only [stateKeys, stateNumbers, List.mem_map, List.mem_range]
  constructor
  · rintro ⟨k, lt, rfl⟩
    exact ⟨k, rfl, lt⟩
  · rintro ⟨k, rfl, lt⟩
    exact ⟨k, lt, rfl⟩

theorem mem_lookaheads {s : Symbol} :
    s ∈ lookaheads g ↔ s ∈ g.terminals ∨ s = Symbol.endMarker := by
  simp [lookaheads, SortedSet.mem_def]

include d

theorem lookaheads_nodup : (lookaheads g).Nodup := by
  refine List.nodup_append.mpr ⟨g.terminals.nodup, by simp, ?_⟩
  intro s terminal last marker same
  rw [List.mem_singleton.mp marker] at same
  exact d.ne_endMarker terminal same

theorem mem_lookaheads_of_predictive {table : Predictive.Table}
    (made : Predictive.build g (FirstFollow.ofGrammar g) = .ok table) {s a : Symbol}
    {p : Production} (found : table.get? (s, a) = some p) :
    s ∈ g.nonterminals ∧ a ∈ lookaheads g := by
  obtain ⟨rule, rfl, claimed⟩ := (Predictive.get?_build made).mp found
  have first : Growth.Within g Symbol.epsilon (firstSets g) := firstSets_within d
  refine ⟨d.lhs_mem rule, mem_lookaheads.mpr ?_⟩
  rcases mem_aheadOf.mp claimed with ⟨ahead, shown⟩ | ⟨_, behind⟩
  · exact Or.inl ((firstOf_within first (known_rhs d rule) a ahead).resolve_right shown)
  · exact followSets_within d first p.lhs a behind

section Tables

variable {t : ShiftReduce.Tables}
  (made : ShiftReduce.build g (FirstFollow.ofGrammar g).follow = .ok t)
include made

/-- A lookahead of an action is a terminal or the end marker, and its state one of the tables. -/
theorem mem_lookaheads_of_action {n : Int} {s : Symbol} {a : ShiftReduce.Action}
    (found : t.action.get? (n, s) = some a) : n ∈ stateKeys t ∧ s ∈ lookaheads g := by
  obtain ⟨k, read, here, rfl, claimed⟩ := ShiftReduce.exists_claimed_of_cell d made found
  rw [mem_stateKeys, mem_lookaheads, ShiftReduce.states_of_build d made]
  refine ⟨⟨k, rfl, (List.getElem?_eq_some_iff.mp here).1⟩, ?_⟩
  cases claimed with
  | accept => exact Or.inr rfl
  | reduce _ _ _ after => exact followSets_within d (firstSets_within d) _ s after
  | shift _ terminal => exact Or.inl terminal

theorem keys_of_goto {n : Int} {s : Symbol} {target : Int}
    (found : t.goto.get? (n, s) = some target) :
    n ∈ stateKeys t ∧ s ∈ g.nonterminals ∧ ∃ j : Nat, target = j := by
  obtain ⟨member, k, items, rfl, here, _, j, rfl, _⟩ :=
    (ShiftReduce.goto_iff_moved d made).mp found
  rw [mem_stateKeys, ShiftReduce.states_of_build d made]
  exact ⟨⟨k, rfl, (List.getElem?_eq_some_iff.mp here).1⟩, member, j, rfl⟩

theorem actionRows_displays : Displays (actionFrame g t) t.action (actionRows g t) := by
  rw [actionRows_eq_grid]
  exact displays_grid (stateKeys_nodup t) (lookaheads_nodup d) (fun _ _ a _ => visible_action a)
    fun _ _ _ found => mem_lookaheads_of_action d made found

theorem gotoRows_displays : Displays (gotoFrame g t) t.goto (gotoRows g t) := by
  rw [gotoRows_eq_grid]
  refine displays_grid (stateKeys_nodup t) g.nonterminals.nodup ?_ ?_
  · intro n s target found
    obtain ⟨_, _, j, rfl⟩ := keys_of_goto d made found
    exact visible_number j
  · intro n s target found
    obtain ⟨state, member, _⟩ := keys_of_goto d made found
    exact ⟨state, member⟩

end Tables

theorem predictiveRows_displays {table : Predictive.Table}
    (made : Predictive.build g (FirstFollow.ofGrammar g) = .ok table) :
    Displays (predictiveFrame g) table (predictiveRows g table) := by
  rw [predictiveRows_eq_grid]
  exact displays_grid g.nonterminals.nodup (lookaheads_nodup d)
    (fun _ _ p _ => visible_production p)
    fun _ _ _ found => mem_lookaheads_of_predictive d made found

end Keys

theorem render_of_width {rows : Rows} {width : Nat} (even : ∀ row ∈ rows, row.length = width) :
    render rows = .ok (layout rows) := by
  refine if_neg (overlong_iff.not.mpr ?_)
  rintro ⟨row, member, longer⟩
  cases rows with
  | nil => exact absurd member List.not_mem_nil
  | cons first rest =>
    rw [List.headD_cons, even first List.mem_cons_self, even row member] at longer
    exact Nat.lt_irrefl _ longer

section Analysis

variable {g : Grammar} (mode : OnConflict)

theorem analyze_grammar : (analyze mode g).grammar = g := by
  unfold analyze
  split <;> rfl

theorem analyze_firstFollow (complete : g.WellFormed) :
    (analyze mode g).firstFollow = some (FirstFollow.ofGrammar g) := by
  unfold analyze
  rw [if_pos complete]

/-- In every mode the same predictive table is found. -/
theorem analyze_predictive_iff {table : Predictive.Table} :
    (analyze mode g).predictive = some table ↔
      g.WellFormed ∧ Predictive.build g (FirstFollow.ofGrammar g) = .ok table := by
  unfold analyze
  by_cases complete : g.WellFormed
  · rw [if_pos complete]
    dsimp only [predictiveReport]
    cases Predictive.build g (FirstFollow.ofGrammar g) with
    | ok own => simp [complete]
    | error e => simp [BuildReport.failed]
  · rw [if_neg complete]
    simp [illFormedArtifacts, complete]

theorem analyze_shiftReduce_iff {t : ShiftReduce.Tables} :
    (analyze mode g).shiftReduce = some t ↔
      g.WellFormed ∧ ShiftReduce.build g (FirstFollow.ofGrammar g).follow = .ok t := by
  unfold analyze
  by_cases complete : g.WellFormed
  · rw [if_pos complete]
    dsimp only [shiftReduceReport]
    cases ShiftReduce.build g (FirstFollow.ofGrammar g).follow with
    | ok own => simp [complete]
    | error e => simp [BuildReport.failed]
  · rw [if_neg complete]
    simp [illFormedArtifacts, complete]

end Analysis

/-- Rows that everything made from a grammar carries, whichever conflicts are listed: a sheet of the
export, a block of the dump, which is set without fail, and a member of the answer of the service to
every request that is read as the grammar. -/
structure Carried (g : Grammar) (sheet member : String) (rows : Rows) : Prop where
  exported : ∀ mode, (sheet, rows) ∈ ofArtifacts (analyze mode g)
  rendered : render rows = .ok (layout rows)
  dumped : ∀ mode, layout rows ∈ Console.dumpLines (analyze mode g)
  served : ∀ (settings : Settings) (req : Service.AnalyzeRequest),
    Service.grammarOf settings req.grammar = .ok g →
      ∃ members, Service.analyzeRoute settings req = .ok (.object members) ∧
        Service.Value.member? members member = some (Service.rowsValue rows)

section Outputs

variable {g : Grammar}

theorem analyzeRoute_members {settings : Settings} {req : Service.AnalyzeRequest}
    (read : Service.grammarOf settings req.grammar = .ok g) :
    ∃ mode members, Service.analyzeRoute settings req = .ok (.object members) ∧
      Service.Value.member? members "ll1_table" = some (Service.valueOrNull
        (fun t => Service.rowsValue (predictiveRows g t)) (analyze mode g).predictive) ∧
      Service.Value.member? members "action" = some (Service.valueOrNull
        (fun t => Service.rowsValue (actionRows g t)) (analyze mode g).shiftReduce) ∧
      Service.Value.member? members "goto" = some (Service.valueOrNull
        (fun t => Service.rowsValue (gotoRows g t)) (analyze mode g).shiftReduce) := by
  refine ⟨Settings.onConflict (req.grammar.allConflicts.getD settings.allConflicts), ?_⟩
  simp only [Service.analyzeRoute, Service.analysisOf, read, bind, Except.bind, analyze_grammar]
  refine ⟨_, rfl, ?_⟩
  simp [Service.Value.member?, List.lookup_cons]

variable (complete : g.WellFormed)
include complete

theorem predictiveRows_carried {table : Predictive.Table}
    (made : Predictive.build g (FirstFollow.ofGrammar g) = .ok table)
    (shown : Displays (predictiveFrame g) table (predictiveRows g table)) :
    Carried g "LL1_ParseTable" "ll1_table" (predictiveRows g table) := by
  have known mode := analyze_firstFollow mode complete
  have there mode := (analyze_predictive_iff mode).mpr ⟨complete, made⟩
  constructor
  case exported => simp [ofArtifacts, known, there, analyze_grammar]
  case rendered => exact render_of_width shown.width
  case dumped => simp [Console.dumpLines, known, there, analyze_grammar]
  case served =>
    intro settings req read
    obtain ⟨mode, members, answer, own, _, _⟩ := analyzeRoute_members read
    rw [there] at own
    exact ⟨members, answer, own⟩

variable {t : ShiftReduce.Tables}
  (made : ShiftReduce.build g (FirstFollow.ofGrammar g).follow = .ok t)
include made

theorem actionRows_carried
    (shown : Displays (actionFrame g t) t.action (actionRows g t)) :
    Carried g "SLR1_Action" "action" (actionRows g t) := by
  have known mode := analyze_firstFollow mode complete
  have there mode := (analyze_shiftReduce_iff mode).mpr ⟨complete, made⟩
  constructor
  case exported => simp [ofArtifacts, known, there, analyze_grammar]
  case rendered => exact render_of_width shown.width
  case dumped => simp [Console.dumpLines, known, there, analyze_grammar]
  case served =>
    intro settings req read
    obtain ⟨mode, members, answer, _, own, _⟩ := analyzeRoute_members read
    rw [there] at own
    exact ⟨members, answer, own⟩

theorem gotoRows_carried
    (shown : Displays (gotoFrame g t) t.goto (gotoRows g t)) :
    Carried g "SLR1_Goto" "goto" (gotoRows g t) := by
  have known mode := analyze_firstFollow mode complete
  have there mode := (analyze_shiftReduce_iff mode).mpr ⟨complete, made⟩
  constructor
  case exported => simp [ofArtifacts, known, there, analyze_grammar]
  case rendered => exact render_of_width shown.width
  case dumped => simp [Console.dumpLines, known, there, analyze_grammar]
  case served =>
    intro settings req read
    obtain ⟨mode, members, answer, _, _, own⟩ := analyzeRoute_members read
    rw [there] at own
    exact ⟨members, answer, own⟩

end Outputs

/-- The sheets of the tables that an analysis finds show all of them, and everything that is made
from the grammar carries them. -/
theorem tables_displayed {g : Grammar} (built : g.Built) (mode : OnConflict) :
    (∀ table, (analyze mode g).predictive = some table →
      Displays (predictiveFrame g) table (predictiveRows g table) ∧
        Carried g "LL1_ParseTable" "ll1_table" (predictiveRows g table)) ∧
    ∀ t, (analyze mode g).shiftReduce = some t →
      (Displays (actionFrame g t) t.action (actionRows g t) ∧
        Carried g "SLR1_Action" "action" (actionRows g t)) ∧
      Displays (gotoFrame g t) t.goto (gotoRows g t) ∧
        Carried g "SLR1_Goto" "goto" (gotoRows g t) := by
  have d := Grammar.built_declared built
  constructor
  · intro table there
    obtain ⟨complete, made⟩ := (analyze_predictive_iff mode).mp there
    have shown := predictiveRows_displays d made
    exact ⟨shown, predictiveRows_carried complete made shown⟩
  · intro t there
    obtain ⟨complete, made⟩ := (analyze_shiftReduce_iff mode).mp there
    have actions := actionRows_displays d made
    have gotos := gotoRows_displays d made
    exact ⟨⟨actions, actionRows_carried complete made actions⟩,
      gotos, gotoRows_carried complete made gotos⟩

/-- The brackets, written in the compact notation and sent to the service. -/
def bracketsRequest : Service.AnalyzeRequest :=
  ⟨⟨["S -> aeSb e"], none, some .compact, none⟩, false, false⟩

theorem grammarOf_bracketsRequest (settings : Settings) :
    Service.grammarOf settings bracketsRequest.grammar = .ok Grammar.brackets := by
  change Notation.Compact.read ["S -> aeSb e"] none = .ok Grammar.brackets
  decide +kernel

/-- An alternative with the marker in it, a shift, a reduction, acceptance and a transition stand at
their places; no action is declared beside acceptance. Under all settings the service answers with
the same rows. -/
theorem brackets_displayed : Grammar.brackets.Built ∧ ∃ table t,
    (analyze .stop Grammar.brackets).predictive = some table ∧
    (analyze .stop Grammar.brackets).shiftReduce = some t ∧
    cellAt (predictiveRows Grammar.brackets table) 1 1 = some "S -> a eps S b" ∧
    cellAt (actionRows Grammar.brackets t) 1 1 = some "s1" ∧
    cellAt (actionRows Grammar.brackets t) 1 3 = some "r(S -> eps)" ∧
    cellAt (actionRows Grammar.brackets t) 3 3 = some "acc" ∧
    cellAt (actionRows Grammar.brackets t) 3 2 = some "" ∧
    cellAt (gotoRows Grammar.brackets t) 1 1 = some "2" ∧
    ("SLR1_Goto", gotoRows Grammar.brackets t) ∈ ofArtifacts (analyze .stop Grammar.brackets) ∧
    ∀ settings, (∃ members,
        Service.analyzeRoute settings bracketsRequest = .ok (.object members) ∧
        Service.Value.member? members "action" =
          some (Service.rowsValue (actionRows Grammar.brackets t))) ∧
      ∃ members, Service.analyzeRoute settings bracketsRequest = .ok (.object members) ∧
        Service.Value.member? members "goto" =
          some (Service.rowsValue (gotoRows Grammar.brackets t)) := by
  have nested : (analyze .stop Grammar.brackets).predictive.any (fun table =>
      table.get? (.nonterminal "S", .terminal "a") =
        some ⟨.nonterminal "S", [.terminal "a", .epsilon, .nonterminal "S", .terminal "b"]⟩) =
          true := by
    decide +kernel
  have filled : (analyze .stop Grammar.brackets).shiftReduce.any (fun t =>
      ((stateKeys t)[0]? = some 0 ∧ (stateKeys t)[2]? = some 2) ∧
        t.action.get? (0, .terminal "a") = some (.shift 1) ∧
        t.action.get? (0, .endMarker) = some (.reduce ⟨.nonterminal "S", [.epsilon]⟩) ∧
        t.action.get? (2, .endMarker) = some .accept ∧
        t.action.get? (2, .terminal "b") = none ∧
        t.goto.get? (0, .nonterminal "S") = some 2) = true := by
    decide +kernel
  have columns : (lookaheads Grammar.brackets)[0]? = some (.terminal "a") ∧
      (lookaheads Grammar.brackets)[1]? = some (.terminal "b") ∧
      (lookaheads Grammar.brackets)[2]? = some .endMarker := by
    decide +kernel
  have nonterminals : Grammar.brackets.nonterminals.toList[0]? = some (.nonterminal "S") := by
    decide +kernel
  have spelled : spellEpsilon (ShiftReduce.Action.text (.shift 1)) = "s1" ∧
      spellEpsilon (ShiftReduce.Action.text (.reduce ⟨.nonterminal "S", [.epsilon]⟩)) =
        "r(S -> eps)" ∧ toString (2 : Int) = "2" := by
    decide +kernel
  obtain ⟨table, there, entry⟩ := (Option.any_eq_true _ _).mp nested
  obtain ⟨t, there', entries⟩ := (Option.any_eq_true _ _).mp filled
  obtain ⟨⟨initial, last⟩, shift, reduce, accept, beside, transition⟩ := of_decide_eq_true entries
  obtain ⟨predictive, shiftReduce⟩ := tables_displayed Grammar.brackets_built .stop
  obtain ⟨⟨actions, carried⟩, gotos, carried'⟩ := shiftReduce t there'
  refine ⟨Grammar.brackets_built, table, t, there, there', ?_, ?_, ?_, ?_, ?_, ?_,
    carried'.exported .stop, ?_⟩
  · rw [cellAt_of_entry (predictive table there).1 nonterminals columns.1 (of_decide_eq_true entry)]
    decide +kernel
  · rw [cellAt_of_entry actions initial columns.1 shift]
    exact congrArg some spelled.1
  · rw [cellAt_of_entry actions initial columns.2.2 reduce]
    exact congrArg some spelled.2.1
  · rw [cellAt_of_entry actions last columns.2.2 accept]
    rfl
  · exact cellAt_of_no_entry actions last columns.2.1 beside
  · rw [cellAt_of_entry gotos initial nonterminals transition]
    exact congrArg some spelled.2.2
  · intro settings
    have read := grammarOf_bracketsRequest settings
    exact ⟨carried.served settings bracketsRequest read,
      carried'.served settings bracketsRequest read⟩

end TableParsing.Sheet
