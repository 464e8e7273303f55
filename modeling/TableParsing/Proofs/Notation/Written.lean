import Mathlib.Data.List.Forall2
import TableParsing.Notation.Compact
import TableParsing.Proofs.Notation.RoundTrip

/- The productions that the lines of a grammar write, against those of the grammar that is read. In
   the spaced notation these are the same, since a line adds its alternatives to the earlier ones. In
   the compact notation a line takes the place of the earlier ones for its left-hand side, so what is
   written there and not once more is lost. -/
namespace TableParsing.Notation
open Text

/-- A rule for this left-hand side stands on the line. -/
def Defines (line left : String) : Prop := ∃ right, RuleOn line.toList left.toList right

namespace Spaced

/-- The symbol that a word stands for where these lines say what is a nonterminal. -/
inductive Denotes (lines : List String) (word : String) : Symbol → Prop where
  | epsilon (marker : isEpsilonWord word = true) : Denotes lines word Symbol.epsilon
  | nonterminal (plain : isEpsilonWord word = false) (defined : ∃ line ∈ lines, Defines line word) :
      Denotes lines word (Symbol.nonterminal word)
  | terminal (plain : isEpsilonWord word = false) (free : ∀ line ∈ lines, ¬ Defines line word) :
      Denotes lines word (Symbol.terminal word)

/-- The words stand between two bars of the text, or between a bar and one of its ends. -/
def IsAlternative (right : List Char) (ws : List (List Char)) : Prop :=
  ∃ parts, (∀ part ∈ parts, '|' ∉ part) ∧ ['|'].intercalate parts = right ∧
    ∃ part ∈ parts, Separated part ws

/-- The production is written on the line, which is one of these. -/
def Writes (lines : List String) (line : String) (p : Production) : Prop :=
  ∃ left right ws alt, RuleOn line.toList left.toList right ∧ IsAlternative right ws ∧
    List.Forall₂ (Denotes lines) (ws.map String.ofList) alt ∧
    p = ⟨Symbol.nonterminal left, Grammar.storedAlternative alt⟩

theorem mem_alternatives_iff {right : List Char} {words : List String} :
    words ∈ alternatives right ↔ ∃ ws, IsAlternative right ws ∧ words = ws.map String.ofList := by
  simp only [alternatives, List.mem_map]
  constructor
  · rintro ⟨part, member, rfl⟩
    obtain ⟨_, whole, joined⟩ := splitAtChar_eq_iff.mp (Eq.refl (splitAtChar '|' right))
    exact ⟨_, ⟨_, whole, joined, part, member, words_eq_iff.mp rfl⟩, rfl⟩
  · rintro ⟨ws, ⟨parts, whole, joined, part, member, separated⟩, rfl⟩
    have split : splitAtChar '|' right = parts :=
      splitAtChar_eq_iff.mpr ⟨List.ne_nil_of_mem member, whole, joined⟩
    exact ⟨part, split ▸ member, by rw [words_eq_iff.mpr separated]⟩

/-- The rules hold what stands on the lines. -/
structure Gathers (lines : List String) (rules : RawRules) : Prop where
  defined : ∀ left, rules.contains left = true ↔ ∃ line ∈ lines, Defines line left
  listed : ∀ left words, words ∈ rules.getD left [] ↔
    ∃ line ∈ lines, ∃ right, RuleOn line.toList left.toList right ∧ words ∈ alternatives right

namespace Gathers

variable {lines : List String} {rules : RawRules}

/-- A line without a rule adds nothing. -/
theorem pass (gathers : Gathers lines rules) {line : String}
    (none : ∀ left right, ¬ RuleOn line.toList left right) : Gathers (lines ++ [line]) rules where
  defined := by
    intro left
    simp [gathers.defined, Defines, none, or_and_right, exists_or]
  listed := by
    intro left words
    simp [gathers.listed, none, or_and_right, exists_or]

/-- A rule brings its left-hand side and its alternatives. -/
theorem update (gathers : Gathers lines rules) {line : String} {left right : List Char}
    (rule : RuleOn line.toList left right) : Gathers (lines ++ [line])
      (rules.update (String.ofList left) [] (· ++ alternatives right)) where
  defined := by
    intro other
    have here : Defines line other ↔ String.ofList left = other := by
      constructor
      · rintro ⟨right', rule'⟩
        rw [(rule.unique rule').1, String.ofList_toList]
      · rintro rfl
        exact ⟨right, by rwa [String.toList_ofList]⟩
    simp only [List.mem_append, List.mem_singleton, or_and_right, exists_or, exists_eq_left, here,
      ← gathers.defined, OrderedMap.update, OrderedMap.contains, OrderedMap.get?_put]
    split
    · rename_i same
      simp [same]
    · rename_i apart
      simp [apart]
  listed := by
    intro other words
    have here : (∃ right', RuleOn line.toList other.toList right' ∧ words ∈ alternatives right') ↔
        String.ofList left = other ∧ words ∈ alternatives right := by
      constructor
      · rintro ⟨right', rule', member⟩
        obtain ⟨rfl, rfl⟩ := rule.unique rule'
        exact ⟨String.ofList_toList, member⟩
      · rintro ⟨rfl, member⟩
        exact ⟨right, by rwa [String.toList_ofList], member⟩
    simp only [List.mem_append, List.mem_singleton, or_and_right, exists_or, exists_eq_left, here,
      ← gathers.listed, OrderedMap.update, OrderedMap.getD_put]
    split
    · rename_i same
      simp [same]
    · rename_i apart
      simp [apart]

theorem readLine (gathers : Gathers lines rules) {rules' : RawRules} {line : String}
    (made : readLine rules line = .ok rules') : Gathers (lines ++ [line]) rules' := by
  rcases readLine_cases made with ⟨rfl, none⟩ | ⟨left, right, rule, rfl⟩
  · exact gathers.pass none
  · exact gathers.update rule

theorem foldlM (gathers : Gathers lines rules) {more : List String} {rules' : RawRules}
    (made : more.foldlM Spaced.readLine rules = .ok rules') : Gathers (lines ++ more) rules' := by
  -- the lines that have been read grow at their end, so the induction is on those to come
  induction more generalizing lines rules with
  | nil =>
    rw [List.append_nil]
    exact Except.ok.inj made ▸ gathers
  | cons line rest ih =>
    obtain ⟨next, first, later⟩ := foldlM_cons_eq_ok.mp made
    have whole := ih (gathers.readLine first) later
    rwa [List.append_assoc, List.singleton_append] at whole

/-- The rules know what the words of the lines denote. -/
theorem denotes (gathers : Gathers lines rules) {word : String} {s : Symbol} :
    Denotes lines word s ↔ wordSymbol rules word = s := by
  have defined := gathers.defined word
  unfold wordSymbol
  constructor
  · rintro (marker | ⟨plain, rule⟩ | ⟨plain, free⟩)
    · rw [if_pos marker]
    · rw [if_neg (by simp [plain]), if_pos (defined.mpr rule)]
    · rw [if_neg (by simp [plain]), if_neg]
      intro known
      obtain ⟨line, member, rule⟩ := defined.mp known
      exact free line member rule
  · split
    · rintro rfl
      exact .epsilon ‹_›
    · rename_i plain
      split
      · rintro rfl
        exact .nonterminal (Bool.eq_false_iff.mpr plain) (defined.mp ‹_›)
      · rename_i unknown
        rintro rfl
        refine .terminal (Bool.eq_false_iff.mpr plain) fun line member rule => ?_
        exact unknown (defined.mpr ⟨line, member, rule⟩)

theorem denotes_all (gathers : Gathers lines rules) {words : List String} {alt : List Symbol} :
    List.Forall₂ (Denotes lines) words alt ↔ words.map (wordSymbol rules) = alt := by
  have pointwise : Denotes lines = fun word s => wordSymbol rules word = s := by
    funext word s
    exact propext gathers.denotes
  rw [pointwise, ← List.forall₂_map_left_iff, List.forall₂_eq_eq_eq]

theorem mem_productions (gathers : Gathers lines rules) (start : String) {p : Production} :
    p ∈ (assemble start rules).productions ↔ ∃ line ∈ lines, Writes lines line p := by
  have entries : p ∈ (assemble start rules).productions ↔ ∃ left, ∃ words ∈ rules.getD left [],
      p = ⟨Symbol.nonterminal left, Grammar.storedAlternative (words.map (wordSymbol rules))⟩ := by
    simp only [productions_assemble, List.mem_flatMap, entryProductions, entryAlternatives,
      Grammar.mem_productionsOf, List.mem_map, OrderedMap.mem_getD_iff]
    constructor
    · rintro ⟨e, entry, _, ⟨words, member, rfl⟩, rfl⟩
      exact ⟨e.1, words, ⟨e.2, entry, member⟩, rfl⟩
    · rintro ⟨left, words, ⟨alts, entry, member⟩, rfl⟩
      exact ⟨_, entry, _, ⟨words, member, rfl⟩, rfl⟩
  rw [entries]
  constructor
  · rintro ⟨left, words, listed, rfl⟩
    obtain ⟨line, member, right, rule, inside⟩ := (gathers.listed left words).mp listed
    obtain ⟨ws, alternative, rfl⟩ := mem_alternatives_iff.mp inside
    exact ⟨line, member, left, right, ws, _, rule, alternative, gathers.denotes_all.mpr rfl, rfl⟩
  · rintro ⟨line, member, left, right, ws, alt, rule, alternative, denotes, rfl⟩
    have inside := mem_alternatives_iff.mpr ⟨ws, alternative, rfl⟩
    have listed := (gathers.listed left _).mpr ⟨line, member, right, rule, inside⟩
    exact ⟨left, _, listed, by rw [gathers.denotes_all.mp denotes]⟩

end Gathers

theorem wordSymbol_ne_endMarker (rules : RawRules) (word : String) :
    wordSymbol rules word ≠ Symbol.endMarker := by
  unfold wordSymbol
  split
  · decide
  · split <;> exact fun same => nomatch congrArg Symbol.kind same

theorem declared_assemble (start : String) (rules : RawRules) :
    (assemble start rules).Declared := by
  have kind : (Symbol.nonterminal start).kind = .nonterminal := rfl
  refine Grammar.declared_foldl_define (fun _ _ => rfl) ?_ (Grammar.declared_ofStart kind)
  intro e _ alt member marked
  obtain ⟨words, _, rfl⟩ := List.mem_map.mp member
  obtain ⟨word, _, same⟩ := List.mem_map.mp marked
  exact wordSymbol_ne_endMarker rules word same

theorem declared_read {start : String} {lines : List String} {g : Grammar}
    (made : read start lines = .ok g) : g.Declared := by
  obtain ⟨rules, _, _, _, rfl⟩ := read_eq_ok.mp made
  exact declared_assemble start rules

theorem gathers_empty : Gathers [] ∅ :=
  ⟨fun _ => ⟨nofun, nofun⟩, fun _ _ => ⟨nofun, nofun⟩⟩

theorem mem_productions_read {start : String} {lines : List String} {g : Grammar}
    (made : read start lines = .ok g) {p : Production} :
    p ∈ g.productions ↔ ∃ line ∈ lines, Writes lines line p := by
  obtain ⟨rules, gathered, _, _, rfl⟩ := read_eq_ok.mp made
  exact (gathers_empty.foldlM gathered).mem_productions start

end Spaced

namespace Compact

/-- The production is written on the line. -/
def Writes (line : String) (p : Production) : Prop :=
  ∃ left right ws w, RuleOn line.toList left.toList right ∧ Separated right ws ∧ w ∈ ws ∧
    p = ⟨Symbol.nonterminal left, w.map charSymbol⟩

/-- The production is written on the last line that has a rule for its left-hand side. -/
def WritesLast (lines : List String) (p : Production) : Prop :=
  ∃ before line after, lines = before ++ line :: after ∧ Writes line p ∧
    ∀ later ∈ after, ¬ Defines later p.lhs.name

theorem Writes.defines {line : String} {p : Production} (writes : Writes line p) :
    Defines line p.lhs.name := by
  obtain ⟨left, right, _, _, rule, _, _, rfl⟩ := writes
  exact ⟨right, rule⟩

theorem writesLast_cons {line : String} {rest : List String} {p : Production} :
    WritesLast (line :: rest) p ↔ WritesLast rest p ∨
      Writes line p ∧ ∀ later ∈ rest, ¬ Defines later p.lhs.name := by
  constructor
  · rintro ⟨before, last, after, split, writes, others⟩
    cases before with
    | nil =>
      cases split
      exact Or.inr ⟨writes, others⟩
    | cons first before =>
      obtain ⟨rfl, rfl⟩ := List.cons_eq_cons.mp split
      exact Or.inl ⟨before, last, after, rfl, writes, others⟩
  · rintro (⟨before, last, after, rfl, writes, others⟩ | ⟨writes, others⟩)
    · exact ⟨line :: before, last, after, rfl, writes, others⟩
    · exact ⟨[], line, rest, rfl, writes, others⟩

/-- A line that is read holds no rule, or the one that is found. -/
theorem readLine_cases {line : String} {found : Option Rule} (made : readLine line = .ok found) :
    (found = none ∧ ∀ left, ¬ Defines line left) ∨
      ∃ r right, found = some r ∧ RuleOn line.toList r.left.toList right ∧
        r.alternatives = (words right).map (·.map charSymbol) := by
  dsimp only [readLine] at made
  split at made
  · rename_i skipped
    refine Or.inl ⟨(Except.ok.inj made).symm, ?_⟩
    rintro left ⟨right, rule⟩
    exact not_ruleOn_of_skipped skipped _ _ rule
  · rename_i shown
    cases cut : splitRule (trim line.toList) with
    | error e =>
      rw [cut] at made
      cases made
    | ok parts =>
      obtain ⟨left, right⟩ := parts
      have rule := ruleOn_of_splitRule (Bool.eq_false_iff.mpr shown) cut
      simp only [cut, bind, Except.bind] at made
      split at made
      · rename_i c
        split at made
        · cases made
        · split at made
          · cases made
          · refine Or.inr ⟨_, right, (Except.ok.inj made).symm, ?_, rfl⟩
            simpa using rule
      · cases made

theorem not_defines_of_readLine {line : String} (made : readLine line = .ok none) :
    ∀ left, ¬ Defines line left := by
  rcases readLine_cases made with ⟨_, free⟩ | ⟨r, right, found, _⟩
  · exact free
  · cases found

theorem ruleOn_of_readLine {line : String} {r : Rule} (made : readLine line = .ok (some r)) :
    ∃ right, RuleOn line.toList r.left.toList right ∧
      r.alternatives = (words right).map (·.map charSymbol) := by
  rcases readLine_cases made with ⟨found, _⟩ | ⟨_, right, found, rule, alternatives⟩
  · cases found
  · cases found
    exact ⟨right, rule, alternatives⟩

theorem defines_iff {line : String} {r : Rule} (made : readLine line = .ok (some r))
    {left : String} : Defines line left ↔ left = r.left := by
  obtain ⟨right, rule, _⟩ := ruleOn_of_readLine made
  constructor
  · rintro ⟨right', rule'⟩
    exact String.toList_injective (rule'.unique rule).1
  · rintro rfl
    exact ⟨right, rule⟩

/-- A line with a rule writes the productions of this rule. -/
theorem writes_iff {line : String} {r : Rule} (made : readLine line = .ok (some r))
    {p : Production} : Writes line p ↔
      p ∈ Grammar.productionsOf (Symbol.nonterminal r.left) r.alternatives := by
  obtain ⟨right, rule, alternatives⟩ := ruleOn_of_readLine made
  have stored : ∀ w ∈ words right,
      Grammar.storedAlternative (w.map charSymbol) = w.map charSymbol := by
    intro w member
    exact Grammar.storedAlternative_of_ne_nil (by simp [(mem_words member).1.filled])
  rw [Grammar.mem_productionsOf, alternatives]
  constructor
  · rintro ⟨left, right', ws, w, rule', separated, member, rfl⟩
    obtain ⟨same, rfl⟩ := rule'.unique rule
    obtain rfl := words_eq_iff.mpr separated
    exact ⟨_, List.mem_map_of_mem member, by rw [stored w member, String.toList_injective same]⟩
  · rintro ⟨alt, member, rfl⟩
    obtain ⟨w, inside, rfl⟩ := List.mem_map.mp member
    exact ⟨r.left, right, _, w, rule, words_eq_iff.mp rfl, inside, by rw [stored w inside]⟩

theorem charSymbol_cases (c : Char) : charSymbol c = Symbol.epsilon ∨
    charSymbol c = Symbol.nonterminal (String.singleton c) ∨
      charSymbol c = Symbol.terminal (String.singleton c) := by
  unfold charSymbol
  split
  · exact Or.inl rfl
  · split
    · exact Or.inr (Or.inl rfl)
    · exact Or.inr (Or.inr rfl)

theorem charSymbol_ne_endMarker (c : Char) : charSymbol c ≠ Symbol.endMarker := by
  rcases charSymbol_cases c with marker | named | plain
  · rw [marker]
    decide
  · rw [named]
    exact fun same => nomatch congrArg Symbol.kind same
  · rw [plain]
    exact fun same => nomatch congrArg Symbol.kind same

theorem unmarked_of_readLine {line : String} {r : Rule} (made : readLine line = .ok (some r)) :
    ∀ alt ∈ r.alternatives, Symbol.endMarker ∉ alt := by
  obtain ⟨right, _, alternatives⟩ := ruleOn_of_readLine made
  intro alt member marked
  rw [alternatives] at member
  obtain ⟨w, _, rfl⟩ := List.mem_map.mp member
  obtain ⟨c, _, same⟩ := List.mem_map.mp marked
  exact charSymbol_ne_endMarker c same

def withRule (g : Grammar) (r : Rule) : Grammar := g.define (Symbol.nonterminal r.left) r.alternatives

/-- Reading line by line keeps the productions of the left-hand sides that no line defines, and
brings for each of the others what is written last. -/
theorem mem_productions_foldl {lines : List String} {found : List (Option Rule)}
    (made : lines.mapM readLine = .ok found) {g : Grammar} (d : g.Declared) {p : Production} :
    p ∈ ((found.filterMap id).foldl withRule g).productions ↔ WritesLast lines p ∨
      p ∈ g.productions ∧ ∀ line ∈ lines, ¬ Defines line p.lhs.name := by
  -- what a line writes is kept as an old production by the lines behind it, if they leave it
  induction lines generalizing found g with
  | nil =>
    obtain rfl := Except.ok.inj made
    simp [WritesLast]
  | cons line rest ih =>
    obtain ⟨first, later, read, others, rfl⟩ := mapM_cons_eq_ok.mp made
    rw [writesLast_cons, List.forall_mem_cons]
    cases first with
    | none =>
      have free := not_defines_of_readLine read
      have nothing : ¬ Writes line p := fun writes => free _ writes.defines
      rw [List.filterMap_cons_none rfl, ih others d]
      simp [free, nothing]
    | some r =>
      have kind : (Symbol.nonterminal r.left).kind = .nonterminal := rfl
      have grown := Grammar.declared_define d kind (unmarked_of_readLine read)
      have kept : p ∈ g.productions ∧ p.lhs ≠ Symbol.nonterminal r.left ↔
          p ∈ g.productions ∧ ¬ Defines line p.lhs.name := by
        refine and_congr_right fun member => not_congr ?_
        have named : p.lhs = Symbol.nonterminal p.lhs.name := by
          rw [Symbol.nonterminal, ← d.kind _ (d.lhs_mem member)]
        rw [defines_iff read]
        exact ⟨congrArg Symbol.name, fun same => named.trans (congrArg Symbol.nonterminal same)⟩
      rw [List.filterMap_cons_some (id_eq (some r)), List.foldl_cons, withRule, ih others grown, d.mem_define,
        ← writes_iff read, kept, or_and_right, or_assoc, and_assoc]

theorem read_eq_ok {lines : List String} {start : Option String} {g : Grammar}
    (made : read lines start = .ok g) : ∃ found, lines.mapM readLine = .ok found ∧
      g = assemble (chooseStart (found.filterMap id) start) (found.filterMap id) := by
  simp only [read, bind, Except.bind] at made
  cases found : lines.mapM readLine with
  | error e =>
    rw [found] at made
    cases made
  | ok rules =>
    rw [found] at made
    dsimp only at made
    split at made
    · cases made
    · exact ⟨rules, rfl, (Except.ok.inj made).symm⟩

theorem mem_productions_assemble {lines : List String} {found : List (Option Rule)}
    (made : lines.mapM readLine = .ok found) (start : String) {p : Production} :
    p ∈ (assemble start (found.filterMap id)).productions ↔ WritesLast lines p := by
  have kind : (Symbol.nonterminal start).kind = .nonterminal := rfl
  have none : p ∉ (Grammar.ofStart (Symbol.nonterminal start)).productions := List.not_mem_nil
  have whole := mem_productions_foldl made (Grammar.declared_ofStart kind) (p := p)
  rwa [or_iff_left fun old => none old.1] at whole

theorem declared_assemble {lines : List String} {found : List (Option Rule)}
    (made : lines.mapM readLine = .ok found) (start : String) :
    (assemble start (found.filterMap id)).Declared := by
  have kind : (Symbol.nonterminal start).kind = .nonterminal := rfl
  refine Grammar.declared_foldl_define (fun _ _ => rfl) ?_ (Grammar.declared_ofStart kind)
  intro r member
  obtain ⟨_, inside, rfl⟩ := List.mem_filterMap.mp member
  obtain ⟨line, _, read⟩ := exists_of_mem_mapM made inside
  exact unmarked_of_readLine read

theorem declared_read {lines : List String} {start : Option String} {g : Grammar}
    (made : read lines start = .ok g) : g.Declared := by
  obtain ⟨found, gathered, rfl⟩ := read_eq_ok made
  exact declared_assemble gathered _

theorem mem_productions_read {lines : List String} {start : Option String} {g : Grammar}
    (made : read lines start = .ok g) {p : Production} : p ∈ g.productions ↔ WritesLast lines p := by
  obtain ⟨found, gathered, rfl⟩ := read_eq_ok made
  exact mem_productions_assemble gathered _

end Compact

/-- In the spaced notation the productions of the grammar are those that the lines write. In the
compact notation they are those that are written on the last line for their left-hand side, so that no
written one is lost exactly if each line repeats what it replaces. -/
theorem productions_written (lines : List String) :
    (∀ start g, Spaced.read start lines = .ok g →
      ∀ p, p ∈ g.productions ↔ ∃ line ∈ lines, Spaced.Writes lines line p) ∧
    ∀ start g, Compact.read lines start = .ok g →
      (∀ p, p ∈ g.productions ↔ Compact.WritesLast lines p) ∧
      ((∀ p, p ∈ g.productions ↔ ∃ line ∈ lines, Compact.Writes line p) ↔
        ∀ line ∈ lines, ∀ p, Compact.Writes line p → Compact.WritesLast lines p) := by
  refine ⟨fun start g made p => Spaced.mem_productions_read made, ?_⟩
  intro start g made
  have last : ∀ p, p ∈ g.productions ↔ Compact.WritesLast lines p :=
    fun p => Compact.mem_productions_read made
  refine ⟨last, ?_⟩
  constructor
  · intro all line member p writes
    exact (last p).mp ((all p).mpr ⟨line, member, writes⟩)
  · intro repeated p
    rw [last p]
    constructor
    · rintro ⟨before, line, after, rfl, writes, _⟩
      exact ⟨line, by simp, writes⟩
    · rintro ⟨line, member, writes⟩
      exact repeated line member p writes

/-- Two rules for one left-hand side, with a comment between them. -/
def replacing : List String := ["S -> aS", "# and the end", "S -> b e"]

theorem replacing_written :
    (∃ g, Spaced.read "E" Spaced.scattered = .ok g ∧
      ∀ p, p ∈ g.productions ↔ ∃ line ∈ Spaced.scattered, Spaced.Writes Spaced.scattered line p) ∧
    ∃ g, Compact.read replacing none = .ok g ∧
      g.productions.map Production.text = ["S -> b", "S -> ε"] ∧
      ∀ p, p ∈ g.productions ↔ Compact.WritesLast replacing p := by
  have lines : (Spaced.read "E" Spaced.scattered).toOption.any (fun _ => true) = true := by
    decide +kernel
  have texts : (Compact.read replacing none).toOption.any (fun g =>
      g.productions.map Production.text = ["S -> b", "S -> ε"]) = true := by
    decide +kernel
  obtain ⟨g, made, _⟩ := exists_ok_of_any lines
  obtain ⟨h, made', shown⟩ := exists_ok_of_any texts
  exact ⟨⟨g, made, (productions_written _).1 _ g made⟩,
    h, made', of_decide_eq_true shown, ((productions_written _).2 _ h made').1⟩

/-- The alternative `aS` is written and lost. -/
theorem replacing_loses : ∃ g p, Compact.read replacing none = .ok g ∧
    (∃ line ∈ replacing, Compact.Writes line p) ∧ p ∉ g.productions := by
  have first : Compact.Writes "S -> aS"
      ⟨.nonterminal "S", [.terminal "a", .nonterminal "S"]⟩ := by
    refine ⟨"S", [' ', 'a', 'S'], [['a', 'S']], ['a', 'S'], ?_, ?_, by simp, ?_⟩
    · exact ruleOn_iff.mpr (by decide)
    · exact words_eq_iff.mp (by decide)
    · decide
  have absent : (Compact.read replacing none).toOption.any (fun g =>
      (⟨.nonterminal "S", [.terminal "a", .nonterminal "S"]⟩ : Production) ∉ g.productions) =
        true := by
    decide +kernel
  obtain ⟨g, made, lost⟩ := exists_ok_of_any absent
  exact ⟨g, _, made, ⟨_, List.mem_cons_self, first⟩, of_decide_eq_true lost⟩

end TableParsing.Notation
