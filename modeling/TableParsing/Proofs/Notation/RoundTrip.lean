import Mathlib.Data.List.Basic
import TableParsing.Notation.Spaced
import TableParsing.Proofs.Grammar.Declared
import TableParsing.Proofs.Notation.RuleLine

/- The productions of a grammar in spaced notation, written one a line, are lines in this notation
   again. What can stand on the left and what can be a word on the right is followed through the
   lines that are read; such productions are then read one alternative at a time. -/
namespace TableParsing

namespace Notation.Spaced
open Text

/-- What can be a word of an alternative. -/
structure IsToken (word : String) : Prop where
  isWord : IsWord word.toList
  whole : '|' ∉ word.toList

/-- Rules that can be written down: they have alternatives, made of words, and a left-hand side
that can stand on a line. -/
structure Writable (rules : RawRules) : Prop where
  left : ∀ e ∈ rules.entries, IsLeft e.1.toList
  filled : ∀ e ∈ rules.entries, e.2 ≠ []
  tokens : ∀ e ∈ rules.entries, ∀ alt ∈ e.2, ∀ word ∈ alt, IsToken word

theorem mem_alternatives {right : List Char} {alt : List String} (member : alt ∈ alternatives right)
    {word : String} (inside : word ∈ alt) : IsToken word := by
  obtain ⟨part, between, rfl⟩ := List.mem_map.mp member
  obtain ⟨w, there, rfl⟩ := List.mem_map.mp inside
  obtain ⟨isWord, within⟩ := mem_words there
  have absent := not_mem_of_mem_splitAtChar between
  exact ⟨by rwa [String.toList_ofList], by
    rw [String.toList_ofList]
    exact fun bar => absent (within bar)⟩

theorem alternatives_ne_nil (right : List Char) : alternatives right ≠ [] := by
  simp [alternatives, splitAtChar_ne_nil]

theorem Writable.update {rules : RawRules} (writable : Writable rules) {left : List Char}
    (isLeft : IsLeft left) (right : List Char) :
    Writable (rules.update (String.ofList left) [] (· ++ alternatives right)) where
  left := by
    intro e member
    rcases (OrderedMap.mem_entries_put e).mp member with rfl | ⟨earlier, _⟩
    · rwa [String.toList_ofList]
    · exact writable.left e earlier
  filled := by
    intro e member
    rcases (OrderedMap.mem_entries_put e).mp member with rfl | ⟨earlier, _⟩
    · simp [alternatives_ne_nil]
    · exact writable.filled e earlier
  tokens := by
    intro e member alt inside word there
    rcases (OrderedMap.mem_entries_put e).mp member with rfl | ⟨earlier, _⟩
    · rcases List.mem_append.mp inside with old | new
      · obtain ⟨alts, entry, here⟩ := OrderedMap.mem_getD_iff.mp old
        exact writable.tokens _ entry alt here word there
      · exact mem_alternatives new there
    · exact writable.tokens e earlier alt inside word there

/-- A line that is read holds no rule, or one whose alternatives come behind the earlier ones. -/
theorem readLine_cases {rules rules' : RawRules} {line : String}
    (made : readLine rules line = .ok rules') :
    (rules' = rules ∧ ∀ left right, ¬ RuleOn line.toList left right) ∨
      ∃ left right, RuleOn line.toList left right ∧
        rules' = rules.update (String.ofList left) [] (· ++ alternatives right) := by
  dsimp only [readLine] at made
  split at made
  · rename_i skipped
    exact Or.inl ⟨(Except.ok.inj made).symm, not_ruleOn_of_skipped skipped⟩
  · rename_i shown
    cases cut : splitRule (trim line.toList) with
    | error e =>
      rw [cut] at made
      cases made
    | ok parts =>
      rw [cut] at made
      have rule := ruleOn_of_splitRule (Bool.eq_false_iff.mpr shown) cut
      exact Or.inr ⟨parts.1, parts.2, rule, (Except.ok.inj made).symm⟩

theorem writable_readLine {rules rules' : RawRules} (writable : Writable rules) {line : String}
    (made : readLine rules line = .ok rules') : Writable rules' := by
  rcases readLine_cases made with ⟨rfl, _⟩ | ⟨left, right, rule, rfl⟩
  · exact writable
  · exact writable.update rule.isLeft right

theorem writable_foldlM {lines : List String} {rules rules' : RawRules} (writable : Writable rules)
    (made : lines.foldlM readLine rules = .ok rules') : Writable rules' := by
  induction lines generalizing rules with
  | nil => exact Except.ok.inj made ▸ writable
  | cons line rest ih =>
    obtain ⟨next, first, later⟩ := foldlM_cons_eq_ok.mp made
    exact ih (writable_readLine writable first) later

/-- A production whose text is a line with one alternative. -/
structure WritableProduction (p : Production) : Prop where
  left : IsLeft p.lhs.name.toList
  filled : p.rhs ≠ []
  tokens : ∀ s ∈ p.rhs, IsToken s.name

/-- The rules with one more alternative, that of the production. -/
def withProduction (rules : RawRules) (p : Production) : RawRules :=
  rules.update p.lhs.name [] (· ++ [p.rhs.map Symbol.name])

theorem toList_text (p : Production) : p.text.toList =
    p.lhs.name.toList ++ ' ' :: '-' :: '>' :: ' ' ::
      [' '].intercalate (p.rhs.map fun s => s.name.toList) := by
  simp [Production.text, Symbol.joinNames, String.toList_append, Function.comp_def]

namespace WritableProduction

variable {p : Production}

theorem names_ne_nil (writable : WritableProduction p) :
    p.rhs.map (fun s => s.name.toList) ≠ [] := by
  simp [writable.filled]

theorem isWord (writable : WritableProduction p) :
    ∀ w ∈ p.rhs.map (fun s => s.name.toList), IsWord w := by
  intro w member
  obtain ⟨s, there, rfl⟩ := List.mem_map.mp member
  exact (writable.tokens s there).isWord

theorem trimmed_text (writable : WritableProduction p) : Trimmed p.text.toList := by
  obtain ⟨before, w, word, ends⟩ := exists_last_word [' '] writable.names_ne_nil writable.isWord
  have trimmed := writable.left.trimmed.append word.trimmed writable.left.filled word.filled
    (' ' :: '-' :: '>' :: ' ' :: before)
  rw [toList_text, ends]
  exact trimmed

theorem alternatives_text (writable : WritableProduction p) :
    alternatives (' ' :: [' '].intercalate (p.rhs.map fun s => s.name.toList)) =
      [p.rhs.map Symbol.name] := by
  -- no bar on the right: neither a word nor a space between words brings one
  have absent : '|' ∉ ' ' :: [' '].intercalate (p.rhs.map fun s => s.name.toList) := by
    intro bar
    have inWords := (List.mem_cons.mp bar).resolve_left (by decide)
    obtain ⟨w, there, inside⟩ := (mem_intercalate inWords).resolve_left (by decide)
    obtain ⟨s, member, rfl⟩ := List.mem_map.mp there
    exact (writable.tokens s member).whole inside
  have back : (p.rhs.map fun s => s.name.toList).map String.ofList = p.rhs.map Symbol.name := by
    simp [Function.comp_def]
  rw [alternatives, splitAtChar_eq_self absent, List.map_singleton, words_blank (by decide),
    words_intercalate (by decide) writable.isWord, back]

theorem readLine_text (writable : WritableProduction p) (rules : RawRules) :
    readLine rules p.text = .ok (withProduction rules p) := by
  have shown : isSkipped p.text.toList = false := by
    rw [toList_text]
    exact writable.left.shown_append (by simp)
  have cut : splitRule p.text.toList = .ok (p.lhs.name.toList,
      ' ' :: [' '].intercalate (p.rhs.map fun s => s.name.toList)) := by
    have space : ∀ c ∈ [' '], isBlank c = true :=
      List.forall_mem_singleton.mpr (by decide)
    rw [toList_text]
    exact writable.left.splitRule_append space _
  unfold readLine
  rw [writable.trimmed_text.trim_eq, if_neg (by simp [shown]), cut]
  simp only [Except.map, writable.alternatives_text, String.ofList_toList, withProduction]

end WritableProduction

theorem foldlM_readLine_texts {ps : List Production} (each : ∀ p ∈ ps, WritableProduction p)
    (rules : RawRules) :
    (ps.map Production.text).foldlM readLine rules = .ok (ps.foldl withProduction rules) := by
  induction ps generalizing rules with
  | nil => rfl
  | cons p rest ih =>
    rw [List.map_cons, List.foldlM_cons, (each p List.mem_cons_self).readLine_text]
    exact ih (fun q later => each q (List.mem_cons_of_mem p later)) _

theorem isToken_epsilon : IsToken Symbol.epsilon.name := by
  have chars : Symbol.epsilon.name.toList = ['ε'] := by decide
  refine ⟨⟨?_, ?_⟩, ?_⟩
  · simp [chars]
  · intro c member
    rw [chars, List.mem_singleton] at member
    subst member
    decide
  · simp [chars]

theorem wordSymbol_epsilon (rules : RawRules) :
    wordSymbol rules Symbol.epsilon.name = Symbol.epsilon :=
  if_pos (by decide)

theorem wordSymbol_cases (rules : RawRules) (word : String) :
    wordSymbol rules word = Symbol.epsilon ∨ (wordSymbol rules word).name = word := by
  unfold wordSymbol
  split
  · exact Or.inl rfl
  · split <;> exact Or.inr rfl

theorem wordSymbol_name (rules : RawRules) (word : String) :
    wordSymbol rules (wordSymbol rules word).name = wordSymbol rules word := by
  rcases wordSymbol_cases rules word with marker | name
  · rw [marker, wordSymbol_epsilon]
  · rw [name]

theorem IsToken.wordSymbol {word : String} (token : IsToken word) (rules : RawRules) :
    IsToken (wordSymbol rules word).name := by
  rcases wordSymbol_cases rules word with marker | name
  · exact marker ▸ isToken_epsilon
  · exact name.symm ▸ token

/-- The alternatives of an entry, in symbols. -/
def entryAlternatives (rules : RawRules) (e : String × List (List String)) : List (List Symbol) :=
  e.2.map (·.map (wordSymbol rules))

def entryProductions (rules : RawRules) (e : String × List (List String)) : List Production :=
  Grammar.productionsOf (Symbol.nonterminal e.1) (entryAlternatives rules e)

theorem rules_foldl_define (rules : RawRules) (es : List (String × List (List String)))
    (g : Grammar) :
    (es.foldl (fun g e => g.define (Symbol.nonterminal e.1) (entryAlternatives rules e)) g).rules =
      es.foldl (fun m e => m.update (Symbol.nonterminal e.1) [] fun _ => entryProductions rules e)
        g.rules := by
  induction es generalizing g with
  | nil => rfl
  | cons e rest ih => exact ih _

theorem productions_assemble (start : String) (rules : RawRules) :
    (assemble start rules).productions = rules.entries.flatMap (entryProductions rules) := by
  have distinct : (rules.entries.map fun e => Symbol.nonterminal e.1).Nodup := by
    have keys := rules.nodup
    rw [List.Nodup, List.pairwise_map] at keys ⊢
    exact keys.imp fun apart same => apart (congrArg Symbol.name same)
  have entries : (assemble start rules).rules.entries =
      rules.entries.map fun e => (Symbol.nonterminal e.1, entryProductions rules e) := by
    unfold assemble
    refine (congrArg OrderedMap.entries (rules_foldl_define rules _ _)).trans ?_
    exact OrderedMap.entries_foldl_update [] _ distinct (fun _ _ => List.not_mem_nil)
  rw [Grammar.productions, OrderedMap.values, entries, List.map_map, List.flatMap_def]
  rfl

theorem Writable.productions {rules : RawRules} (writable : Writable rules)
    {e : String × List (List String)} (entry : e ∈ rules.entries) :
    ∀ p ∈ entryProductions rules e, WritableProduction p := by
  intro p member
  obtain ⟨alt, inside, rfl⟩ := Grammar.mem_productionsOf.mp member
  obtain ⟨ws, there, rfl⟩ := List.mem_map.mp inside
  refine ⟨writable.left e entry, Grammar.storedAlternative_ne_nil _, ?_⟩
  intro s used
  rcases Grammar.mem_storedAlternative used with rfl | used
  · exact isToken_epsilon
  · obtain ⟨word, here, rfl⟩ := List.mem_map.mp used
    exact (writable.tokens e entry ws there word here).wordSymbol rules

/-- An alternative as the productions of the grammar show it. -/
def shownAlternative (rules : RawRules) (alt : List String) : List String :=
  (Grammar.storedAlternative (alt.map (wordSymbol rules))).map Symbol.name

theorem foldl_entryProductions (rules : RawRules) {e : String × List (List String)}
    (some : e.2 ≠ []) (m : RawRules) :
    (entryProductions rules e).foldl withProduction m =
      m.update e.1 [] (· ++ e.2.map (shownAlternative rules)) := by
  have shown : e.2.map (shownAlternative rules) ≠ [] := by
    simpa using some
  rw [← OrderedMap.foldl_update_append shown, List.foldl_map]
  simp only [entryProductions, entryAlternatives, Grammar.productionsOf, List.foldl_map]
  rfl

/-- What is read from all productions: the same left-hand sides with the shown alternatives. -/
theorem Writable.exists_read {rules : RawRules} (writable : Writable rules) (start : String) :
    ∃ again,
      ((assemble start rules).productions.map Production.text).foldlM readLine ∅ = .ok again ∧
      again.entries = rules.entries.map fun e => (e.1, e.2.map (shownAlternative rules)) := by
  have each : ∀ p ∈ (assemble start rules).productions, WritableProduction p := by
    intro p member
    rw [productions_assemble, List.mem_flatMap] at member
    obtain ⟨e, entry, inside⟩ := member
    exact writable.productions entry p inside
  refine ⟨_, foldlM_readLine_texts each ∅, ?_⟩
  -- the productions of one entry stand together, so its left-hand side comes up only there
  have entrywise : rules.entries.foldl
        (fun m e => (entryProductions rules e).foldl withProduction m) ∅ =
      rules.entries.foldl
        (fun m e => m.update e.1 [] (· ++ e.2.map (shownAlternative rules))) ∅ :=
    List.foldl_ext _ _ _ fun m e entry =>
      foldl_entryProductions rules (writable.filled e entry) m
  rw [productions_assemble, List.foldl_flatMap, entrywise]
  exact OrderedMap.entries_foldl_update [] _ rules.nodup (fun _ _ => List.not_mem_nil)

/-- Symbols are read from their names again, in an alternative that the grammar stores. -/
theorem stored_shownAlternative (rules : RawRules) (alt : List String) :
    Grammar.storedAlternative ((shownAlternative rules alt).map (wordSymbol rules)) =
      Grammar.storedAlternative (alt.map (wordSymbol rules)) := by
  have back : (shownAlternative rules alt).map (wordSymbol rules) =
      Grammar.storedAlternative (alt.map (wordSymbol rules)) := by
    rw [shownAlternative, List.map_map]
    refine (List.map_congr_left ?_).trans (List.map_id _)
    intro s member
    rw [Function.comp_apply, id_eq]
    rcases Grammar.mem_storedAlternative member with rfl | member
    · exact wordSymbol_epsilon rules
    · obtain ⟨word, _, rfl⟩ := List.mem_map.mp member
      exact wordSymbol_name rules word
  rw [back, Grammar.storedAlternative_of_ne_nil (Grammar.storedAlternative_ne_nil _)]

theorem wordSymbol_congr {rules again : RawRules} (keys : again.keys = rules.keys) :
    wordSymbol again = wordSymbol rules := by
  funext word
  have contains : again.contains word = rules.contains word := by
    rw [Bool.eq_iff_iff, OrderedMap.contains_iff, OrderedMap.contains_iff, keys]
  rw [wordSymbol, contains]
  rfl

theorem assemble_shown {rules again : RawRules}
    (entries : again.entries = rules.entries.map fun e => (e.1, e.2.map (shownAlternative rules)))
    (keys : again.keys = rules.keys) (start : String) :
    assemble start again = assemble start rules := by
  unfold assemble
  rw [wordSymbol_congr keys, entries, List.foldl_map]
  refine List.foldl_ext _ _ _ fun g e _ => Grammar.define_congr ?_ g
  simp only [Grammar.productionsOf, List.map_map, Function.comp_def, stored_shownAlternative]

theorem read_of_rules {lines : List String} {rules : RawRules}
    (gathered : lines.foldlM readLine ∅ = .ok rules) (start : String) :
    read start lines =
      if rules.isEmpty then .error .noProductions
      else if rules.contains start then .ok (assemble start rules)
      else .error (.startUndefined start) := by
  simp only [read, gathered]
  change (if rules.isEmpty then _ else _) = _
  split
  · rfl
  · cases defined : rules.contains start <;> rfl

theorem read_eq_ok {start : String} {lines : List String} {g : Grammar} :
    read start lines = .ok g ↔ ∃ rules, lines.foldlM readLine ∅ = .ok rules ∧
      rules.isEmpty = false ∧ rules.contains start = true ∧ g = assemble start rules := by
  constructor
  · intro made
    cases gathered : lines.foldlM readLine ∅ with
    | error e =>
      simp only [read, gathered] at made
      cases made
    | ok rules =>
      rw [read_of_rules gathered] at made
      split at made
      · cases made
      · rename_i filled
        split at made
        · rename_i defined
          exact ⟨rules, rfl, Bool.eq_false_iff.mpr filled, defined, (Except.ok.inj made).symm⟩
        · cases made
  · rintro ⟨rules, gathered, filled, defined, rfl⟩
    rw [read_of_rules gathered, if_neg (by simp [filled]), if_pos defined]

/-- The productions of a grammar that was read, written one a line, are read as the same grammar. -/
theorem read_texts {start : String} {lines : List String} {g : Grammar}
    (made : read start lines = .ok g) :
    read start (g.productions.map Production.text) = .ok g := by
  obtain ⟨rules, gathered, filled, defined, rfl⟩ := read_eq_ok.mp made
  have nothing : Writable ∅ := ⟨nofun, nofun, nofun⟩
  obtain ⟨again, gathered', entries⟩ := (writable_foldlM nothing gathered).exists_read start
  have keys : again.keys = rules.keys := by
    rw [OrderedMap.keys, entries, List.map_map]
    rfl
  refine read_eq_ok.mpr ⟨again, gathered', ?_, ?_, (assemble_shown entries keys start).symm⟩
  · rw [OrderedMap.isEmpty, entries, List.isEmpty_map]
    exact filled
  · rw [OrderedMap.contains_iff, keys]
    exact OrderedMap.contains_iff.mp defined

/-- Rules in several lines, with a comment, names that look like marks, and empty alternatives. -/
def scattered : List String :=
  ["# expressions", "E->E + T | T", "  T -> F |EPS", "a -|->->#", "E -> eps a  //", "F -> a -| |"]

theorem scattered_read_texts : ∃ g, read "E" scattered = .ok g ∧
    g.productions.map Production.text =
      ["E -> E + T", "E -> T", "E -> ε a //", "T -> F", "T -> ε", "a -| -> ->#", "F -> a -",
        "F -> ε", "F -> ε"] ∧
    read "E" (g.productions.map Production.text) = .ok g := by
  have lines : (read "E" scattered).toOption.any (fun g => g.productions.map Production.text =
      ["E -> E + T", "E -> T", "E -> ε a //", "T -> F", "T -> ε", "a -| -> ->#", "F -> a -",
        "F -> ε", "F -> ε"]) = true := by
    decide +kernel
  obtain ⟨g, made, texts⟩ := exists_ok_of_any lines
  exact ⟨g, made, of_decide_eq_true texts, read_texts made⟩

end Notation.Spaced
end TableParsing
