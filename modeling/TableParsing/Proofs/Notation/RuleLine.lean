import TableParsing.Notation.RuleLine
import TableParsing.Proofs.Text.Blank

/- What a rule line is cut into, and which texts can stand on its left: those are read back when an
   arrow with a space before it is put behind them. -/
namespace TableParsing.Notation
open Text

/-- There is no arrow in the text. -/
def Arrowless (cs : List Char) : Prop := ¬ ['-', '>'] <:+: cs

theorem Arrowless.of_isInfix {part cs : List Char} (arrowless : Arrowless cs)
    (within : part <:+: cs) : Arrowless part :=
  fun arrow => arrowless (arrow.trans within)

theorem arrowless_cons {c : Char} {cs : List Char} :
    Arrowless (c :: cs) ↔ ¬ ['-', '>'] <+: c :: cs ∧ Arrowless cs := by
  simp only [Arrowless, List.infix_cons_iff, not_or]

theorem cutArrow_cons {c : Char} {cs : List Char} (other : ¬ ['-', '>'] <+: c :: cs) :
    cutArrow (c :: cs) = (cutArrow cs).map fun r => (c :: r.1, r.2) := by
  rw [cutArrow]
  rintro rest rfl rfl
  exact other ⟨rest, rfl⟩

theorem Arrowless.append_blank {k gap : List Char} (arrowless : Arrowless k)
    (blank : ∀ c ∈ gap, isBlank c = true) : Arrowless (k ++ gap) := by
  have plain : ∀ c, isBlank c = false → c ∉ gap := by
    intro c solid inside
    rw [blank c inside] at solid
    cases solid
  induction k with
  | nil =>
    intro arrow
    exact plain '-' (by decide) (arrow.subset List.mem_cons_self)
  | cons c rest ih =>
    obtain ⟨other, later⟩ := arrowless_cons.mp arrowless
    refine arrowless_cons.mpr ⟨?_, ih later⟩
    cases rest with
    | nil =>
      rintro arrow
      have head := (List.cons_prefix_cons.mp arrow).2
      exact plain '>' (by decide) (head.subset List.mem_cons_self)
    | cons d more => simpa using other

theorem Arrowless.cutArrow_append {left : List Char} (arrowless : Arrowless left)
    (right : List Char) : cutArrow (left ++ '-' :: '>' :: right) = some (left, right) := by
  induction left with
  | nil => rfl
  | cons c rest ih =>
    obtain ⟨other, later⟩ := arrowless_cons.mp arrowless
    have other' : ¬ ['-', '>'] <+: c :: (rest ++ '-' :: '>' :: right) := by
      cases rest with
      | nil => simp
      | cons d more => simpa using other
    rw [List.cons_append, cutArrow_cons other', ih later]
    rfl

theorem cutArrow_eq_some {cs left right : List Char} (cut : cutArrow cs = some (left, right)) :
    Arrowless left ∧ cs = left ++ '-' :: '>' :: right := by
  fun_induction cutArrow cs generalizing left with
  | case1 => cases cut
  | case2 cs =>
    cases cut
    exact ⟨by simp [Arrowless], rfl⟩
  | case3 c cs other ih =>
    obtain ⟨⟨left', right'⟩, cut', same⟩ := Option.map_eq_some_iff.mp cut
    cases same
    obtain ⟨arrowless, rfl⟩ := ih cut'
    refine ⟨arrowless_cons.mpr ⟨?_, arrowless⟩, rfl⟩
    intro arrow
    obtain ⟨rest, shape⟩ := arrow.trans (List.prefix_append (c :: left') ('-' :: '>' :: right'))
    obtain ⟨head, later⟩ := List.cons_eq_cons.mp shape
    exact other rest head.symm later.symm

theorem splitAtChar_ne_nil (sep : Char) (cs : List Char) : splitAtChar sep cs ≠ [] := by
  fun_cases splitAtChar sep cs <;> simp

theorem not_mem_of_mem_splitAtChar {sep : Char} {cs part : List Char}
    (member : part ∈ splitAtChar sep cs) : sep ∉ part := by
  induction cs generalizing part with
  | nil =>
    obtain rfl := List.mem_singleton.mp member
    exact List.not_mem_nil
  | cons c rest ih =>
    rw [splitAtChar] at member
    split at member
    · rcases List.mem_cons.mp member with rfl | member
      · exact List.not_mem_nil
      · exact ih member
    · rename_i apart
      have apart' : sep ≠ c := fun same => apart (beq_iff_eq.mpr same.symm)
      split at member
      · obtain rfl := List.mem_singleton.mp member
        simpa using apart'
      · rename_i whole first others split
        rw [split] at ih
        rcases List.mem_cons.mp member with rfl | member
        · have absent := ih List.mem_cons_self
          simp [apart', absent]
        · exact ih (List.mem_cons_of_mem first member)

theorem intercalate_splitAtChar (sep : Char) (cs : List Char) :
    [sep].intercalate (splitAtChar sep cs) = cs := by
  induction cs with
  | nil => rfl
  | cons c rest ih =>
    obtain ⟨first, others, split⟩ := List.exists_cons_of_ne_nil (splitAtChar_ne_nil sep rest)
    rw [split] at ih
    rw [splitAtChar, split]
    split
    · rename_i same
      rw [List.intercalate_cons_cons, ih, beq_iff_eq.mp same]
      rfl
    · cases others with
      | nil =>
        rw [List.intercalate_singleton] at ih ⊢
        rw [ih]
      | cons next more =>
        rw [List.intercalate_cons_cons, List.append_assoc] at ih ⊢
        rw [List.cons_append, ih]

theorem splitAtChar_append {sep : Char} {part : List Char} (absent : sep ∉ part)
    (cs : List Char) : splitAtChar sep (part ++ sep :: cs) = part :: splitAtChar sep cs := by
  induction part with
  | nil => exact if_pos (beq_self_eq_true sep)
  | cons c rest ih =>
    obtain ⟨apart, absent'⟩ := not_or.mp (absent ∘ List.mem_cons.mpr)
    rw [List.cons_append, splitAtChar, if_neg (by simpa using Ne.symm apart), ih absent']

theorem splitAtChar_eq_self {sep : Char} {part : List Char} (absent : sep ∉ part) :
    splitAtChar sep part = [part] := by
  induction part with
  | nil => rfl
  | cons c rest ih =>
    obtain ⟨apart, absent'⟩ := not_or.mp (absent ∘ List.mem_cons.mpr)
    rw [splitAtChar, if_neg (by simpa using Ne.symm apart), ih absent']

theorem splitAtChar_intercalate {sep : Char} {parts : List (List Char)} (some : parts ≠ [])
    (absent : ∀ part ∈ parts, sep ∉ part) :
    splitAtChar sep ([sep].intercalate parts) = parts := by
  induction parts with
  | nil => exact absurd rfl some
  | cons part rest ih =>
    obtain ⟨whole, later⟩ := List.forall_mem_cons.mp absent
    cases rest with
    | nil => rw [List.intercalate_singleton, splitAtChar_eq_self whole]
    | cons next more =>
      rw [List.intercalate_cons_cons, List.append_assoc, List.singleton_append,
        splitAtChar_append whole, ih (List.cons_ne_nil next more) later]

/-- A text is divided at a character in one way. -/
theorem splitAtChar_eq_iff {sep : Char} {cs : List Char} {parts : List (List Char)} :
    splitAtChar sep cs = parts ↔
      parts ≠ [] ∧ (∀ part ∈ parts, sep ∉ part) ∧ [sep].intercalate parts = cs := by
  constructor
  · rintro rfl
    exact ⟨splitAtChar_ne_nil sep cs, fun _ member => not_mem_of_mem_splitAtChar member,
      intercalate_splitAtChar sep cs⟩
  · rintro ⟨some, absent, rfl⟩
    exact splitAtChar_intercalate some absent

/-- What can stand on the left of a rule. -/
structure IsLeft (k : List Char) : Prop where
  filled : k ≠ []
  trimmed : Trimmed k
  arrowless : Arrowless k
  shown : isSkipped k = false

theorem isSkipped_cons (c : Char) (cs : List Char) :
    isSkipped (c :: cs) = (c == '#' || c == '/' && cs.head? == some '/') := by
  unfold isSkipped
  split
  case h_1 empty => cases empty
  case h_2 hash =>
    cases hash
    rfl
  case h_3 slashes =>
    cases slashes
    rfl
  case h_4 notHash notSlashes =>
    have apart : c ≠ '#' := fun same => notHash cs (same ▸ rfl)
    have single : c = '/' → cs.head? ≠ some '/' := by
      intro first second
      obtain ⟨more, rfl⟩ := List.head?_eq_some_iff.mp second
      exact notSlashes more (first ▸ rfl)
    symm
    simpa [apart] using single

theorem isSkipped_of_isPrefix {part line : List Char} (filled : part ≠ []) (starts : part <+: line)
    (skipped : isSkipped part = true) : isSkipped line = true := by
  obtain ⟨rest, rfl⟩ := starts
  unfold isSkipped at skipped
  split at skipped
  · exact absurd rfl filled
  · rfl
  · rfl
  · cases skipped

namespace IsLeft

variable {k : List Char}

theorem shown_append (left : IsLeft k) {more : List Char} (other : more.head? ≠ some '/') :
    isSkipped (k ++ more) = false := by
  obtain ⟨c, rest, rfl⟩ := List.exists_cons_of_ne_nil left.filled
  have shown := left.shown
  rw [isSkipped_cons] at shown
  rw [List.cons_append, isSkipped_cons]
  cases rest with
  | nil => simpa [other] using shown
  | cons d more => exact shown

theorem splitRule_append (left : IsLeft k) {gap : List Char}
    (blank : ∀ c ∈ gap, isBlank c = true) (right : List Char) :
    splitRule (k ++ (gap ++ '-' :: '>' :: right)) = .ok (k, right) := by
  have bare : trim (k ++ gap) = k :=
    left.trimmed.trim_padded left.filled (List.forall_mem_nil _) blank
  unfold splitRule
  rw [← List.append_assoc, (left.arrowless.append_blank blank).cutArrow_append]
  simp only [bare]
  rw [if_neg]
  simpa using left.filled

end IsLeft

/-- A rule stands on a line: blanks aside, the line is the left-hand side, the first arrow and the
text of the alternatives, and it is no comment. -/
structure RuleOn (line left right : List Char) : Prop where
  isLeft : IsLeft left
  ends : ∀ c ∈ right.getLast?, isBlank c = false
  shape : ∃ indent between after, (∀ c ∈ indent, isBlank c = true) ∧
    (∀ c ∈ between, isBlank c = true) ∧ (∀ c ∈ after, isBlank c = true) ∧
    line = indent ++ ((left ++ (between ++ '-' :: '>' :: right)) ++ after)

namespace RuleOn

variable {line left right : List Char}

theorem trim_eq (rule : RuleOn line left right) : ∃ between, (∀ c ∈ between, isBlank c = true) ∧
    trim line = left ++ (between ++ '-' :: '>' :: right) := by
  obtain ⟨indent, between, after, before, inner, behind, rfl⟩ := rule.shape
  have tip : ∀ c ∈ some '>', isBlank c = false := by
    intro c atTip
    obtain rfl := Option.mem_some.mp atTip
    decide
  have last : ∀ c ∈ ('>' :: right).getLast?, isBlank c = false := by
    cases right with
    | nil => exact tip
    | cons c rest => simpa using rule.ends
  have trimmed : Trimmed ('>' :: right) := ⟨tip, last⟩
  have whole := rule.isLeft.trimmed.append trimmed rule.isLeft.filled (List.cons_ne_nil _ _)
    (between ++ ['-'])
  rw [List.append_assoc, List.singleton_append] at whole
  exact ⟨between, inner, whole.trim_padded (by simp [rule.isLeft.filled]) before behind⟩

theorem shown (rule : RuleOn line left right) : isSkipped (trim line) = false := by
  obtain ⟨between, inner, trimmed⟩ := rule.trim_eq
  rw [trimmed]
  refine rule.isLeft.shown_append ?_
  cases between with
  | nil => simp
  | cons c rest =>
    intro slash
    have blank := inner c List.mem_cons_self
    rw [Option.some.inj slash] at blank
    exact absurd blank (by decide)

theorem splitRule_eq (rule : RuleOn line left right) :
    splitRule (trim line) = .ok (left, right) := by
  obtain ⟨between, inner, trimmed⟩ := rule.trim_eq
  rw [trimmed, rule.isLeft.splitRule_append inner]

theorem unique {left' right' : List Char} (rule : RuleOn line left right)
    (other : RuleOn line left' right') : left = left' ∧ right = right' := by
  have same := rule.splitRule_eq.symm.trans other.splitRule_eq
  exact Prod.mk.inj (Except.ok.inj same)

end RuleOn

theorem not_ruleOn_of_skipped {line : List Char} (skipped : isSkipped (trim line) = true)
    (left right : List Char) : ¬ RuleOn line left right := by
  intro rule
  rw [rule.shown] at skipped
  cases skipped

theorem ruleOn_of_splitRule {line left right : List Char} (shown : isSkipped (trim line) = false)
    (cut : splitRule (trim line) = .ok (left, right)) : RuleOn line left right := by
  unfold splitRule at cut
  split at cut
  · cases cut
  · rename_i before after found
    split at cut
    · cases cut
    · rename_i filled
      cases cut
      obtain ⟨arrowless, split⟩ := cutArrow_eq_some found
      have trimmed := trimmed_trim line
      have starts : before <+: trim line := split ▸ List.prefix_append _ _
      have first : ∀ c ∈ before.head?, isBlank c = false := by
        intro c atHead
        refine trimmed.first c ?_
        rw [split, List.head?_append, Option.mem_def.mp atHead]
        rfl
      have filled' : trim before ≠ [] := fun empty => filled (List.isEmpty_iff.mpr empty)
      refine ⟨⟨filled', trimmed_trim before, arrowless.of_isInfix (trim_isInfix before), ?_⟩, ?_, ?_⟩
      · -- a comment mark at the head of the left-hand side would have been one of the line
        refine Bool.eq_false_iff.mpr fun skipped => ?_
        rw [isSkipped_of_isPrefix filled' ((trim_isPrefix first).trans starts) skipped] at shown
        cases shown
      · intro c atEnd
        refine trimmed.last c ?_
        rw [split, List.getLast?_append]
        cases right with
        | nil => cases atEnd
        | cons d rest => simpa using atEnd
      · obtain ⟨indent, gap, leads, trails, whole⟩ := exists_trim line
        obtain ⟨between, inner, parts⟩ := exists_dropTrailing isBlank before
        have bare : trim before = dropTrailing isBlank before := by
          rw [trim, dropLeading_eq_self first]
        refine ⟨indent, between, gap, leads, inner, trails, ?_⟩
        rw [bare, ← List.append_assoc _ between, ← parts, ← split]
        exact whole

/-- The rule on a line is what is read there. -/
theorem ruleOn_iff {line left right : List Char} : RuleOn line left right ↔
    isSkipped (trim line) = false ∧ splitRule (trim line) = .ok (left, right) :=
  ⟨fun rule => ⟨rule.shown, rule.splitRule_eq⟩, fun read => ruleOn_of_splitRule read.1 read.2⟩

end TableParsing.Notation
