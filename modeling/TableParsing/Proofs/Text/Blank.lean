import TableParsing.Text.Blank

/- Text and its blanks. What is trimmed has no blank at its ends and is not changed by trimming, and
   words with spaces between them are read as these words. -/
namespace TableParsing.Text

/-- Neither end of the text is blank. -/
structure Trimmed (cs : List Char) : Prop where
  first : ∀ c ∈ cs.head?, isBlank c = false
  last : ∀ c ∈ cs.getLast?, isBlank c = false

theorem dropLeading_eq_self {kind : Char → Bool} {cs : List Char}
    (first : ∀ c ∈ cs.head?, kind c = false) : dropLeading kind cs = cs := by
  cases cs with
  | nil => rfl
  | cons c rest => exact List.dropWhile_cons_of_neg (by simp [first c rfl])

theorem head_dropLeading {kind : Char → Bool} {cs : List Char} :
    ∀ c ∈ (dropLeading kind cs).head?, kind c = false := by
  intro c atHead
  have stopped := List.head?_dropWhile_not kind cs
  rw [dropLeading, Option.mem_def] at atHead
  rw [atHead] at stopped
  exact stopped

theorem dropTrailing_eq_reverse (kind : Char → Bool) (cs : List Char) :
    dropTrailing kind cs = (dropLeading kind cs.reverse).reverse := rfl

theorem dropTrailing_eq_self {kind : Char → Bool} {cs : List Char}
    (last : ∀ c ∈ cs.getLast?, kind c = false) : dropTrailing kind cs = cs := by
  rw [← List.head?_reverse] at last
  rw [dropTrailing_eq_reverse, dropLeading_eq_self last, List.reverse_reverse]

theorem dropTrailing_isPrefix (kind : Char → Bool) (cs : List Char) :
    dropTrailing kind cs <+: cs := by
  rw [dropTrailing_eq_reverse, ← List.reverse_suffix, List.reverse_reverse]
  exact List.dropWhile_suffix _

theorem dropLeading_append {kind : Char → Bool} {gap : List Char}
    (dropped : ∀ c ∈ gap, kind c = true) (cs : List Char) :
    dropLeading kind (gap ++ cs) = dropLeading kind cs :=
  List.dropWhile_append_of_pos dropped

theorem dropTrailing_append {kind : Char → Bool} {gap : List Char}
    (dropped : ∀ c ∈ gap, kind c = true) (cs : List Char) :
    dropTrailing kind (cs ++ gap) = dropTrailing kind cs := by
  rw [dropTrailing_eq_reverse, List.reverse_append,
    dropLeading_append fun c inside => dropped c (List.mem_reverse.mp inside)]
  rfl

theorem exists_dropLeading (kind : Char → Bool) (cs : List Char) :
    ∃ gap, (∀ c ∈ gap, kind c = true) ∧ cs = gap ++ dropLeading kind cs :=
  ⟨cs.takeWhile kind, List.all_eq_true.mp List.all_takeWhile,
    List.takeWhile_append_dropWhile.symm⟩

theorem exists_dropTrailing (kind : Char → Bool) (cs : List Char) :
    ∃ gap, (∀ c ∈ gap, kind c = true) ∧ cs = dropTrailing kind cs ++ gap := by
  obtain ⟨gap, dropped, split⟩ := exists_dropLeading kind cs.reverse
  refine ⟨gap.reverse, fun c inside => dropped c (List.mem_reverse.mp inside), ?_⟩
  rw [dropTrailing_eq_reverse, ← List.reverse_append, ← split, List.reverse_reverse]

/-- What is trimmed away is blank. -/
theorem exists_trim (cs : List Char) : ∃ indent gap, (∀ c ∈ indent, isBlank c = true) ∧
    (∀ c ∈ gap, isBlank c = true) ∧ cs = indent ++ (trim cs ++ gap) := by
  obtain ⟨indent, before, split⟩ := exists_dropLeading isBlank cs
  obtain ⟨gap, after, split'⟩ := exists_dropTrailing isBlank (dropLeading isBlank cs)
  exact ⟨indent, gap, before, after, by rw [trim, ← split', ← split]⟩

theorem trim_isInfix (cs : List Char) : trim cs <:+: cs :=
  (dropTrailing_isPrefix _ _).isInfix.trans (List.dropWhile_suffix _).isInfix

theorem trim_isPrefix {cs : List Char} (first : ∀ c ∈ cs.head?, isBlank c = false) :
    trim cs <+: cs := by
  rw [trim, dropLeading_eq_self first]
  exact dropTrailing_isPrefix _ _

theorem trimmed_trim (cs : List Char) : Trimmed (trim cs) where
  first := by
    intro c atHead
    obtain ⟨rest, split⟩ := dropTrailing_isPrefix isBlank (dropLeading isBlank cs)
    have atHead' : c ∈ (dropLeading isBlank cs).head? := by
      rw [trim, Option.mem_def] at atHead
      rw [← split, List.head?_append, atHead]
      rfl
    exact head_dropLeading c atHead'
  last := by
    intro c atEnd
    rw [trim, dropTrailing_eq_reverse, List.getLast?_reverse] at atEnd
    exact head_dropLeading c atEnd

namespace Trimmed

variable {cs : List Char}

theorem trim_eq (trimmed : Trimmed cs) : trim cs = cs := by
  rw [trim, dropLeading_eq_self trimmed.first, dropTrailing_eq_self trimmed.last]

theorem first_append (trimmed : Trimmed cs) (filled : cs ≠ []) (more : List Char) :
    ∀ c ∈ (cs ++ more).head?, isBlank c = false := by
  cases cs with
  | nil => exact absurd rfl filled
  | cons d rest => exact trimmed.first

theorem last_append (trimmed : Trimmed cs) (filled : cs ≠ []) (before : List Char) :
    ∀ c ∈ (before ++ cs).getLast?, isBlank c = false := by
  obtain ⟨init, d, rfl⟩ := (List.eq_nil_or_concat cs).resolve_left filled
  have last := trimmed.last
  simp only [List.concat_eq_append, ← List.append_assoc, List.getLast?_concat] at last ⊢
  exact last

theorem trim_padded (trimmed : Trimmed cs) (filled : cs ≠ []) {indent gap : List Char}
    (before : ∀ c ∈ indent, isBlank c = true) (after : ∀ c ∈ gap, isBlank c = true) :
    trim (indent ++ (cs ++ gap)) = cs := by
  have first := trimmed.first_append filled gap
  rw [trim, dropLeading_append before, dropLeading_eq_self first, dropTrailing_append after,
    dropTrailing_eq_self trimmed.last]

/-- What lies between two texts without blanks at their outer ends does not matter. -/
theorem append {left right : List Char} (before : Trimmed left) (after : Trimmed right)
    (filled : left ≠ []) (filled' : right ≠ []) (between : List Char) :
    Trimmed (left ++ (between ++ right)) where
  first := before.first_append filled (between ++ right)
  last := by
    rw [← List.append_assoc]
    exact after.last_append filled' (left ++ between)

end Trimmed

/-- A text that is read as one word. -/
structure IsWord (w : List Char) : Prop where
  filled : w ≠ []
  solid : ∀ c ∈ w, isBlank c = false

theorem IsWord.trimmed {w : List Char} (word : IsWord w) : Trimmed w where
  first := fun _ atHead => word.solid _ (List.mem_of_mem_head? atHead)
  last := fun _ atEnd => word.solid _ (List.mem_of_mem_getLast? atEnd)

theorem foldr_gatherWord {w : List Char} (solid : ∀ c ∈ w, isBlank c = false)
    (state : List Char × List (List Char)) :
    w.foldr gatherWord state = (w ++ state.1, state.2) := by
  induction w with
  | nil => rfl
  | cons c rest ih =>
    have plain := solid c List.mem_cons_self
    rw [List.foldr_cons, ih fun d later => solid d (List.mem_cons_of_mem c later)]
    simp [gatherWord, plain]

theorem foldr_gatherWord_blank {b : Char} (blank : isBlank b = true) (cs : List Char) :
    (b :: cs).foldr gatherWord ([], []) = ([], words cs) := by
  simp [gatherWord, blank, words]

theorem words_blank {b : Char} (blank : isBlank b = true) (cs : List Char) :
    words (b :: cs) = words cs := by
  rw [words, foldr_gatherWord_blank blank]
  rfl

theorem words_self {w : List Char} (word : IsWord w) : words w = [w] := by
  rw [words, foldr_gatherWord word.solid]
  simp [word.filled]

theorem words_append {w : List Char} (word : IsWord w) {b : Char} (blank : isBlank b = true)
    (cs : List Char) : words (w ++ b :: cs) = w :: words cs := by
  rw [words, List.foldr_append, foldr_gatherWord_blank blank, foldr_gatherWord word.solid]
  simp [word.filled]

theorem words_intercalate {b : Char} (blank : isBlank b = true) {ws : List (List Char)}
    (each : ∀ w ∈ ws, IsWord w) : words ([b].intercalate ws) = ws := by
  induction ws with
  | nil => rfl
  | cons w rest ih =>
    have word := each w List.mem_cons_self
    cases rest with
    | nil =>
      rw [List.intercalate_singleton]
      exact words_self word
    | cons next more =>
      rw [List.intercalate_cons_cons, List.append_assoc, List.singleton_append,
        words_append word blank, ih fun v later => each v (List.mem_cons_of_mem w later)]

theorem mem_intercalate {between : List Char} {ws : List (List Char)} {c : Char}
    (member : c ∈ between.intercalate ws) : c ∈ between ∨ ∃ w ∈ ws, c ∈ w := by
  induction ws with
  | nil => exact absurd member List.not_mem_nil
  | cons w rest ih =>
    cases rest with
    | nil =>
      rw [List.intercalate_singleton] at member
      exact Or.inr ⟨w, List.mem_cons_self, member⟩
    | cons next more =>
      rw [List.intercalate_cons_cons, List.mem_append, List.mem_append] at member
      rcases member with (here | space) | later
      · exact Or.inr ⟨w, List.mem_cons_self, here⟩
      · exact Or.inl space
      · refine (ih later).imp_right ?_
        rintro ⟨v, there, inside⟩
        exact ⟨v, List.mem_cons_of_mem w there, inside⟩

theorem exists_last_word (between : List Char) {ws : List (List Char)} (some : ws ≠ [])
    (each : ∀ w ∈ ws, IsWord w) : ∃ before w, IsWord w ∧ between.intercalate ws = before ++ w := by
  induction ws with
  | nil => exact absurd rfl some
  | cons w rest ih =>
    cases rest with
    | nil => exact ⟨[], w, each w List.mem_cons_self, List.intercalate_singleton⟩
    | cons next more =>
      obtain ⟨before, last, word, split⟩ :=
        ih (List.cons_ne_nil next more) fun v later => each v (List.mem_cons_of_mem w later)
      refine ⟨w ++ between ++ before, last, word, ?_⟩
      rw [List.intercalate_cons_cons, split, List.append_assoc _ before]

/-- The text consists of these words, with blanks between any two of them. -/
inductive Separated : List Char → List (List Char) → Prop where
  | blank {gap : List Char} (blank : ∀ c ∈ gap, isBlank c = true) : Separated gap []
  | word {gap w rest : List Char} {ws : List (List Char)}
      (blank : ∀ c ∈ gap, isBlank c = true) (word : IsWord w)
      (ends : ∀ c ∈ rest.head?, isBlank c = true) (later : Separated rest ws) :
      Separated (gap ++ (w ++ rest)) (w :: ws)

namespace Separated

variable {cs : List Char} {ws : List (List Char)}

theorem cons (separated : Separated cs ws) {b : Char} (blank : isBlank b = true) :
    Separated (b :: cs) ws := by
  cases separated with
  | blank gap => exact .blank (List.forall_mem_cons.mpr ⟨blank, gap⟩)
  | word gap word ends later => exact .word (List.forall_mem_cons.mpr ⟨blank, gap⟩) word ends later

theorem isWord (separated : Separated cs ws) : ∀ w ∈ ws, IsWord w ∧ w ⊆ cs := by
  induction separated with
  | blank => exact nofun
  | word _ word _ _ ih =>
    intro v member
    rcases List.mem_cons.mp member with rfl | later
    · exact ⟨word, fun c inside => by simp [inside]⟩
    · exact ⟨(ih v later).1, fun c inside => by simp [(ih v later).2 inside]⟩

end Separated

/-- While words are gathered from the right, the text is the open one, which has no blank, and what
the closed ones are in. -/
structure Gathered (cs : List Char) (state : List Char × List (List Char)) : Prop where
  opened : ∀ c ∈ state.1, isBlank c = false
  closed : ∃ rest, cs = state.1 ++ rest ∧ (∀ c ∈ rest.head?, isBlank c = true) ∧
    Separated rest state.2

namespace Gathered

variable {cs : List Char} {state : List Char × List (List Char)}

theorem close (gathered : Gathered cs state) :
    Separated cs (if state.1.isEmpty then state.2 else state.1 :: state.2) := by
  obtain ⟨opened, rest, rfl, ends, later⟩ := gathered
  split
  · rename_i empty
    rw [List.isEmpty_iff.mp empty]
    exact later
  · rename_i filled
    have word : IsWord state.1 := ⟨fun empty => filled (List.isEmpty_iff.mpr empty), opened⟩
    exact .word (List.forall_mem_nil _) word ends later

theorem step (gathered : Gathered cs state) (d : Char) :
    Gathered (d :: cs) (gatherWord d state) := by
  unfold gatherWord
  split
  · rename_i blank
    exact ⟨nofun, d :: cs, rfl, by simpa using blank, gathered.close.cons blank⟩
  · rename_i plain
    obtain ⟨opened, rest, rfl, ends, later⟩ := gathered
    exact ⟨List.forall_mem_cons.mpr ⟨Bool.eq_false_iff.mpr plain, opened⟩, rest, rfl, ends, later⟩

end Gathered

theorem gathered_foldr (cs : List Char) : Gathered cs (cs.foldr gatherWord ([], [])) := by
  induction cs with
  | nil => exact ⟨nofun, [], rfl, nofun, .blank nofun⟩
  | cons d rest ih => exact ih.step d

theorem words_gap {gap : List Char} (blank : ∀ c ∈ gap, isBlank c = true) (cs : List Char) :
    words (gap ++ cs) = words cs := by
  induction gap with
  | nil => rfl
  | cons b rest ih =>
    obtain ⟨first, others⟩ := List.forall_mem_cons.mp blank
    rw [List.cons_append, words_blank first, ih others]

theorem Separated.words_eq {cs : List Char} {ws : List (List Char)}
    (separated : Separated cs ws) : words cs = ws := by
  induction separated with
  | blank gap =>
    have same := words_gap gap []
    rwa [List.append_nil] at same
  | @word _ w rest _ gap word ends _ ih =>
    rw [words_gap gap]
    cases rest with
    | nil => rw [List.append_nil, words_self word, ← ih]; rfl
    | cons b more =>
      have blank := ends b rfl
      rw [words_append word blank, ← ih, words_blank blank]

/-- A text is cut into words in one way. -/
theorem words_eq_iff {cs : List Char} {ws : List (List Char)} :
    words cs = ws ↔ Separated cs ws := by
  constructor
  · rintro rfl
    exact (gathered_foldr cs).close
  · exact Separated.words_eq

theorem mem_words {cs w : List Char} (member : w ∈ words cs) : IsWord w ∧ w ⊆ cs :=
  (words_eq_iff.mp rfl).isWord w member

end TableParsing.Text
