import Mathlib.Algebra.Order.Ring.Nat
import Mathlib.Data.List.Forall2
import TableParsing.Proofs.Data.Collections
import TableParsing.Proofs.Notation.RuleLine
import TableParsing.Sheet.Layout

/- Rows as lines. In the line of a row each cell stands at the place of its column, which is the
   same for all rows, and nothing but blanks is missing at the end of the line. So the cells can be
   read back from the lines, up to the blanks at their ends. -/
namespace TableParsing.Sheet
open Text Notation

variable {rows : Rows} {row : List String} {cell : String} {c : Nat}

/-- Where a column begins: behind the columns before it, each with the two blanks after it. -/
def columnStart (rows : Rows) (c : Nat) : Nat :=
  ((List.range c).map fun k => columnWidth rows k + 2).sum

/-- The width of a line with all its columns and the blanks between them. -/
def fullWidth (rows : Rows) : Nat := columnStart rows (rows.headD []).length - 2

/-- What a line, filled up with blanks, has at the place of a column. -/
def cutColumn (rows : Rows) (line : List Char) (c : Nat) : List Char :=
  ((padCell (fullWidth rows) (String.ofList line)).drop (columnStart rows c)).take
    (columnWidth rows c)

/-- Some row has more cells than the first one. -/
def Overlong (rows : Rows) : Prop := ∃ row ∈ rows, (rows.headD []).length < row.length

/-- The length of the longest cell of a column. -/
structure Widest (rows : Rows) (c width : Nat) : Prop where
  fits : ∀ row ∈ rows, ∀ cell, row[c]? = some cell → cell.length ≤ width
  attained : ∃ row ∈ rows, ∃ cell, row[c]? = some cell ∧ cell.length = width

theorem length_le_columnWidth (member : row ∈ rows) (here : row[c]? = some cell) :
    cell.length ≤ columnWidth rows c := by
  refine foldl_max_le.2 _ (List.mem_map.mpr ⟨row, member, ?_⟩)
  rw [here]
  rfl

/-- Every column of the first row has a longest cell. -/
theorem widest_columnWidth (filled : rows ≠ []) (column : c < (rows.headD []).length) :
    Widest rows c (columnWidth rows c) where
  fits := fun _ member _ here => length_le_columnWidth member here
  attained := by
    obtain ⟨first, rest, rfl⟩ := List.exists_cons_of_ne_nil filled
    have inside : first ∈ first :: rest := List.mem_cons_self
    by_cases wide : columnWidth (first :: rest) c = 0
    · -- all cells of the column are empty, that of the first row too
      have there : first[c]? = some first[c] := List.getElem?_eq_getElem column
      have narrow := length_le_columnWidth inside there
      exact ⟨first, inside, first[c], there, by omega⟩
    · have longest := foldl_max_mem.resolve_left wide
      obtain ⟨row, member, width⟩ := List.mem_map.mp longest
      cases here : row[c]? with
      | none =>
        rw [here] at width
        exact absurd width.symm wide
      | some cell =>
        rw [here] at width
        exact ⟨row, member, cell, here, width⟩

theorem length_padCell {width : Nat} (fits : cell.length ≤ width) :
    (padCell width cell).length = width := by
  have length : cell.toList.length = cell.length := String.length_toList
  rw [padCell, List.length_append, List.length_replicate, length]
  omega

theorem trimRight_padCell (width : Nat) (cell : String) :
    trimRight (padCell width cell) = trimRight cell.toList :=
  dropTrailing_append (fun _ inside => List.eq_of_mem_replicate inside ▸ rfl) _

/-- Blanks behind a text do not matter for what is cut out of it. -/
theorem trimRight_cut {gap : List Char} (blank : ∀ d ∈ gap, isBlank d = true) (line : List Char)
    (place width : Nat) :
    trimRight (((line ++ gap).drop place).take width) =
      trimRight ((line.drop place).take width) := by
  rw [List.drop_append, List.take_append]
  exact dropTrailing_append
    (fun d inside => blank d (List.mem_of_mem_drop (List.mem_of_mem_take inside))) _

/-- Where a piece stands in a row of pieces. -/
theorem exists_before_piece {between piece : List Char} {pieces : List (List Char)}
    (here : pieces[c]? = some piece) :
    ∃ before after, between.intercalate pieces = before ++ (piece ++ after) ∧
      before.length = ((pieces.take c).map fun p => p.length + between.length).sum := by
  induction pieces generalizing c with
  | nil => cases here
  | cons first rest ih =>
    cases c with
    | zero =>
      obtain rfl := Option.some.inj here
      cases rest with
      | nil => exact ⟨[], [], by simp, rfl⟩
      | cons next more =>
        refine ⟨[], between ++ between.intercalate (next :: more), ?_, rfl⟩
        rw [List.intercalate_cons_cons, List.append_assoc, List.nil_append]
    | succ c =>
      obtain ⟨before, after, split, length⟩ := ih here
      cases rest with
      | nil => cases here
      | cons next more =>
        refine ⟨first ++ between ++ before, after, ?_, ?_⟩
        · rw [List.intercalate_cons_cons, split, List.append_assoc _ before]
        · simp only [List.length_append, length, List.take_succ_cons, List.map_cons, List.sum_cons]

/-- The cells of a row, filled up to the widths of their columns. -/
def paddedCells (rows : Rows) (row : List String) : List (List Char) :=
  row.zipIdx.map fun (cell, c) => padCell (columnWidth rows c) cell

theorem getElem?_paddedCells (c : Nat) :
    (paddedCells rows row)[c]? = row[c]?.map (padCell (columnWidth rows c)) := by
  simp [paddedCells, List.getElem?_zipIdx, Function.comp_def]

theorem joinCells_eq (short : row.length ≤ (rows.headD []).length) :
    joinCells (columnWidths rows) row = [' ', ' '].intercalate (paddedCells rows row) := by
  refine congrArg _ (List.map_congr_left ?_)
  rintro ⟨cell, c⟩ member
  have bound : c < row.length := by
    simpa using (List.mem_zipIdx member).2.1
  have width : (columnWidths rows)[c]? = some (columnWidth rows c) := by
    rw [columnWidths, List.getElem?_map, List.getElem?_range (by omega)]
    rfl
  dsimp only
  rw [width]
  rfl

theorem sum_paddedCells (member : row ∈ rows) (column : c < row.length) :
    (((paddedCells rows row).take c).map fun p => p.length + 2).sum = columnStart rows c := by
  refine congrArg List.sum (List.ext_getElem? fun k => ?_)
  rw [List.getElem?_map, List.getElem?_map]
  by_cases before : k < c
  · have there := List.getElem?_eq_getElem (Nat.lt_trans before column)
    rw [List.getElem?_take_of_lt before, getElem?_paddedCells, there, List.getElem?_range before]
    exact congrArg (fun n => some (n + 2)) (length_padCell (length_le_columnWidth member there))
  · rw [List.getElem?_eq_none (by simp; omega), List.getElem?_eq_none (by simpa using before)]
    rfl

/-- The line of a row has each cell of the row at the place of its column. -/
theorem trimRight_cutColumn (member : row ∈ rows) (short : row.length ≤ (rows.headD []).length)
    (here : row[c]? = some cell) :
    trimRight (cutColumn rows (layoutRow (columnWidths rows) row).toList c) =
      trimRight cell.toList := by
  rw [layoutRow, String.toList_ofList]
  have column : c < row.length := (List.getElem?_eq_some_iff.mp here).1
  have padded : (paddedCells rows row)[c]? = some (padCell (columnWidth rows c) cell) := by
    rw [getElem?_paddedCells, here]
    rfl
  obtain ⟨before, after, split, start⟩ := @exists_before_piece c [' ', ' '] _ _ padded
  have place : before.length = columnStart rows c := start.trans (sum_paddedCells member column)
  generalize joined : joinCells (columnWidths rows) row = line
  rw [joinCells_eq short, split] at joined
  obtain ⟨gap, blank, whole⟩ : ∃ gap, (∀ d ∈ gap, isBlank d = true) ∧
      line = trimRight line ++ gap := exists_dropTrailing isBlank line
  have filler : ∀ n, ∀ d ∈ List.replicate n ' ', isBlank d = true :=
    fun _ _ inside => List.eq_of_mem_replicate inside ▸ rfl
  rw [cutColumn, padCell, String.toList_ofList]
  calc trimRight (((trimRight line ++ _).drop (columnStart rows c)).take (columnWidth rows c))
      = trimRight (((trimRight line).drop (columnStart rows c)).take (columnWidth rows c)) :=
        trimRight_cut (filler _) _ _ _
    _ = trimRight ((line.drop (columnStart rows c)).take (columnWidth rows c)) := by
        rw [← trimRight_cut blank, ← whole]
    _ = trimRight (padCell (columnWidth rows c) cell) := by
        rw [← joined, ← place, List.drop_left,
          List.take_left' (length_padCell (length_le_columnWidth member here))]
    _ = trimRight cell.toList := trimRight_padCell _ _

theorem newline_not_mem_layoutRow (clean : ∀ cell ∈ row, '\n' ∉ cell.toList) (widths : List Nat) :
    '\n' ∉ (layoutRow widths row).toList := by
  intro inside
  rw [layoutRow, String.toList_ofList] at inside
  have joined := (dropTrailing_isPrefix _ _).subset inside
  rcases mem_intercalate joined with blank | ⟨piece, member, inside⟩
  · exact absurd blank (by decide)
  · obtain ⟨⟨cell, c⟩, there, rfl⟩ := List.mem_map.mp member
    have known : cell ∈ row := List.fst_mem_of_mem_zipIdx there
    rcases List.mem_append.mp inside with own | filler
    · exact clean cell known own
    · exact absurd (List.eq_of_mem_replicate filler) (by decide)

theorem splitAtChar_layout (some : rows ≠ [])
    (clean : ∀ row ∈ rows, ∀ cell ∈ row, '\n' ∉ cell.toList) :
    splitAtChar '\n' (layout rows).toList =
      rows.map fun row => (layoutRow (columnWidths rows) row).toList := by
  have text : (layout rows).toList =
      ['\n'].intercalate (rows.map fun row => (layoutRow (columnWidths rows) row).toList) := by
    simp [layout, Function.comp_def]
  rw [text]
  refine splitAtChar_intercalate (by simpa using some) ?_
  intro line member
  obtain ⟨row, there, rfl⟩ := List.mem_map.mp member
  exact newline_not_mem_layoutRow (clean row there) _

theorem overlong_iff :
    rows.any (fun r => r.length > (rows.headD []).length) = true ↔ Overlong rows := by
  simp [Overlong]

/-- Rows without line ends in their cells cannot be set exactly if one of them is longer than the
first. Else there is one line for every row, and each cell of the row is at the place of its column
in that line, up to the blanks at its end; a column is as wide as its longest cell. -/
theorem rendered_cells (filled : rows ≠ [])
    (clean : ∀ row ∈ rows, ∀ cell ∈ row, '\n' ∉ cell.toList) :
    (render rows = .error .rowTooLong ↔ Overlong rows) ∧
    (¬ Overlong rows → ∃ text, render rows = .ok text ∧
      List.Forall₂ (fun line row => ∀ c cell, row[c]? = some cell →
        trimRight (cutColumn rows line c) = trimRight cell.toList)
        (splitAtChar '\n' text.toList) rows) ∧
    ∀ c < (rows.headD []).length, Widest rows c (columnWidth rows c) := by
  refine ⟨?_, ?_, fun c column => widest_columnWidth filled column⟩
  · rw [← overlong_iff, render]
    split <;> simp_all
  · intro short
    refine ⟨layout rows, if_neg (overlong_iff.not.mpr short), ?_⟩
    rw [splitAtChar_layout filled clean, List.forall₂_map_left_iff, List.forall₂_same]
    intro row member c cell here
    have fits : row.length ≤ (rows.headD []).length := by
      simp only [Overlong, not_exists, not_and, Nat.not_lt] at short
      exact short row member
    exact trimRight_cutColumn member fits here

/-- A row that lacks a column, empty cells, and cells that end with blanks. -/
def ragged : Rows := [["ab", "", "c "], ["", "d\t"], ["efg"]]

/-- The second line lacks the blank at the end of its second cell, and its third column. -/
theorem ragged_rendered : ragged ≠ [] ∧ (∀ row ∈ ragged, ∀ cell ∈ row, '\n' ∉ cell.toList) ∧
    ¬ Overlong ragged ∧ ∃ text first second third, render ragged = .ok text ∧
      splitAtChar '\n' text.toList = [first, second, third] ∧
      trimRight (cutColumn ragged first 2) = ['c'] ∧
      trimRight (cutColumn ragged second 1) = ['d'] := by
  have clean : ∀ row ∈ ragged, ∀ cell ∈ row, '\n' ∉ cell.toList := by decide
  have short : ¬ Overlong ragged := by simp [Overlong, ragged]
  obtain ⟨_, lines, _⟩ := rendered_cells (List.cons_ne_nil _ _) clean
  obtain ⟨text, rendered, cells⟩ := lines short
  generalize parts : splitAtChar '\n' text.toList = read at cells
  obtain _ | ⟨first, _ | ⟨second, _ | ⟨third, ⟨⟩⟩⟩⟩ := cells
  exact ⟨List.cons_ne_nil _ _, clean, short, text, _, _, _, rendered, parts,
    first 2 "c " rfl, second 1 "d\t" rfl⟩

end TableParsing.Sheet
