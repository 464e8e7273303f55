import Mathlib.Data.List.Find
import Mathlib.Data.List.Forall2
import TableParsing.Notation.Tokens
import TableParsing.ParseResult
import TableParsing.Proofs.Notation.Written

/- Input texts as symbols. What a piece of the text becomes has the name of this piece, and it is a
   declared terminal if there is one of this name. In a grammar that was read a terminal is known by
   its name, and its name is one piece, so a text of such names is read as the terminals themselves. -/
namespace TableParsing.Notation
open Text

section Lookup

variable {g : Grammar} {name : String}

theorem lookup_name {s : Symbol} (found : g.lookup name = some s) : s.name = name := by
  unfold Grammar.lookup at found
  split at found
  · rename_i declared
    cases found
    simpa using List.find?_some declared
  · split at found
    · rename_i same
      cases found
      exact same.symm
    · cases found

/-- A terminal of the name is found before anything else. -/
theorem exists_lookup {t : Symbol} (member : t ∈ g.terminals) :
    ∃ s ∈ g.terminals, g.lookup t.name = some s := by
  have found : (g.terminals.toList.find? (·.name == t.name)).isSome = true :=
    List.find?_isSome.mpr ⟨t, member, beq_self_eq_true t.name⟩
  obtain ⟨s, first⟩ := Option.isSome_iff_exists.mp found
  refine ⟨s, List.mem_of_find?_eq_some first, ?_⟩
  rw [Grammar.lookup, List.find?_append, first]
  rfl

theorem pieceSymbol_name (g : Grammar) (piece : String) : (pieceSymbol g piece).name = piece := by
  unfold pieceSymbol
  cases found : g.lookup piece with
  | none => rfl
  | some s => exact lookup_name found

theorem pieceSymbol_mem_terminals (g : Grammar) (piece : String) :
    pieceSymbol g piece ∈ g.terminals ↔ ∃ t ∈ g.terminals, t.name = piece := by
  constructor
  · intro member
    exact ⟨_, member, pieceSymbol_name g piece⟩
  · rintro ⟨t, member, rfl⟩
    obtain ⟨s, declared, found⟩ := exists_lookup member
    rwa [pieceSymbol, found]

end Lookup

/-- The grammar was read in this notation. -/
inductive ReadIn (g : Grammar) : Style → Prop where
  | compact {lines : List String} {start : Option String} (made : Compact.read lines start = .ok g) :
      ReadIn g .compact
  | spaced {start : String} {lines : List String} (made : Spaced.read start lines = .ok g) :
      ReadIn g .spaced

/-- The text falls into these pieces. -/
def Pieces : Style → List Char → List String → Prop
  | .compact, cs, names => names = (cs.filter (!isBlank ·)).map String.singleton
  | .spaced, cs, names => Separated cs (names.map String.toList)

/-- The text in which the names of these symbols stand in a row. -/
def joined : Style → List Symbol → String
  | .compact, w => String.join (w.map Symbol.name)
  | .spaced, w => Symbol.joinNames w

/-- A name that is a piece of its own. -/
def IsPiece : Style → String → Prop
  | .compact, name => ∃ c, isBlank c = false ∧ name = String.singleton c
  | .spaced, name => IsWord name.toList

theorem pieces_spec (style : Style) (cs : List Char) : Pieces style cs (pieces style cs) := by
  cases style with
  | compact => rfl
  | spaced =>
    have back : ((words cs).map String.ofList).map String.toList = words cs := by
      simp [Function.comp_def]
    rw [Pieces, pieces, back]
    exact words_eq_iff.mp rfl

theorem pieces_joined {style : Style} {w : List Symbol} (each : ∀ t ∈ w, IsPiece style t.name) :
    pieces style (joined style w).toList = w.map Symbol.name := by
  cases style with
  | compact =>
    simp only [pieces, joined, String.toList_join]
    induction w with
    | nil => rfl
    | cons t rest ih =>
      obtain ⟨⟨c, solid, name⟩, later⟩ := List.forall_mem_cons.mp each
      simp only [List.map_cons, List.flatMap_cons, List.filter_append, List.map_append, ih later]
      simp [name, solid]
  | spaced =>
    have text : (joined .spaced w).toList = [' '].intercalate (w.map fun t => t.name.toList) := by
      simp [joined, Symbol.joinNames, Function.comp_def]
    have word : ∀ cs ∈ w.map (fun t => t.name.toList), IsWord cs := by
      intro cs member
      obtain ⟨t, there, rfl⟩ := List.mem_map.mp member
      exact each t there
    rw [pieces, text, words_intercalate (by decide) word]
    simp [Function.comp_def]

theorem Compact.isPiece_of_terminal {lines : List String} {start : Option String} {g : Grammar}
    (made : read lines start = .ok g) {t : Symbol} (member : t ∈ g.terminals) :
    t = Symbol.terminal t.name ∧ IsPiece .compact t.name := by
  have d := declared_read made
  obtain ⟨⟨p, listed, used⟩, shown, foreign⟩ := (d.mem_terminals t).mp member
  obtain ⟨_, line, _, _, written, _⟩ := (mem_productions_read made).mp listed
  obtain ⟨left, right, ws, w, _, separated, inside, rfl⟩ := written
  obtain ⟨c, here, rfl⟩ := List.mem_map.mp used
  have solid := (separated.isWord w inside).1.solid c here
  rcases charSymbol_cases c with marker | named | plain
  · exact absurd marker shown
  · have known := d.named _ listed _ used (congrArg Symbol.kind named)
    exact absurd known foreign
  · rw [plain]
    exact ⟨rfl, c, solid, rfl⟩

theorem exists_of_forall₂ {α β : Type} {R : α → β → Prop} {xs : List α} {ys : List β}
    (related : List.Forall₂ R xs ys) {y : β} (member : y ∈ ys) : ∃ x ∈ xs, R x y := by
  obtain ⟨i, bound, rfl⟩ := List.getElem_of_mem member
  have bound' : i < xs.length := related.length_eq ▸ bound
  exact ⟨_, List.get_mem xs ⟨i, bound'⟩, related.get bound' bound⟩

theorem Spaced.isPiece_of_terminal {start : String} {lines : List String} {g : Grammar}
    (made : read start lines = .ok g) {t : Symbol} (member : t ∈ g.terminals) :
    t = Symbol.terminal t.name ∧ IsPiece .spaced t.name := by
  have d := declared_read made
  obtain ⟨⟨p, listed, used⟩, shown, foreign⟩ := (d.mem_terminals t).mp member
  obtain ⟨line, _, left, right, ws, alt, _, alternative, denotes, rfl⟩ :=
    (mem_productions_read made).mp listed
  have written := (Grammar.mem_storedAlternative used).resolve_left shown
  obtain ⟨word, inside, denoted⟩ := exists_of_forall₂ denotes written
  obtain ⟨w, there, rfl⟩ := List.mem_map.mp inside
  obtain ⟨_, _, _, part, _, separated⟩ := alternative
  have isWord := (separated.isWord w there).1
  cases denoted with
  | epsilon => exact absurd rfl shown
  | nonterminal => exact absurd (d.named _ listed _ used rfl) foreign
  | terminal =>
    refine ⟨rfl, ?_⟩
    change IsWord (String.ofList w).toList
    rwa [String.toList_ofList]

namespace ReadIn

variable {g : Grammar} {style : Style} (read : ReadIn g style)
include read

theorem isPiece_of_terminal {t : Symbol} (member : t ∈ g.terminals) :
    t = Symbol.terminal t.name ∧ IsPiece style t.name := by
  cases read with
  | compact made => exact Compact.isPiece_of_terminal made member
  | spaced made => exact Spaced.isPiece_of_terminal made member

theorem pieceSymbol_terminal {t : Symbol} (member : t ∈ g.terminals) :
    pieceSymbol g t.name = t := by
  obtain ⟨s, declared, found⟩ := exists_lookup member
  have same := lookup_name found
  rw [pieceSymbol, found, Option.getD_some, (read.isPiece_of_terminal declared).1, same,
    ← (read.isPiece_of_terminal member).1]

theorem tokenize_joined {w : List Symbol} (known : ∀ t ∈ w, t ∈ g.terminals) :
    tokenize g style (joined style w) = w := by
  have each : ∀ t ∈ w, IsPiece style t.name :=
    fun t member => (read.isPiece_of_terminal (known t member)).2
  rw [tokenize, pieces_joined each, List.map_map]
  refine (List.map_congr_left ?_).trans (List.map_id w)
  intro t member
  exact read.pieceSymbol_terminal (known t member)

end ReadIn

theorem names_tokenize (g : Grammar) (style : Style) (text : String) :
    (tokenize g style text).map Symbol.name = pieces style text.toList := by
  simp [tokenize, Function.comp_def, pieceSymbol_name]

/-- A token that the text brings is declared if its name is that of a terminal. -/
theorem mem_terminals_of_tokenize {g : Grammar} {style : Style} {text : String} {t : Symbol}
    (member : t ∈ tokenize g style text) :
    t ∈ g.terminals ↔ ∃ s ∈ g.terminals, s.name = t.name := by
  obtain ⟨piece, _, rfl⟩ := List.mem_map.mp member
  rw [pieceSymbol_mem_terminals, pieceSymbol_name]

theorem undeclared?_tokenize (g : Grammar) (style : Style) (text : String) :
    undeclared? g (tokenize g style text) = (tokenize g style text).find? fun t =>
      !(g.terminals.toList.map Symbol.name).contains t.name := by
  refine List.find?_congr ?_
  intro t member
  rw [Bool.not_inj_iff, Bool.eq_iff_iff, Grammar.isTerminal, decide_eq_true_eq,
    mem_terminals_of_tokenize member, List.contains_iff_mem, List.mem_map]
  rfl

/-- What a grammar that was read makes of an input text: the tokens have the names of the pieces, in
their order; a token is a declared terminal exactly if its piece names one, so the first symbol that
is complained about is the first whose piece does not; and the text of some terminals is read as these
terminals. -/
theorem tokenize_faithful {g : Grammar} {style : Style} (read : ReadIn g style) :
    (∀ text : String,
      Pieces style text.toList ((tokenize g style text).map Symbol.name) ∧
      (∀ t ∈ tokenize g style text, t ∈ g.terminals ↔ ∃ s ∈ g.terminals, s.name = t.name) ∧
      undeclared? g (tokenize g style text) = (tokenize g style text).find? fun t =>
        !(g.terminals.toList.map Symbol.name).contains t.name) ∧
    ∀ w : List Symbol, (∀ t ∈ w, t ∈ g.terminals) → tokenize g style (joined style w) = w := by
  constructor
  · intro text
    refine ⟨?_, fun t member => mem_terminals_of_tokenize member, undeclared?_tokenize g style text⟩
    rw [names_tokenize]
    exact pieces_spec style text.toList
  · exact fun w known => read.tokenize_joined known

/-- Terminals that are called like the end marker, like the start symbol and like the marker of the
empty alternative. -/
def misnamed : List String := ["A -> $aε e"]

theorem misnamed_tokens : ∃ g, Compact.read misnamed (some "a") = .ok g ∧
    g.start = Symbol.nonterminal "a" ∧ tokenize g .compact "$aε" =
      [Symbol.terminal "$", Symbol.terminal "a", Symbol.terminal "ε"] := by
  have known : (Compact.read misnamed (some "a")).toOption.any (fun g =>
      g.start = Symbol.nonterminal "a" ∧ ∀ t ∈
        [Symbol.terminal "$", Symbol.terminal "a", Symbol.terminal "ε"], t ∈ g.terminals) = true := by
    decide +kernel
  obtain ⟨g, made, facts⟩ := exists_ok_of_any known
  obtain ⟨start, declared⟩ := of_decide_eq_true facts
  exact ⟨g, made, start, (tokenize_faithful (.compact made)).2 _ declared⟩

end TableParsing.Notation
