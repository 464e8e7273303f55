import TableParsing.Grammar.Basic
import TableParsing.Text.Blank

/-!
Input texts as symbols. In the compact notation every character that is not blank is a symbol, in
the spaced notation every word is one. A piece that names no declared symbol is a terminal of its
own name.
-/

namespace TableParsing.Notation
open Text

inductive Style where
  | compact
  | spaced
  deriving DecidableEq, Repr

def Style.label : Style → String
  | compact => "compact"
  | spaced => "spaced"

def Style.ofLabel? (name : String) : Option Style :=
  if name = "compact" then some .compact else if name = "spaced" then some .spaced else none

def pieces : Style → List Char → List String
  | .compact, cs => (cs.filter (!isBlank ·)).map String.singleton
  | .spaced, cs => (words cs).map String.ofList

def pieceSymbol (g : Grammar) (piece : String) : Symbol :=
  (g.lookup piece).getD (Symbol.terminal piece)

def tokenize (g : Grammar) (style : Style) (text : String) : List Symbol :=
  (pieces style text.toList).map (pieceSymbol g)

end TableParsing.Notation
