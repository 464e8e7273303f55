import TableParsing.Notation.Compact
import TableParsing.Notation.Spaced

/-!
The forms in which a grammar can be given: as lines in either notation, as a stream in the compact
notation that begins with the number of rules, or as rules made of symbols.
-/

namespace TableParsing

inductive GrammarSource where
  | compact (lines : List String) (start : Option String)
  | spaced (start : String) (lines : List String)
  | stream (text : String)
  | rules (start : Symbol) (rules : List (Symbol × List (List Symbol)))

namespace GrammarSource

inductive Error where
  | text (e : Notation.Error)
  | rules (e : Grammar.Error)
  deriving DecidableEq, Repr

def read : GrammarSource → Except Error Grammar
  | compact lines start => (Notation.Compact.read lines start).mapError .text
  | spaced start lines => (Notation.Spaced.read start lines).mapError .text
  | stream text => (Notation.Compact.readStream (Text.keepEnds text.toList)).1.mapError .text
  | rules start given => (Grammar.ofRules start given).mapError .rules

end GrammarSource
end TableParsing
