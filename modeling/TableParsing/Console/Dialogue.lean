import TableParsing.Notation.Tokens
import TableParsing.Parser
import TableParsing.Sheet.Layout

/-!
The dialogue of the console. If both engines are available, a line chooses one of them (`T` or `B`)
or ends the dialogue (`Q`); the lines after a choice are inputs, each of which is answered, until a
blank line. With one engine there is nothing to choose, and the first blank line ends the dialogue.
-/

namespace TableParsing.Console
open Notation

inductive Phase where
  | choosing
  | answering (p : Parser)

def answer (p : Parser) (tokens : List Symbol) : String :=
  match p.parse tokens with
  | .ok true => "yes"
  | _ => "no"

/-- The lines printed in a dialogue. After a blank line `resume` tells where it goes on, if it
does. -/
def converse (art : Artifacts) (style : Style) (resume : Option Phase) :
    Phase → List (List Char) → List String
  | _, [] => []
  | .choosing, line :: rest =>
    let choice := String.ofList (Text.trim line)
    if choice = "Q" then []
    else
      let engine := if choice = "T" then "ll1" else if choice = "B" then "slr1" else ""
      match art.parser engine with
      | .ok p => converse art style resume (.answering p) rest
      | .error _ => converse art style resume .choosing rest
  | .answering p, line :: rest =>
    if (Text.trim line).isEmpty then
      match resume with
      | none => []
      | some phase => converse art style resume phase rest
    else
      answer p (tokenize art.grammar style (String.ofList line)) ::
        converse art style resume (.answering p) rest

def dialogue (art : Artifacts) (style : Style) (lines : List (List Char)) : List String :=
  match art.predictive, art.shiftReduce with
  | some _, some _ =>
    "Select a parser(T: for LL(1), B: for SLR(1), Q: quit):" ::
      converse art style (some .choosing) .choosing lines
  | some table, none =>
    "Grammar is LL(1)." ::
      converse art style none (.answering (.predictive art.grammar table)) lines
  | none, some tables =>
    "Grammar is SLR(1)." ::
      converse art style none (.answering (.shiftReduce art.grammar tables)) lines
  | none, none => ["Grammar is neither LL(1) nor SLR(1)."]

def dumpLines (art : Artifacts) : List String :=
  match art.firstFollow with
  | none => []
  | some ff =>
    [Sheet.layout (Sheet.setRows "FIRST" ff.first), "",
      Sheet.layout (Sheet.setRows "FOLLOW" ff.follow)] ++
    (match art.predictive with
      | some table => ["\nLL(1) table", Sheet.layout (Sheet.predictiveRows art.grammar table)]
      | none => []) ++
    (match art.shiftReduce with
      | some t => ["\nACTION", Sheet.layout (Sheet.actionRows art.grammar t),
          "\nGOTO", Sheet.layout (Sheet.gotoRows art.grammar t)]
      | none => [])

end TableParsing.Console
