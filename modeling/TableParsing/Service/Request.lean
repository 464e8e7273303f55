import TableParsing.Data.Word
import TableParsing.Notation.Tokens
import TableParsing.Service.Value

/-!
Requests to the service and their validation. All members of a request are checked, and all that is
wrong is reported, in the order in which the members are declared. Members that are not declared are
ignored.
-/

namespace TableParsing.Service
open Notation

inductive Problem where
  | missing
  | notObject
  | notList
  | notText
  | notChoice
  | patternMismatch
  | boolUnreadable
  | notBool
  deriving DecidableEq, Repr

def Problem.label : Problem → String
  | missing => "missing"
  | notObject => "model_attributes_type"
  | notList => "list_type"
  | notText => "string_type"
  | notChoice => "literal_error"
  | patternMismatch => "string_pattern_mismatch"
  | boolUnreadable => "bool_parsing"
  | notBool => "bool_type"

structure Detail where
  problem : Problem
  member : Option String
  index : Option Nat
  deriving DecidableEq, Repr

abbrev Checked (α : Type) := Except (List Detail) α

def Checked.both {α β : Type} (a : Checked α) (b : Checked β) : Checked (α × β) :=
  match a, b with
  | .ok x, .ok y => .ok (x, y)
  | .ok _, .error es => .error es
  | .error es, .ok _ => .error es
  | .error es, .error fs => .error (es ++ fs)

abbrev Members := List (String × Value)

def problemIn {α : Type} (name : String) (p : Problem) : Checked α := .error [⟨p, some name, none⟩]

def checkText (name : String) : Value → Checked String
  | .text s => .ok s
  | _ => problemIn name .notText

/-- A truth value. Zero, one and some words in any letter case will do. Of the other integers, those
of the size of a word are misread, and larger ones are of the wrong kind altogether. -/
def checkBool (name : String) : Value → Checked Bool
  | .bool b => .ok b
  | .int 0 => .ok false
  | .int 1 => .ok true
  | .int n => problemIn name (if fitsWord n then .boolUnreadable else .notBool)
  | .text s =>
    let word := String.ofList (s.toList.map Char.toLower)
    if ["0", "off", "f", "false", "n", "no"].contains word then .ok false
    else if ["1", "on", "t", "true", "y", "yes"].contains word then .ok true
    else problemIn name .boolUnreadable
  | _ => problemIn name .notBool

def checkStyle (name : String) : Value → Checked Style
  | .text s =>
    match Style.ofLabel? s with
    | some style => .ok style
    | none => problemIn name .notChoice
  | _ => problemIn name .notChoice

def checkEngines (name : String) : Value → Checked (List String)
  | .text "ll1" => .ok ["ll1"]
  | .text "slr1" => .ok ["slr1"]
  | .text "both" => .ok ["ll1", "slr1"]
  | .text _ => problemIn name .patternMismatch
  | _ => problemIn name .notText

def checkTexts (name : String) : Value → Checked (List String)
  | .list items =>
    let wrong := items.zipIdx.filterMap fun
      | (.text _, _) => none
      | (_, i) => some ⟨.notText, some name, some i⟩
    if wrong.isEmpty then
      .ok (items.filterMap fun
        | .text s => some s
        | _ => none)
    else .error wrong
  | _ => problemIn name .notList

def required {α : Type} (members : Members) (name : String)
    (check : String → Value → Checked α) : Checked α :=
  match Value.member? members name with
  | none => problemIn name .missing
  | some v => check name v

def optional {α : Type} (members : Members) (name : String)
    (check : String → Value → Checked α) : Checked (Option α) :=
  match Value.member? members name with
  | none => .ok none
  | some .null => .ok none
  | some v => (check name v).map some

def withDefault {α : Type} (members : Members) (name : String)
    (check : String → Value → Checked α) (default : α) : Checked α :=
  match Value.member? members name with
  | none => .ok default
  | some v => check name v

structure GrammarRequest where
  lines : List String
  start : Option String
  style : Option Style
  allConflicts : Option Bool
  deriving DecidableEq, Repr

structure AnalyzeRequest where
  grammar : GrammarRequest
  includeWorking : Bool
  includeStates : Bool
  deriving DecidableEq, Repr

structure ParseRequest where
  grammar : GrammarRequest
  input : String
  engines : List String
  trace : Bool
  deriving DecidableEq, Repr

def GrammarRequest.check (members : Members) : Checked GrammarRequest :=
  (((required members "grammar_lines" checkTexts).both
    (optional members "grammar_start" checkText)).both
    ((optional members "notation" checkStyle).both
    (optional members "all_conflicts" checkBool))).map
    fun ((lines, start), style, allConflicts) => { lines, start, style, allConflicts }

def AnalyzeRequest.check (members : Members) : Checked AnalyzeRequest :=
  ((GrammarRequest.check members).both
    ((withDefault members "include_working" checkBool false).both
    (withDefault members "include_states" checkBool false))).map
    fun (grammar, includeWorking, includeStates) => { grammar, includeWorking, includeStates }

def ParseRequest.check (members : Members) : Checked ParseRequest :=
  ((GrammarRequest.check members).both
    ((required members "input" checkText).both
    ((withDefault members "engine" checkEngines ["ll1", "slr1"]).both
    (withDefault members "trace" checkBool true)))).map
    fun (grammar, input, engines, trace) => { grammar, input, engines, trace }

def checkBody {α : Type} (check : Members → Checked α) : Value → Checked α
  | .null => .error [⟨.missing, none, none⟩]
  | .object members => check members
  | _ => .error [⟨.notObject, none, none⟩]

end TableParsing.Service
