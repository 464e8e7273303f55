import TableParsing.Analysis

/-!
Parsers: an engine with the tables that it runs on. An analysis provides those whose tables it
could build.
-/

namespace TableParsing

inductive Parser where
  | predictive (g : Grammar) (table : Predictive.Table)
  | shiftReduce (g : Grammar) (tables : ShiftReduce.Tables)

namespace Parser

inductive Error where
  | fault (why : ShiftReduce.Fault)
  | endless
  deriving DecidableEq, Repr

def parse (p : Parser) (tokens : List Symbol) : Except Error Bool :=
  match p with
  | predictive g table =>
    match Predictive.run g table tokens with
    | none => .error .endless
    | some o => .ok (o = .accepted)
  | shiftReduce g tables =>
    match ShiftReduce.run g tables tokens with
    | none => .error .endless
    | some (.faulted why) => .error (.fault why)
    | some o => .ok (o = .accepted)

def result (p : Parser) (withSteps : Bool) (tokens : List Symbol) : Except Error ParseResult :=
  match p with
  | predictive g table =>
    match Predictive.run g table tokens with
    | none => .error .endless
    | some o => .ok (o.result (if withSteps then Predictive.trace g table tokens else []))
  | shiftReduce g tables =>
    match ShiftReduce.run g tables tokens with
    | none => .error .endless
    | some o =>
      (o.result (if withSteps then ShiftReduce.trace g tables tokens else [])).mapError .fault

end Parser

inductive EngineError where
  | notLL1
  | notSLR1
  | unknown (engine : String)
  deriving DecidableEq, Repr

def EngineError.message : EngineError → String
  | notLL1 => "Grammar is not LL(1)"
  | notSLR1 => "Grammar is not SLR(1)"
  | unknown engine => "Unknown engine: " ++ engine

def Artifacts.parser (art : Artifacts) (engine : String) : Except EngineError Parser :=
  if engine = "ll1" then
    match art.predictive with
    | some table => .ok (.predictive art.grammar table)
    | none => .error .notLL1
  else if engine = "slr1" then
    match art.shiftReduce with
    | some tables => .ok (.shiftReduce art.grammar tables)
    | none => .error .notSLR1
  else .error (.unknown engine)

end TableParsing
