import TableParsing.Notation.Compact
import TableParsing.Notation.Spaced
import TableParsing.Parser
import TableParsing.Service.Request
import TableParsing.Service.Target
import TableParsing.Settings
import TableParsing.Sheet.Rows

/-!
The routes of the service and their answers. A request that is refused has a status of its own and
says why.
-/

namespace TableParsing.Service
open Notation

inductive Payload where
  | data (v : Value)
  | page (html : String)

structure Response where
  status : Nat
  payload : Payload

inductive Refusal where
  | notFound
  | methodNotAllowed
  | malformed (details : List Detail)
  | badGrammar (e : Notation.Error)
  | illFormed (messages : List String)
  | tooLong (limit : Int)
  | engineFailed (e : Parser.Error)

namespace Refusal

def status : Refusal → Nat
  | notFound => 404
  | methodNotAllowed => 405
  | malformed _ => 422
  | badGrammar _ => 400
  | illFormed _ => 400
  | tooLong _ => 413
  | engineFailed _ => 500

def detailValue (d : Detail) : Value :=
  .object [("type", .text d.problem.label),
    ("loc", .list (.text "body" :: ((d.member.map Value.text).toList ++
      (d.index.map fun i => Value.int i).toList)))]

def detail : Refusal → Value
  | notFound => .text "Not Found"
  | methodNotAllowed => .text "Method Not Allowed"
  | malformed details => .list (details.map detailValue)
  | badGrammar e => .text e.message
  | illFormed messages => .text ("; ".intercalate messages)
  | tooLong limit => .text ("Input longer than " ++ toString limit ++ " symbols")
  | engineFailed _ => .text "Internal Server Error"

def response (r : Refusal) : Response := ⟨r.status, .data (.object [("detail", r.detail)])⟩

end Refusal

def styleOf (settings : Settings) (req : GrammarRequest) : Style := req.style.getD settings.style

def grammarOf (settings : Settings) (req : GrammarRequest) : Except Notation.Error Grammar :=
  match styleOf settings req with
  | .compact => Compact.read req.lines req.start
  | .spaced =>
    match req.start with
    | none => .error .startRequired
    | some start => if start = "" then .error .startRequired else Spaced.read start req.lines

def analysisOf (settings : Settings) (req : GrammarRequest) : Except Refusal Artifacts :=
  match grammarOf settings req with
  | .error e => .error (.badGrammar e)
  | .ok g =>
    .ok (analyze (Settings.onConflict (req.allConflicts.getD settings.allConflicts)) g)

/-- An object whose members are named after symbols; of two symbols of one name the last counts. -/
def bySymbolName (entries : List (Symbol × Value)) : Value :=
  .object (OrderedMap.ofList (entries.map fun e => (e.1.name, e.2))).entries

def symbolNames (ss : List Symbol) : Value := .texts (ss.map Symbol.name)

def setsValue (sets : SymbolSets) : Value :=
  bySymbolName (sets.entries.map fun e => (e.1, symbolNames e.2.toList))

def passesValue (passes : List PassLog) : Value :=
  .list (passes.map fun p => bySymbolName (p.entries.map fun e => (e.1, symbolNames e.2)))

def rowsValue (rows : Sheet.Rows) : Value := .list (rows.map Value.texts)

def valueOrNull {α : Type} (f : α → Value) : Option α → Value
  | none => .null
  | some a => f a

def workingValue (g : Grammar) : Value :=
  let first := firstSetsLogged g
  let follow := followSetsLogged g first.1
  .object [("first_passes", passesValue first.2), ("follow_passes", passesValue follow.2)]

def grammarValue (g : Grammar) : Value :=
  .object [("start", .text g.start.name),
    ("nonterminals", symbolNames g.nonterminals.toList),
    ("terminals", symbolNames g.terminals.toList),
    ("productions", .texts (g.productions.map Production.text))]

def diagnosticValue (d : Diagnostic) : Value :=
  .object [("severity", .text d.severity.label), ("stage", .textOrNull d.stage),
    ("message", .text d.message), ("hint", .textOrNull d.hint)]

def analyzeRoute (settings : Settings) (req : AnalyzeRequest) : Except Refusal Value := do
  let art ← analysisOf settings req.grammar
  let g := art.grammar
  let ff := art.firstFollow
  let states := if req.includeStates then
      art.shiftReduce.toList.map fun t => ("states", rowsValue (Sheet.stateRows t))
    else []
  return .object ([("grammar", grammarValue g),
    ("classification", .text art.classification),
    ("is_ll1", .bool art.isLL1),
    ("is_slr1", .bool art.isSLR1),
    ("first", valueOrNull (fun ff => setsValue ff.first) ff),
    ("follow", valueOrNull (fun ff => setsValue ff.follow) ff),
    ("working", if req.includeWorking && ff.isSome then workingValue g else .null),
    ("ll1_table", valueOrNull (fun t => rowsValue (Sheet.predictiveRows g t)) art.predictive),
    ("action", valueOrNull (fun t => rowsValue (Sheet.actionRows g t)) art.shiftReduce),
    ("goto", valueOrNull (fun t => rowsValue (Sheet.gotoRows g t)) art.shiftReduce),
    ("conflicts", .object [
      ("ll1", .texts (art.predictiveConflicts.map Predictive.Conflict.message)),
      ("slr1", .texts (art.shiftReduceConflicts.map ShiftReduce.Conflict.message))]),
    ("diagnostics", .list (art.diagnostics.map diagnosticValue))] ++ states)

def snapshotValue (s : Snapshot) : Value :=
  .object [("stack", .texts s.stack), ("remaining_input", .texts s.remaining),
    ("action", .text s.action)]

def engineValue (art : Artifacts) (trace : Bool) (tokens : List Symbol) (engine : String) :
    Except Refusal Value :=
  match art.parser engine with
  | .error e => .ok (.object [("available", .bool false), ("error", .text e.message)])
  | .ok p =>
    match p.result trace tokens with
    | .error e => .error (.engineFailed e)
    | .ok r => .ok (.object [("available", .bool true), ("accepted", .bool r.accepted),
        ("error", .textOrNull r.error), ("steps", .list (r.steps.map snapshotValue))])

def parseRoute (settings : Settings) (req : ParseRequest) : Except Refusal Value := do
  let art ← analysisOf settings req.grammar
  if art.firstFollow.isNone then
    throw (.illFormed (art.diagnostics.map Diagnostic.message))
  let tokens := tokenize art.grammar (styleOf settings req.grammar) req.input
  if (tokens.length : Int) > settings.maxTokens then throw (.tooLong settings.maxTokens)
  let results ← req.engines.mapM fun engine => do
    return (engine, ← engineValue art req.trace tokens engine)
  return .object [("classification", .text art.classification),
    ("input", symbolNames tokens), ("results", .object results)]

def indexPage : String :=
  "<h2>LL(1) / SLR(1) Grammar Lab API</h2>" ++
  "<p>POST <code>/api/analyze</code> with JSON: " ++
  "<code>\x7b\"grammar_lines\": [\"S -> aSb e\"]\x7d</code></p>" ++
  "<p>POST <code>/api/parse</code> with an extra <code>input</code> field.</p>"

def answerBody {α : Type} (check : Members → Checked α) (route : α → Except Refusal Value)
    (body : Value) : Response :=
  match checkBody check body with
  | .error details => (Refusal.malformed details).response
  | .ok req =>
    match route req with
    | .error r => r.response
    | .ok v => ⟨200, .data v⟩

inductive Method where
  | get
  | post
  | other
  deriving DecidableEq, Repr

inductive Route where
  | index
  | health
  | analyze
  | parse
  | schema
  | documentation
  | signIn
  | reference
  deriving DecidableEq, Repr

namespace Route

def all : List Route := [index, health, analyze, parse, schema, documentation, signIn, reference]

def path : Route → String
  | index => "/"
  | health => "/health"
  | analyze => "/api/analyze"
  | parse => "/api/parse"
  | schema => "/openapi.json"
  | documentation => "/docs"
  | signIn => "/docs/oauth2-redirect"
  | reference => "/redoc"

def method : Route → Method
  | analyze => .post
  | parse => .post
  | _ => .get

/-- The route of a path. One line end after the path does no harm. -/
def ofPath? (cs : List Char) : Option Route :=
  let line := if cs.getLast? = some '\n' then cs.dropLast else cs
  all.find? (·.path.toList = line)

/-- The route that a path leads to: slashes at its end are dropped if they are in the way. -/
def find? (cs : List Char) : Option Route :=
  match ofPath? cs with
  | some r => some r
  | none =>
    if cs.getLast? = some '/' then ofPath? (Text.dropTrailing (· == '/') cs) else none

/-- The answer of a route to a request with its method. What describes the service is left empty
here. -/
def answer (settings : Settings) (body : Value) : Route → Response
  | index => ⟨200, .page indexPage⟩
  | health => ⟨200, .data (.object [("status", .text "ok")])⟩
  | analyze => answerBody AnalyzeRequest.check (analyzeRoute settings) body
  | parse => answerBody ParseRequest.check (parseRoute settings) body
  | schema => ⟨200, .data (.object [])⟩
  | _ => ⟨200, .page ""⟩

end Route

def respond (settings : Settings) (method : Method) (target : String) (body : Value) :
    Except Target.Error Response := do
  match Route.find? (← Target.path target) with
  | none => return Refusal.notFound.response
  | some route =>
    if route.method = method then return route.answer settings body
    else return Refusal.methodNotAllowed.response

end TableParsing.Service
