/-!
Diagnostics: what an analysis has to say, in the order in which it was found.
-/

namespace TableParsing

inductive Severity where
  | info
  | warning
  | error
  deriving DecidableEq, Repr

def Severity.label : Severity → String
  | info => "INFO"
  | warning => "WARNING"
  | error => "ERROR"

structure Diagnostic where
  severity : Severity
  message : String
  stage : Option String
  hint : Option String
  deriving DecidableEq, Repr

namespace Diagnostic

def text (d : Diagnostic) : String := "[" ++ d.severity.label ++ "] " ++ d.message

def info (message : String) (stage : Option String) : Diagnostic := ⟨.info, message, stage, none⟩

def error (message : String) (stage hint : Option String) : Diagnostic :=
  ⟨.error, message, stage, hint⟩

def anyError (ds : List Diagnostic) : Bool := ds.any (·.severity = .error)

end Diagnostic
end TableParsing
