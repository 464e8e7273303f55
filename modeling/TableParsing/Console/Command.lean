import TableParsing.Console.Dialogue
import TableParsing.Console.Options
import TableParsing.FileTree
import TableParsing.Notation.Compact
import TableParsing.Notation.Spaced

/-!
The console command: it reads a grammar from a file or from the standard input, reports what is
wrong with it or what was asked for, and holds the dialogue on the lines that are left.
-/

namespace TableParsing.Console
open Notation

structure Output where
  code : Nat
  text : String
  deriving DecidableEq, Repr

inductive Error where
  | settings (e : Settings.Error)
  | nullCharacter
  deriving DecidableEq, Repr

def printed (lines : List String) : String := String.join (lines.map (· ++ "\n"))

def failure (message : String) : Output := ⟨1, printed ["[ERROR] " ++ message]⟩

/-- The grammar of a source text, and the lines of the source that it leaves. The spaced style takes
the whole text. -/
def readGrammar (spacedStart : Option String) (source : List Char) :
    Except Notation.Error Grammar × List (List Char) :=
  match spacedStart with
  | some start => (Spaced.read start ((Text.splitLines source).map String.ofList), [])
  | none => Compact.readStream (Text.keepEnds source)

def report (options : Options) (mode : OnConflict) (g : Grammar) (lines : List (List Char)) :
    Output :=
  let art := analyze mode g
  let diagnostics := art.diagnostics.map Diagnostic.text
  match art.firstFollow with
  | none => ⟨1, printed diagnostics⟩
  | some _ =>
    let style := if options.spacedStart.isSome then Style.spaced else .compact
    let shown := if options.dump then diagnostics ++ dumpLines art else []
    ⟨0, printed (shown ++ dialogue art style lines)⟩

def run (args : List String) (stdin : String) (readFile : String → Except FileTree.Error String)
    (env : Settings.Environment) : Except Error Output := do
  let settings ← (Settings.ofEnvironment env).mapError .settings
  match Options.read args with
  | none => return ⟨2, printed [usage]⟩
  | some options =>
    let mode := Settings.onConflict (options.allConflicts || settings.allConflicts)
    match options.file.map (readFile ∘ FileTree.normalize) with
    | some (.error .nullCharacter) => throw .nullCharacter
    | some (.error e) => return failure ("Cannot read grammar file: " ++ e.message)
    | some (.ok text) =>
      match (readGrammar options.spacedStart (Text.unifyNewlines text.toList)).1 with
      | .error e => return failure e.message
      | .ok g => return report options mode g (Text.keepEnds stdin.toList)
    | none =>
      match readGrammar options.spacedStart stdin.toList with
      | (.error e, _) => return failure e.message
      | (.ok g, rest) => return report options mode g rest

end TableParsing.Console
