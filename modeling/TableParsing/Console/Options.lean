import TableParsing.Settings

/-!
The command line of the console: `[--spaced START] [--all-conflicts] [--dump] [grammar-file]`. Each
option counts once; what is left over after the first file is ignored.
-/

namespace TableParsing.Console

structure Options where
  /-- The start symbol of a grammar in the spaced style; the compact style if absent. -/
  spacedStart : Option String
  allConflicts : Bool
  dump : Bool
  file : Option String
  deriving DecidableEq, Repr

def usage : String :=
  "Usage: python -m parselab.cli [--spaced START] [--all-conflicts] [--dump] [grammar-file]"

/-- The arguments before the first `--spaced` with those after its value, and the value, if there is
one. -/
def takeSpaced : List String → Option (Option String × List String)
  | [] => some (none, [])
  | "--spaced" :: rest =>
    match rest with
    | [] => none
    | start :: others => some (some start, others)
  | arg :: rest => (takeSpaced rest).map fun r => (r.1, arg :: r.2)

def Options.read (args : List String) : Option Options :=
  (takeSpaced args).map fun (spacedStart, args) =>
    let allConflicts := args.contains "--all-conflicts"
    let args := args.erase "--all-conflicts"
    let dump := args.contains "--dump"
    let args := args.erase "--dump"
    { spacedStart, allConflicts, dump, file := args.head? }

end TableParsing.Console
