import TableParsing.Console.Command

/-!
The console program.
-/

namespace TableParsing.Console

def variableNames : List String :=
  ["PARSELAB_NOTATION", "PARSELAB_ALL_CONFLICTS", "PARSELAB_MAX_TOKENS", "PARSELAB_CORS_ORIGINS"]

def environment : IO Settings.Environment := do
  let values ← variableNames.mapM fun name => return (← IO.getEnv name).map (name, ·)
  return values.filterMap id

def fileText (path : String) : IO (Except FileTree.Error String) := do
  try
    return .ok (← IO.FS.readFile path)
  catch
    | .noFileOrDirectory .. => return .error (.missing path)
    | .inappropriateType _ code _ =>
      return .error (if code = 21 then .isDirectory path else .notDirectory path)
    | _ => return .error (.missing path)

partial def remainingText (stream : IO.FS.Stream) : IO String := do
  let line ← stream.getLine
  if line.isEmpty then return ""
  return line ++ (← remainingText stream)

end TableParsing.Console

open TableParsing in
def main (args : List String) : IO UInt32 := do
  let file := (Console.Options.read args).bind Console.Options.file
  let text ← Console.fileText (FileTree.normalize (file.getD ""))
  let stdin ← Console.remainingText (← IO.getStdin)
  match Console.run args stdin (fun _ => text) (← Console.environment) with
  | .ok output =>
    IO.print output.text
    return output.code.toUInt32
  | .error (.settings (.unreadableLimit text why)) =>
    IO.eprintln (Settings.misreadMessage text why)
    return 1
  | .error (.settings (.invalid _)) =>
    IO.eprintln "Settings are out of bounds."
    return 1
  | .error .nullCharacter =>
    IO.eprintln FileTree.Error.nullCharacter.message
    return 1
