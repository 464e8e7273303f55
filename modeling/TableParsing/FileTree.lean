import TableParsing.Notation.RuleLine
import TableParsing.Text.Quoted

/-!
A working directory with the files in it, as the front ends see it: what a path leads to, what is
said when it leads nowhere, and how directories are made and files are written.

A place is a list of names, downward from the working directory. For a place outside, `..` stands
before the names for each level above the working directory, or `/` for the root.
-/

namespace TableParsing

/-- The files, with their texts, and the directories that were made. A directory that is on the way
to one of these is there too. -/
structure FileTree where
  files : List (List String × String)
  directories : List (List String)

namespace FileTree

inductive Error where
  | missing (path : String)
  | isDirectory (path : String)
  | notDirectory (path : String)
  | occupied (path : String)
  | nameTooLong (path : String)
  | tooDeep
  | nullCharacter
  deriving DecidableEq, Repr

def Error.message : Error → String
  | .missing path => "[Errno 2] No such file or directory: " ++ Text.quoted path
  | .isDirectory path => "[Errno 21] Is a directory: " ++ Text.quoted path
  | .notDirectory path => "[Errno 20] Not a directory: " ++ Text.quoted path
  | .occupied path => "[Errno 17] File exists: " ++ Text.quoted path
  | .nameTooLong path => "[Errno 36] File name too long: " ++ Text.quoted path
  | .tooDeep => "maximum recursion depth exceeded while calling a Python object"
  | .nullCharacter => "embedded null byte"

inductive Entry where
  | file (text : String)
  | directory
  | missing
  | beyondFile
  | nameTooLong
  deriving DecidableEq, Repr

def maxNameSize : Nat := 255

def maxPathSize : Nat := 4095

def parts (path : String) : List String :=
  (Notation.splitAtChar '/' path.toList).map String.ofList

def isIdle (part : String) : Bool := part = "" ∨ part = "."

/-- What a path starts with. Two leading slashes differ from one, and three or more count as one. -/
def rootOf (path : String) : String :=
  match path.toList with
  | '/' :: '/' :: '/' :: _ => "/"
  | '/' :: '/' :: _ => "//"
  | '/' :: _ => "/"
  | _ => ""

def pathOf (root : String) (ps : List String) : String :=
  let joined := root ++ "/".intercalate ps
  if joined = "" then "." else joined

def activeParts (path : String) : List String := (parts path).filter (!isIdle ·)

def normalize (path : String) : String := pathOf (rootOf path) (activeParts path)

def pathWithin (directory name : String) : String :=
  pathOf (rootOf directory) (activeParts directory ++ [name])

def origin (path : String) : List String := if rootOf path = "" then [] else ["/"]

def above (place : List String) : List String :=
  if place = ["/"] then place
  else if place.all (· = "..") then place ++ [".."]
  else place.dropLast

def next (place : List String) (part : String) : List String :=
  if isIdle part then place else if part = ".." then above place else place ++ [part]

def systemDirectories : List String :=
  ["bin", "boot", "dev", "etc", "home", "lib", "media", "mnt", "opt", "proc", "root", "run", "sbin",
    "srv", "sys", "tmp", "usr", "var"]

/-- The tree without files. There is only the file outside that is always empty. -/
def empty : FileTree := ⟨[(["/", "dev", "null"], "")], systemDirectories.map (["/", ·])⟩

def insert (t : FileTree) (place : List String) (text : String) : FileTree :=
  { t with files := (place, text) :: t.files.filter (·.1 ≠ place) }

def ofFiles (files : List (String × String)) : FileTree :=
  files.foldl (fun t f => t.insert ((parts f.1).foldl next (origin f.1)) f.2) empty

def entryAt (t : FileTree) (place : List String) : Entry :=
  match t.files.find? (·.1 = place) with
  | some f => .file f.2
  | none =>
    if place.all (fun name => name = ".." ∨ name = "/") || t.files.any (place.isPrefixOf ·.1) ||
        t.directories.any (place.isPrefixOf ·) then .directory
    else .missing

def walk (t : FileTree) : List String → List String → List String × Entry
  | place, [] => (place, t.entryAt place)
  | place, part :: rest =>
    match t.entryAt place with
    | .directory =>
      if part.utf8ByteSize > maxNameSize then (place ++ part :: rest, .nameTooLong)
      else t.walk (next place part) rest
    | .file _ => (place ++ part :: rest, .beyondFile)
    | other => (place ++ part :: rest, other)

def resolve (t : FileTree) (path : String) : List String × Entry :=
  if path = "" then ([], .missing)
  else if path.utf8ByteSize > maxPathSize then ([], .nameTooLong)
  else t.walk (origin path) (parts path)

def readText (t : FileTree) (path : String) : Except Error String :=
  if path.toList.contains '\x00' then .error .nullCharacter
  else match (t.resolve path).2 with
    | .file text => .ok text
    | .directory => .error (.isDirectory path)
    | .missing => .error (.missing path)
    | .beyondFile => .error (.notDirectory path)
    | .nameTooLong => .error (.nameTooLong path)

def writeText (t : FileTree) (path text : String) : Except Error FileTree :=
  match t.resolve path with
  | (place, .file _) => .ok (t.insert place text)
  | (place, .missing) =>
    if t.entryAt place.dropLast = .directory then .ok (t.insert place text)
    else .error (.missing path)
  | (_, .directory) => .error (.isDirectory path)
  | (_, .beyondFile) => .error (.notDirectory path)
  | (_, .nameTooLong) => .error (.nameTooLong path)

def makeIn (t : FileTree) (path : String) (place : List String) (name : String) :
    Except Error (FileTree × List String) :=
  let here := next place name
  if name.utf8ByteSize > maxNameSize then .error (.nameTooLong path)
  else match t.entryAt here with
    | .missing => .ok ({ t with directories := here :: t.directories }, here)
    | .directory => .ok (t, here)
    | _ => .error (.occupied path)

def maxDepth : Nat := 988

/-- Makes the directory with the given parts, last part first, when so many below it wait to be
made. If it is missing, those above it are made first, and they may turn what is missing into
something that is there: once there is a directory `x`, there is also `x/..`. -/
def makeAlong (t : FileTree) (root : String) : Nat → List String →
    Except Error (FileTree × List String)
  | _, [] => .ok (t, origin root)
  | waiting, name :: rest =>
    let path := pathOf root (name :: rest).reverse
    match t.resolve path with
    | (_, .missing) =>
      if waiting ≥ maxDepth then .error .tooDeep
      else do
        let (t, place) ← t.makeAlong root (waiting + 1) rest
        t.makeIn path place name
    | (place, .directory) => .ok (t, place)
    | (_, .file _) => .error (.occupied path)
    | (_, .beyondFile) => .error (.notDirectory path)
    | (_, .nameTooLong) => .error (.nameTooLong path)

def makeDirectory (t : FileTree) (path : String) : Except Error (FileTree × List String) :=
  if path.toList.contains '\x00' then .error .nullCharacter
  else t.makeAlong (rootOf path) 0 (activeParts path).reverse

def namesIn (t : FileTree) (place : List String) : List String :=
  (t.files.map Prod.fst ++ t.directories).filterMap fun other =>
    if place.isPrefixOf other then
      (other.drop place.length).head?.filter fun name => name ≠ ".." ∧ name ≠ "/"
    else none

def filesIn (t : FileTree) (place : List String) : List (String × String) :=
  t.files.filterMap fun f =>
    if f.1.dropLast = place then f.1.getLast?.map (·, f.2) else none

end FileTree
end TableParsing
