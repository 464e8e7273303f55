import TableParsing.Host.Name
import TableParsing.Text.Integer

/-!
The target of a request, and the path in it. A target is written as a reference: a scheme, an
authority, a query and a fragment may stand around the path. They have to be well formed, but do not
matter otherwise. Dot segments are removed and escapes are decoded, twice, since the sender decodes
them once and the receiver once more.
-/

namespace TableParsing.Service.Target

inductive Error where
  | tooLong
  | controlCharacter (c : Char) (position : Nat)
  | host (e : Host.Error)
  | badPort (port : String)
  /-- The path, with nothing before it, starts with two slashes. -/
  | leadingSlashes
  | leadingColon
  | unknownScheme (scheme : String)
  | label (fault : Host.LabelFault)
  deriving DecidableEq, Repr

def Error.message : Error → String
  | tooLong => "URL too long"
  | controlCharacter c position =>
    "Invalid non-printable ASCII character in URL, " ++ Text.quoted (String.singleton c) ++
      " at position " ++ toString position ++ "."
  | host e => e.message
  | badPort port => "Invalid port: " ++ Text.quoted port
  | leadingSlashes => "Relative URLs cannot have a path starting with '//'"
  | leadingColon => "Relative URLs cannot have a path starting with ':'"
  | unknownScheme scheme => Text.quoted scheme
  | label fault => fault.message

def maxLength : Nat := 65536

def isControl (c : Char) : Bool := c.toNat < 0x20 || c.toNat == 0x7F

def isSchemeChar (c : Char) : Bool := c.isAlphanum || c == '+' || c == '.' || c == '-'

def splitScheme (cs : List Char) : List Char × List Char :=
  let scheme := cs.takeWhile isSchemeChar
  match scheme.head?, cs.dropWhile isSchemeChar with
  | none, ':' :: rest => ([], rest)
  | some c, ':' :: rest => if c.isAlpha then (scheme, rest) else ([], cs)
  | _, _ => ([], cs)

structure Authority where
  user : List Char
  host : List Char
  port : List Char

/-- The parts of an authority. The user ends at the last at-sign; a host in square brackets may hold
colons, and any other host ends at the first colon. -/
def Authority.ofChars (cs : List Char) : Authority :=
  let rest := (cs.reverse.takeWhile (· != '@')).reverse
  let user := cs.take (cs.length - rest.length - 1)
  let bracketed := (rest.reverse.dropWhile (· != ']')).reverse
  let host := if rest.head? = some '[' ∧ bracketed ≠ [] then bracketed
    else rest.takeWhile (· != ':')
  let behind := rest.drop host.length
  ⟨user, host, if behind.head? = some ':' then behind.drop 1 else behind⟩

def Authority.isAbsent (a : Authority) : Bool :=
  a.user.isEmpty && a.host.isEmpty && a.port.isEmpty

def splitAuthority : List Char → Authority × List Char
  | '/' :: '/' :: rest =>
    let isInside := fun c => c != '/' && c != '?' && c != '#'
    (.ofChars (rest.takeWhile isInside), rest.dropWhile isInside)
  | cs => (⟨[], [], []⟩, cs)

/-- Removes the segments that stand for the directory itself, and with each that stands for the one
above it the segment before it. -/
def removeDots (segments : List (List Char)) : List (List Char) :=
  (segments.foldl (fun kept segment =>
    if segment = ['.'] then kept
    else if segment = ['.', '.'] then (if kept = [[]] then kept else kept.drop 1)
    else segment :: kept) []).reverse

def plainPath (path : List Char) : List Char :=
  List.intercalate ['/'] (removeDots (Notation.splitAtChar '/' path))

def escaped? (high low : Char) : Option Char := do
  let n := 16 * (← Host.hexValue? high) + (← Host.hexValue? low)
  if n < 128 then some (Char.ofNat n) else none

/-- Puts the ASCII characters in the place of their escapes. Other escapes are left as they are: no
route has a character beyond ASCII. -/
def decodeEscapes : List Char → List Char
  | '%' :: high :: low :: rest =>
    match escaped? high low with
    | some c => c :: decodeEscapes rest
    | none => '%' :: decodeEscapes (high :: low :: rest)
  | c :: rest => c :: decodeEscapes rest
  | [] => []

def knownSchemes : List String := ["http", "https", "ws", "wss"]

/-- The path of a target. A scheme with a host makes it absolute; otherwise it is relative to the
root of the service, whether it starts with a slash or not. -/
def path (target : String) : Except Error (List Char) := do
  let cs := target.toList
  if cs.length > maxLength then throw .tooLong
  if let some position := cs.findIdx? isControl then
    throw (.controlCharacter (cs.getD position ' ') position)
  let (scheme, afterScheme) := splitScheme cs
  let (authority, afterAuthority) := splitAuthority afterScheme
  let host := String.ofList authority.host
  let written := afterAuthority.takeWhile fun c => c != '?' && c != '#'
  (Host.check host).mapError .host
  if !authority.port.isEmpty && !(Text.Integer.read authority.port).isOk then
    throw (.badPort (String.ofList authority.port))
  let isBare := scheme.isEmpty && authority.isAbsent
  if isBare && ['/', '/'].isPrefixOf written then throw .leadingSlashes
  if isBare && [':'].isPrefixOf written then throw .leadingColon
  let plain := if isBare then written else plainPath written
  if scheme.isEmpty || authority.host.isEmpty then
    return decoded (plainPath ('/' :: plain.dropWhile (· == '/')))
  let name := String.ofList (scheme.map Char.toLower)
  if !knownSchemes.contains name then throw (.unknownScheme name)
  (Host.readBack host).mapError .label
  return decoded plain
where
  decoded (path : List Char) : List Char :=
    decodeEscapes (decodeEscapes (if path.isEmpty then ['/'] else path))

end TableParsing.Service.Target
