import TableParsing.Host.Punycode
import TableParsing.Text.Composition
import TableParsing.Text.Direction
import TableParsing.Text.Joining
import TableParsing.Text.Permitted
import TableParsing.Text.Quoted
import TableParsing.Text.Script

/-!
The labels of international host names. A label is a list of code points, and `check` says what is
wrong with it, if anything. A label is sent in ASCII: as it is if it is ASCII itself, otherwise with
a mark in front and the code points in Punycode behind.
-/

namespace TableParsing.Host
open Text

/-- What is wrong with a label. Positions count from one. -/
inductive LabelFault where
  | empty
  | notComposed
  | hyphensWithin
  | hyphenAtEnd
  | startsWithMark
  | joiner (point position : Nat) (label : List Nat)
  | surroundings (point position : Nat) (label : List Nat)
  | forbidden (point position : Nat) (label : List Nat)
  | unknownDirection (position : Nat) (label : List Nat)
  | undirectedStart (label : List Nat)
  | againstDirection (rightToLeft : Bool) (position : Nat)
  | mixedNumbers
  | undirectedEnd
  | noContent
  | contentEndsWithHyphen
  | unreadable
  deriving DecidableEq, Repr

def pointName (n : Nat) : String :=
  "U+" ++ String.ofList ((hexPadded 4 n).map Char.toUpper)

/-- A label between quotes. A code point that is no character is escaped. -/
def quotedLabel (label : List Nat) : String :=
  let q := quoteFor (label.map Char.ofNat)
  let shown := label.flatMap fun n =>
    if 0xD800 ≤ n ∧ n ≤ 0xDFFF then '\\' :: 'u' :: hexPadded 4 n else escapeChar q (Char.ofNat n)
  String.ofList (q :: (shown ++ [q]))

def LabelFault.message : LabelFault → String
  | empty => "Empty Label"
  | notComposed => "Label must be in Normalization Form C"
  | hyphensWithin => "Label has disallowed hyphens in 3rd and 4th position"
  | hyphenAtEnd => "Label must not start or end with a hyphen"
  | startsWithMark => "Label begins with an illegal combining character"
  | joiner n position label =>
    "Joiner " ++ pointName n ++ " not allowed at position " ++ toString position ++ " in " ++
      quotedLabel label
  | surroundings n position label =>
    "Codepoint " ++ pointName n ++ " not allowed at position " ++ toString position ++ " in " ++
      quotedLabel label
  | forbidden n position label =>
    "Codepoint " ++ pointName n ++ " at position " ++ toString position ++ " of " ++
      quotedLabel label ++ " not allowed"
  | unknownDirection position label =>
    "Unknown directionality in label " ++ quotedLabel label ++ " at position " ++ toString position
  | undirectedStart label =>
    "First codepoint in label " ++ quotedLabel label ++ " must be directionality L, R or AL"
  | againstDirection rightToLeft position =>
    "Invalid direction for codepoint at position " ++ toString position ++ " in a " ++
      (if rightToLeft then "right-to-left" else "left-to-right") ++ " label"
  | mixedNumbers => "Can not mix numeral types in a right-to-left label"
  | undirectedEnd => "Label ends with illegal codepoint directionality"
  | noContent => "Malformed A-label, no Punycode eligible content found"
  | contentEndsWithHyphen => "A-label must not end with a hyphen"
  | unreadable => "Invalid A-label"

namespace Label

def nonJoiner : Nat := 0x200C

def joiner : Nat := 0x200D

def isArabicDigit (n : Nat) : Bool := 0x660 ≤ n && n ≤ 0x669

def isExtendedArabicDigit (n : Nat) : Bool := 0x6F0 ≤ n && n ≤ 0x6F9

/-- Whether a joiner may stand between what is before it, last first, and what is after it: behind a
sign that silences a vowel, or, if it keeps letters apart, between two that would join. -/
def mayJoin (n : Nat) (before after : List Nat) : Bool :=
  before.head?.any (combiningClass · == viramaClass) ||
    (n == nonJoiner && (before.dropWhile isMark).head?.any joinsForward &&
      (after.dropWhile isMark).head?.any joinsBackward)

def isContextual (n : Nat) : Bool :=
  n == 0xB7 || n == 0x375 || n == 0x5F3 || n == 0x5F4 || n == 0x30FB || isArabicDigit n ||
    isExtendedArabicDigit n

/-- Whether a contextual point may stand between what is before it, last first, and what is after
it: the middle dot between two letters l, the numeral sign before a Greek letter, the two Hebrew
signs behind a Hebrew one, the Katakana dot in a Japanese label, and Arabic digits of one kind
without the other. -/
def fitsSurroundings (n : Nat) (before after : List Nat) : Bool :=
  let isIn := fun (runs : List Stride) n => runs.any (·.contains n)
  let label := before ++ after
  if n == 0xB7 then before.head? == some 0x6C && after.head? == some 0x6C
  else if n == 0x375 then after.head?.any (isIn greekRuns)
  else if n == 0x5F3 || n == 0x5F4 then before.head?.any (isIn hebrewRuns)
  else if n == 0x30FB then label.any (isIn japaneseRuns)
  else if isArabicDigit n then !label.any isExtendedArabicDigit
  else !label.any isArabicDigit

def pointFault? (label : List Nat) : List Nat → List Nat → Option LabelFault
  | _, [] => none
  | before, n :: after =>
    let position := before.length + 1
    if isPermitted n then pointFault? label (n :: before) after
    else if n == nonJoiner || n == joiner then
      if mayJoin n before after then pointFault? label (n :: before) after
      else some (.joiner n position label)
    else if isContextual n then
      if fitsSurroundings n before after then pointFault? label (n :: before) after
      else some (.surroundings n position label)
    else some (.forbidden n position label)

def fitsDirection (rightToLeft : Bool) : Direction → Bool
  | .leftToRight => !rightToLeft
  | .rightToLeft => rightToLeft
  | .arabicNumber => rightToLeft
  | _ => true

def mayEnd (rightToLeft : Bool) : Direction → Bool
  | .leftToRight => !rightToLeft
  | .rightToLeft => rightToLeft
  | .arabicNumber => rightToLeft
  | .europeanNumber => true
  | _ => false

/-- Goes through the directions of a label, of which `position` are passed, with the kind of number
met so far. -/
def directionFaultFrom? (rightToLeft : Bool) : Nat → Option Direction → List Direction →
    Option LabelFault
  | _, _, [] => none
  | position, number, d :: rest =>
    if !fitsDirection rightToLeft d then some (.againstDirection rightToLeft (position + 1))
    else if rightToLeft && (d == .arabicNumber || d == .europeanNumber) then
      if number.any (· != d) then some .mixedNumbers
      else directionFaultFrom? rightToLeft (position + 1) (some d) rest
    else directionFaultFrom? rightToLeft (position + 1) number rest

/-- What is wrong with the directions of a label. A label without letters or digits written from
right to left is always right. -/
def directionFault? (label : List Nat) : Option LabelFault :=
  let ds := label.map direction
  if let some i := ds.findIdx? (· == .unknown) then some (.unknownDirection (i + 1) label)
  else if !ds.any (fun d => d == .rightToLeft || d == .arabicNumber) then none
  else match ds.head? with
    | some .rightToLeft => go true ds
    | some .leftToRight => go false ds
    | _ => some (.undirectedStart label)
where
  go (rightToLeft : Bool) (ds : List Direction) : Option LabelFault :=
    match directionFaultFrom? rightToLeft 0 none ds with
    | some fault => some fault
    | none =>
      if (ds.reverse.dropWhile (· == .mark)).head?.any (mayEnd rightToLeft) then none
      else some .undirectedEnd

def hyphen : Nat := 0x2D

def check (label : List Nat) : Except LabelFault Unit := do
  if label.isEmpty then throw .empty
  if !isComposed label then throw .notComposed
  if (label.drop 2).take 2 = [hyphen, hyphen] then throw .hyphensWithin
  if label.head? = some hyphen ∨ label.getLast? = some hyphen then throw .hyphenAtEnd
  if label.head?.any isMark then throw .startsWithMark
  if let some fault := pointFault? label [] label then throw fault
  if let some fault := directionFault? label then throw fault

def punycodeMark : List Char := ['x', 'n', '-', '-']

/-- What is wrong with a label in ASCII, in small letters: with what it writes if it has the mark,
with itself otherwise. -/
def checkAscii (cs : List Char) : Except LabelFault Unit :=
  if punycodeMark.isPrefixOf cs then do
    let content := cs.drop punycodeMark.length
    if content.isEmpty then throw .noContent
    if content.getLast? = some '-' then throw .contentEndsWithHyphen
    match Punycode.decode? content with
    | none => throw .unreadable
    | some label => check label
  else check (cs.map Char.toNat)

/-- The number of characters in which a label is sent, if it is right and of 63 at most. -/
def sentLength? (label : List Nat) : Option Nat :=
  let isAscii := label.all (· < 128)
  let checked := if isAscii then checkAscii (label.map Char.ofNat) else check label
  let length := if isAscii then label.length
    else punycodeMark.length + (Punycode.encode label).length
  match checked with
  | .ok _ => if length ≤ 63 then some length else none
  | .error _ => none

end Label
end TableParsing.Host
