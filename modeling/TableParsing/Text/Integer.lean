import TableParsing.Text.Blank

/-!
Integers written in decimal. Digits of any script count, one underscore may stand between two
digits, a sign may come first, and blanks around the whole are dropped, but not the four separators
U+001C to U+001F. At most 4300 digits are read. `Integer.read` is the reader, `Integer.Misread` the
two ways in which it fails.
-/

namespace TableParsing.Text.Integer

/-- The code points of the digit zero in every script with decimal digits (Unicode version 14);
the digits one to nine follow each of them. -/
def zeros : List Nat :=
  [0x30, 0x660, 0x6F0, 0x7C0, 0x966, 0x9E6, 0xA66, 0xAE6, 0xB66, 0xBE6, 0xC66, 0xCE6, 0xD66,
   0xDE6, 0xE50, 0xED0, 0xF20, 0x1040, 0x1090, 0x17E0, 0x1810, 0x1946, 0x19D0, 0x1A80, 0x1A90,
   0x1B50, 0x1BB0, 0x1C40, 0x1C50, 0xA620, 0xA8D0, 0xA900, 0xA9D0, 0xA9F0, 0xAA50, 0xABF0,
   0xFF10, 0x104A0, 0x10D30, 0x11066, 0x110F0, 0x11136, 0x111D0, 0x112F0, 0x11450, 0x114D0,
   0x11650, 0x116C0, 0x11730, 0x118E0, 0x11950, 0x11C50, 0x11D50, 0x11DA0, 0x16A60, 0x16AC0,
   0x16B50, 0x1D7CE, 0x1D7D8, 0x1D7E2, 0x1D7EC, 0x1D7F6, 0x1E140, 0x1E2F0, 0x1E950, 0x1FBF0]

def digit? (c : Char) : Option Nat :=
  (zeros.find? (fun z => z ≤ c.toNat && c.toNat ≤ z + 9)).map (c.toNat - ·)

/-- The digits of a numeral without its sign: digits, with single underscores between them. -/
def digits? : List Char → Option (List Nat)
  | [] => none
  | [c] => (digit? c).map ([·])
  | c :: '_' :: cs => do
    let d ← digit? c
    let ds ← digits? cs
    return d :: ds
  | c :: cs => do
    let d ← digit? c
    let ds ← digits? cs
    return d :: ds

def value (ds : List Nat) : Nat := ds.foldl (fun n d => 10 * n + d) 0

def maxDigits : Nat := 4300

inductive Misread where
  | malformed
  | tooLong (digits : Nat)
  deriving DecidableEq, Repr

def isMargin (c : Char) : Bool := isBlank c && !(0x1C ≤ c.toNat && c.toNat ≤ 0x1F)

def isNumeral (c : Char) : Bool := (digit? c).isSome || c == '_'

/-- The number that an unsigned text writes. The digits at its start are counted before anything is
said about what follows them, so too many of them are reported even if the text is no numeral. -/
def readDigits (cs : List Char) : Except Misread Nat :=
  match digits? (cs.takeWhile isNumeral) with
  | none => .error .malformed
  | some ds =>
    if ds.length > maxDigits then .error (.tooLong ds.length)
    else if (cs.dropWhile isNumeral).all isMargin then .ok (value ds)
    else .error .malformed

def read (cs : List Char) : Except Misread Int :=
  match dropLeading isMargin cs with
  | '-' :: ds => (readDigits ds).map (fun n => -(n : Int))
  | '+' :: ds => (readDigits ds).map (fun n => (n : Int))
  | ds => (readDigits ds).map (fun n => (n : Int))

end TableParsing.Text.Integer
