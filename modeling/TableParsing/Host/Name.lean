import TableParsing.Host.Address
import TableParsing.Host.Label
import TableParsing.Text.Lowercase

/-!
Hosts: numeric addresses, names in ASCII, and international names, which are sent in ASCII label by
label. A name that starts with the mark of a label in Punycode is read back.
-/

namespace TableParsing.Host

inductive Error where
  | badAddress4 (host : String)
  | badAddress6 (host : String)
  | badName (host : String)
  deriving DecidableEq, Repr

def Error.message : Error → String
  | badAddress4 host => "Invalid IPv4 address: " ++ Text.quoted host
  | badAddress6 host => "Invalid IPv6 address: " ++ Text.quoted host
  | badName host => "Invalid IDNA hostname: " ++ Text.quoted host

/-- Whether a point separates labels: the full stop and its three ideographic forms. -/
def isDot (n : Nat) : Bool := n == 0x2E || n == 0x3002 || n == 0xFF0E || n == 0xFF61

def splitAtDots : List Nat → List (List Nat)
  | [] => [[]]
  | n :: rest =>
    if isDot n then [] :: splitAtDots rest
    else match splitAtDots rest with
      | [] => [[n]]
      | part :: others => (n :: part) :: others

def labels (name : List Nat) : List (List Nat) :=
  let parts := splitAtDots name
  if parts.length > 1 ∧ parts.getLast? = some [] then parts.dropLast else parts

/-- Whether an international name can be sent: each label is right, and the labels with the dots
between them have 253 characters at most. -/
def isSendable (name : List Nat) : Bool :=
  match (labels (name.map Text.toLowercase)).mapM Label.sentLength? with
  | none => false
  | some lengths => lengths.foldl (· + ·) 0 + (lengths.length - 1) ≤ 253

def check (host : String) : Except Error Unit :=
  let cs := host.toList
  if cs.isEmpty then .ok ()
  else if resemblesAddress4 cs then
    if isAddress4 cs then .ok () else .error (.badAddress4 host)
  else if cs.head? = some '[' ∧ cs.getLast? = some ']' ∧ 2 ≤ cs.length then
    if isAddress6 (cs.drop 1).dropLast then .ok () else .error (.badAddress6 host)
  else if cs.all (·.toNat < 128) then .ok ()
  else if isSendable (cs.map Char.toNat) then .ok ()
  else .error (.badName host)

/-- A character of a name in ASCII as it is sent: in small letters, and escaped unless it is
safe. -/
def sentChar (c : Char) : List Char :=
  if c.isAlphanum || "-._~!$&'()*+,;=\"`\x7b\x7d%|\\".contains c then [c.toLower]
  else '%' :: Text.hexPadded 2 c.toNat

def readBack (host : String) : Except LabelFault Unit :=
  let cs := host.toList
  let name := cs.flatMap sentChar
  if cs.all (·.toNat < 128) && Label.punycodeMark.isPrefixOf name then
    (labels (name.map Char.toNat)).forM fun label => Label.checkAscii (label.map Char.ofNat)
  else .ok ()

end TableParsing.Host
