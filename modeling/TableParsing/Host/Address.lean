import TableParsing.Notation.RuleLine

/-!
Numeric host addresses. An address of version 4 is four numbers below 256 between dots; one of
version 6 is eight groups of hexadecimal digits between colons, of which one run of zero groups may
be left out, and the last two groups may be written as an address of version 4.
-/

namespace TableParsing.Host
open Notation

def isOctet (cs : List Char) : Bool :=
  !cs.isEmpty && cs.length ≤ 3 && cs.all Char.isDigit && (cs.head? != some '0' || cs.length == 1) &&
    cs.foldl (fun n c => 10 * n + (c.toNat - '0'.toNat)) 0 ≤ 255

def isAddress4 (cs : List Char) : Bool :=
  let octets := splitAtChar '.' cs
  octets.length == 4 && octets.all isOctet

def digitRuns : List Char → List Nat
  | [] => [0]
  | c :: cs =>
    match digitRuns cs with
    | [] => [0]
    | n :: rest => if c.isDigit then (n + 1) :: rest else 0 :: n :: rest

/-- Whether a text has the look of an address of version 4: four groups of digits with any one
character between two groups. That character may be a digit too, so each run of digits can hold as
many separators as it has pairs of digits beyond the first digit. -/
def resemblesAddress4 (cs : List Char) : Bool :=
  let runs := digitRuns cs
  runs.all (0 < ·) && runs.length ≤ 4 &&
    4 - runs.length ≤ (runs.map fun n => (n - 1) / 2).foldl (· + ·) 0

def hexValue? (c : Char) : Option Nat :=
  if c.isDigit then some (c.toNat - '0'.toNat)
  else if 'a' ≤ c ∧ c ≤ 'f' then some (c.toNat - 'a'.toNat + 10)
  else if 'A' ≤ c ∧ c ≤ 'F' then some (c.toNat - 'A'.toNat + 10)
  else none

def isGroup (cs : List Char) : Bool :=
  !cs.isEmpty && cs.length ≤ 4 && cs.all fun c => (hexValue? c).isSome

/-- The groups of a text between its colons; an address of version 4 at the end counts as two. -/
def groups (cs : List Char) : Option (List (List Char)) :=
  let parts := splitAtChar ':' cs
  match parts.getLast? with
  | some last =>
    if last.contains '.' then
      if isAddress4 last then some (parts.dropLast ++ [['0'], ['0']]) else none
    else some parts
  | none => none

/-- Whether the groups on one side of those left out, from the outside in, are right: only a single
one may be empty. -/
def isOuterSide (side : List (List Char)) : Bool := side == [[]] || side.all isGroup

/-- Whether groups make up an address of version 6. An empty group that is neither first nor last
stands for the zero groups left out, one at least. -/
def areEightGroups (gs : List (List Char)) : Bool :=
  match gs with
  | [] => false
  | first :: rest =>
    let inner := rest.dropLast
    match inner.findIdx? List.isEmpty with
    | none => gs.length == 8 && gs.all isGroup
    | some i =>
      let before := first :: inner.take i
      let after := rest.drop (i + 1)
      isOuterSide before && isOuterSide after.reverse &&
        (before ++ after).countP (!·.isEmpty) ≤ 7

/-- Whether a text is an address of version 6. A zone may follow it after a percent sign. -/
def isAddress6 (cs : List Char) : Bool :=
  match splitAtChar '%' cs with
  | [address] => isPlain address
  | [address, zone] => !zone.isEmpty && isPlain address
  | _ => false
where
  isPlain (address : List Char) : Bool :=
    !address.isEmpty && 3 ≤ (splitAtChar ':' address).length &&
      ((groups address).any fun gs => gs.length ≤ 9 && areEightGroups gs)

end TableParsing.Host
