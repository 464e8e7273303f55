/-!
Labels of code points written in ASCII. The ASCII characters of a label come first, then a hyphen if
there are any, then the other ones: each is told by the distance from the one inserted before it, in
a number of base 36 whose digits have thresholds that adapt to the distances met so far. `encode`
writes a label, `decode?` reads it back.
-/

namespace TableParsing.Host.Punycode

def base : Nat := 36

def digitValue? (c : Char) : Option Nat :=
  if 'a' ≤ c ∧ c ≤ 'z' then some (c.toNat - 'a'.toNat)
  else if 'A' ≤ c ∧ c ≤ 'Z' then some (c.toNat - 'A'.toNat)
  else if '0' ≤ c ∧ c ≤ '9' then some (c.toNat - '0'.toNat + 26)
  else none

def digitOf (n : Nat) : Char :=
  if n < 26 then Char.ofNat ('a'.toNat + n) else Char.ofNat ('0'.toNat + (n - 26))

def threshold (position bias : Nat) : Nat := max 1 (min 26 (base * (position + 1) - bias))

theorem one_le_threshold (position bias : Nat) : 1 ≤ threshold position bias :=
  Nat.le_max_left ..

def scaleDown (distance divisions : Nat) : Nat × Nat :=
  if 455 < distance then scaleDown (distance / 35) (divisions + 1) else (distance, divisions)
termination_by distance
decreasing_by exact Nat.div_lt_self (by omega) (by omega)

def adapt (distance : Nat) (isFirst : Bool) (placed : Nat) : Nat :=
  let scaled := if isFirst then distance / 700 else distance / 2
  let (small, divisions) := scaleDown (scaled + scaled / placed) 0
  base * divisions + base * small / (small + 38)

def numberDigits (bias n position : Nat) : List Char :=
  let t := threshold position bias
  if n < t then [digitOf n]
  else digitOf (t + (n - t) % (base - t)) ::
    numberDigits bias ((n - t) / (base - t)) (position + 1)
termination_by n
decreasing_by
  have := one_le_threshold position bias
  exact Nat.lt_of_le_of_lt (Nat.div_le_self ..) (by omega)

structure Writer where
  point : Nat
  distance : Nat
  bias : Nat
  placed : Nat
  digits : List Char

/-- Passes a code point of the label: one that was placed before adds to the distance, and the one
looked for is written. -/
def Writer.pass (ascii : Nat) (w : Writer) (n : Nat) : Writer :=
  if n < w.point then { w with distance := w.distance + 1 }
  else if n = w.point then
    { w with
      distance := 0
      bias := adapt w.distance (w.placed == ascii) (w.placed + 1)
      placed := w.placed + 1
      digits := w.digits ++ numberDigits w.bias w.distance 0 }
  else w

def Writer.place (ascii : Nat) (label : List Nat) (w : Writer) (n : Nat) : Writer :=
  let ready := { w with distance := w.distance + (n - w.point) * (w.placed + 1), point := n }
  let after := label.foldl (pass ascii) ready
  { after with distance := after.distance + 1, point := n + 1 }

def largePoints (label : List Nat) : List Nat :=
  ((label.filter (128 ≤ ·)).mergeSort (· ≤ ·)).eraseReps

def encode (label : List Nat) : List Char :=
  let ascii := (label.filter (· < 128)).map Char.ofNat
  let start : Writer := ⟨128, 0, 72, ascii.length, []⟩
  let digits := ((largePoints label).foldl (Writer.place ascii.length label) start).digits
  if ascii.isEmpty then digits else ascii ++ '-' :: digits

def readNumber? (bias : Nat) : Nat → Nat → Nat → List Char → Option (Nat × List Char)
  | _, _, _, [] => none
  | position, weight, sum, c :: rest =>
    match digitValue? c with
    | none => none
    | some d =>
      let t := threshold position bias
      let sum := sum + d * weight
      if d < t then some (sum, rest)
      else readNumber? bias (position + 1) (weight * (base - t)) sum rest

def maxPoint : Nat := 0x10FFFF

/-- Inserts the code points that the digits tell, `limit` of them at most. The place of the next one
is counted from behind the last one inserted, over and over through the label, and each time round
the code point goes up by one. -/
def insertAll : Nat → Nat → Nat → Bool → Nat → List Nat → List Char → Option (List Nat)
  | _, _, _, _, _, label, [] => some label
  | 0, _, _, _, _, _, _ => none
  | limit + 1, point, next, isFirst, bias, label, digits => do
    let (distance, rest) ← readNumber? bias 0 1 0 digits
    let steps := next + distance
    let places := label.length + 1
    let point := point + steps / places
    let here := steps % places
    if point > maxPoint then none
    else
      insertAll limit point (here + 1) false (adapt distance isFirst places)
        (label.take here ++ point :: label.drop here) rest

def decode? (cs : List Char) : Option (List Nat) :=
  let digits := (cs.reverse.takeWhile (· != '-')).reverse
  let ascii := cs.take (cs.length - digits.length - 1)
  insertAll digits.length 128 0 true 72 (ascii.map Char.toNat) digits

end TableParsing.Host.Punycode
