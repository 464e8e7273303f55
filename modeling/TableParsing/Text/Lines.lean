/-!
Lines of text. Three rules are in use: `keepEnds` cuts after every line feed and keeps it, as a
reader of a stream sees its lines; `splitLines` cuts at every line boundary of Unicode and drops
it; `unifyNewlines` turns the other two customary line ends into line feeds.
-/

namespace TableParsing.Text

/-- The lines of a stream: each ends with its line feed, except perhaps the last. -/
def keepEnds : List Char → List (List Char)
  | [] => []
  | c :: cs =>
    if c == '\n' then [c] :: keepEnds cs
    else match keepEnds cs with
      | [] => [[c]]
      | line :: rest => (c :: line) :: rest

def isLineBoundary (c : Char) : Bool :=
  let n := c.toNat
  (0xA ≤ n && n ≤ 0xD) || (0x1C ≤ n && n ≤ 0x1E) || n == 0x85 || n == 0x2028 || n == 0x2029

/-- The lines of a text without their ends; a carriage return and a line feed after it are one
end. -/
def splitLines : List Char → List (List Char)
  | [] => []
  | '\r' :: '\n' :: cs => [] :: splitLines cs
  | c :: cs =>
    if isLineBoundary c then [] :: splitLines cs
    else match splitLines cs with
      | [] => [[c]]
      | line :: rest => (c :: line) :: rest

def unifyNewlines : List Char → List Char
  | [] => []
  | '\r' :: '\n' :: cs => '\n' :: unifyNewlines cs
  | '\r' :: cs => '\n' :: unifyNewlines cs
  | c :: cs => c :: unifyNewlines cs

end TableParsing.Text
