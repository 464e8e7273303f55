/-!
Blank characters, and the two ways in which text is cut at them: `trim` drops the blanks at both
ends, `words` keeps the maximal runs without blanks. Text is a list of characters here.
-/

namespace TableParsing.Text

/-- The blank characters: the ASCII controls U+0009 to U+000D and U+001C to U+001F, the space,
the next-line control, and every Unicode space, line or paragraph separator. -/
def isBlank (c : Char) : Bool :=
  let n := c.toNat
  (0x9 ≤ n && n ≤ 0xD) || (0x1C ≤ n && n ≤ 0x20) || n == 0x85 || n == 0xA0 || n == 0x1680 ||
    (0x2000 ≤ n && n ≤ 0x200A) || n == 0x2028 || n == 0x2029 || n == 0x202F || n == 0x205F ||
    n == 0x3000

def dropLeading (kind : Char → Bool) (cs : List Char) : List Char := cs.dropWhile kind

def dropTrailing (kind : Char → Bool) (cs : List Char) : List Char :=
  (cs.reverse.dropWhile kind).reverse

def trimRight (cs : List Char) : List Char := dropTrailing isBlank cs

def trim (cs : List Char) : List Char := dropTrailing isBlank (dropLeading isBlank cs)

/-- Reads one more character from the right: the first part is the word that it may extend, the
second the words after that. -/
def gatherWord (c : Char) (state : List Char × List (List Char)) :
    List Char × List (List Char) :=
  if isBlank c then
    ([], if state.1.isEmpty then state.2 else state.1 :: state.2)
  else (c :: state.1, state.2)

def words (cs : List Char) : List (List Char) :=
  let state := cs.foldr gatherWord ([], [])
  if state.1.isEmpty then state.2 else state.1 :: state.2

end TableParsing.Text
