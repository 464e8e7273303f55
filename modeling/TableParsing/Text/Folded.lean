/-!
Letter case, folded for comparing a word with one of the library's own keywords.
-/

namespace TableParsing.Text

/-- The small letter of a capital. The keywords that words are compared with are made of ASCII
letters and `ε`, and no other capital folds to one of these letters alone. -/
def foldChar (c : Char) : Char := if c == 'Ε' then 'ε' else c.toLower

def folded (cs : List Char) : List Char := cs.map foldChar

end TableParsing.Text
