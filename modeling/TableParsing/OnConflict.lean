/-!
The two ways of filling a table whose cells may be claimed twice.
-/

namespace TableParsing

inductive OnConflict where
  | stop
  | collect
  deriving DecidableEq, Repr

end TableParsing
