/-!
Words: the integers of 64 bits with a sign. Numbers come in any size, but some uses of them are
limited to this range.
-/

namespace TableParsing

/-- Whether an integer fits into a signed word of 64 bits. -/
def fitsWord (n : Int) : Bool := -9223372036854775808 ≤ n && n ≤ 9223372036854775807

end TableParsing
