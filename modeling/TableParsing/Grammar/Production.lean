import TableParsing.Symbol

/-!
Productions: a nonterminal and one alternative of it. The alternative may hold epsilon markers; the
body is what it derives, the alternative without its markers.
-/

namespace TableParsing

structure Production where
  lhs : Symbol
  rhs : List Symbol
  deriving DecidableEq, Repr

namespace Production

def isEpsilon (p : Production) : Bool := p.rhs == [Symbol.epsilon]

/-- The alternative without its epsilon markers. -/
def body (p : Production) : List Symbol := p.rhs.filter (· ≠ Symbol.epsilon)

def text (p : Production) : String := p.lhs.name ++ " -> " ++ Symbol.joinNames p.rhs

theorem epsilon_not_mem_body (p : Production) : Symbol.epsilon ∉ p.body := by
  simp [body]

end Production
end TableParsing
