/-!
The operations that host functions perform, as names. What they do is said where each family of
operations is at home; values only carry the names.
-/

namespace Lisplet

inductive Arithmetic
  | add
  | subtract
  | multiply
  | divide
  | power
deriving DecidableEq

inductive Comparison
  | equal
  | notEqual
  | less
  | lessEqual
  | greater
  | greaterEqual
deriving DecidableEq

inductive Builtin
  | arithmetic (operator : Arithmetic)
  | comparison (operator : Comparison)
  | not
  | length
  | format
  | panic
  | print
  | typeName
deriving DecidableEq

inductive RealFunction
  | sine
  | cosine
  | tangent
  | squareRoot
  | exponential
  | logarithm
deriving DecidableEq

inductive MathOperation
  | real (function : RealFunction)
  | floor
  | ceiling
  | power
  | absolute
  | truncate
deriving DecidableEq

/-- Operations that show what hosts can do, and what they can do wrong. -/
inductive Sample
  | identity
  | pair
  | pairWithDefault
  | firstAndRest
  | keywordOnly
  | withKeyword
  | count
  | nothing
  | oversized
  | nested
  | double
  | dictionary
  | lookUp
  | twoResults
  | noResults
  | raiseValueError
  | raiseKeyError
  | raiseTypeError
  | raiseUnknownVariable
  | raiseLocated
  | raisePanic
  | raiseSyntaxIssue
  | kindName
  | debugForm
  | first
  | read
  | length
  | oneElement
deriving DecidableEq

inductive Operation
  | builtin (operation : Builtin)
  | math (operation : MathOperation)
  | sample (operation : Sample)
deriving DecidableEq

end Lisplet
