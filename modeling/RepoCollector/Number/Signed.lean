/-!
# Whole numbers of bounded size

Reads decimal numbers that must fit a machine word.  A signed number may carry either sign; an
unsigned one may carry a plus.  Nothing but digits may follow.
-/

namespace RepoCollector

/-- The number that decimal digits write, if there is at least one and nothing else. -/
def decimal? (digits : List Char) : Option Nat :=
  if digits = [] ∨ ¬ digits.all Char.isDigit then none
  else some (digits.foldl (fun number c => number * 10 + (c.toNat - 48)) 0)

/-- The greatest unsigned number of 64 bits. -/
def greatest64 : Nat := 18446744073709551615

/-- The greatest signed number of 64 bits. -/
def greatestSigned64 : Int := 9223372036854775807

/-- Whether a number fits 64 bits with a sign; there is one negative number more. -/
def fitsSigned64 (n : Int) : Bool :=
  -greatestSigned64 - 1 ≤ n ∧ n ≤ greatestSigned64

/-- The signed number of 64 bits that a text writes. -/
def signed64? (text : List Char) : Option Int :=
  let number : Option Int :=
    match text with
    | '-' :: digits => (decimal? digits).map fun n => -(n : Int)
    | '+' :: digits => (decimal? digits).map fun n => (n : Int)
    | digits => (decimal? digits).map fun n => (n : Int)
  number.filter fitsSigned64

/-- The unsigned number of 64 bits that a text writes. -/
def unsigned64? (text : List Char) : Option Nat :=
  let number :=
    match text with
    | '+' :: digits => decimal? digits
    | digits => decimal? digits
  number.filter (· ≤ greatest64)

end RepoCollector
