import Folio.Number.Binary64
import Folio.Text.Search

/-! What plain YAML scalars stand for: nothing, truth values, integers, floating-point numbers, or
texts. -/

namespace Folio.Yaml

def isNull (s : String) : Bool :=
  s = "" || s = "~" || s = "null" || s = "Null" || s = "NULL"

def bool? (s : String) : Option Bool :=
  if s = "true" ∨ s = "True" ∨ s = "TRUE" then some true
  else if s = "false" ∨ s = "False" ∨ s = "FALSE" then some false
  else none

/-- A sign and what follows it. -/
def splitSign : List Char → Option Char × List Char
  | '+' :: s => (some '+', s)
  | '-' :: s => (some '-', s)
  | s => (none, s)

/-- Digits that start with a superfluous zero are a text. -/
def hasLeadingZero (digits : List Char) : Bool :=
  1 < digits.length && digits.head? = some '0' && digits.all Char.isDigit

/-- Digits after the mark of a base, or decimal digits. -/
def natural? (s : List Char) : Option Nat :=
  match s with
  | '0' :: 'x' :: digits => Text.number? 16 digits
  | '0' :: 'o' :: digits => Text.number? 8 digits
  | '0' :: 'b' :: digits => Text.number? 2 digits
  | digits => if hasLeadingZero digits then none else Text.number? 10 digits

/-- The largest magnitude of a negative integer of 128 bits. -/
def maxNegative : Nat := 0x80000000000000000000000000000000

/-- The integer that a text writes, if it fits into 128 bits. -/
def integer? (s : String) : Option Int :=
  match splitSign s.toList with
  | (some '-', digits) =>
    (natural? digits).bind fun n => if n ≤ maxNegative then some (-(n : Int)) else none
  | (_, digits) =>
    (natural? digits).bind fun n => if n < 2 * maxNegative then some (n : Int) else none

/-- Whether an integer fits into 64 bits, with a sign if it is negative. -/
def isWord (n : Int) : Bool :=
  -0x8000000000000000 ≤ n && n < 0x10000000000000000

/-- The exponent part of a decimal: nothing, or `e` and an integer. -/
def exponent? : List Char → Option Int
  | [] => some 0
  | c :: s =>
    if c = 'e' ∨ c = 'E' then
      match splitSign s with
      | (some '-', digits) => (Text.number? 10 digits).map fun n => -(n : Int)
      | (_, digits) => (Text.number? 10 digits).map fun n => (n : Int)
    else none

/-- A decimal with or without point and exponent. -/
def decimal? (negative : Bool) (s : List Char) : Option Binary64 := do
  let whole := s.takeWhile Char.isDigit
  let rest := s.dropWhile Char.isDigit
  let (places, rest) := match rest with
    | '.' :: rest => (rest.takeWhile Char.isDigit, rest.dropWhile Char.isDigit)
    | rest => ([], rest)
  let digits ← Text.number? 10 (whole ++ places)
  let e ← exponent? rest
  return .ofDecimal negative digits (e - places.length)

/-- The floating-point number that a text writes; a decimal beyond all of them writes none. -/
def float? (s : String) : Option Binary64 :=
  let (sign, rest) := splitSign s.toList
  let name := String.ofList rest
  if name = ".inf" ∨ name = ".Inf" ∨ name = ".INF" then some (.infinity (sign = some '-'))
  else if s = ".nan" ∨ s = ".NaN" ∨ s = ".NAN" then some .nan
  else if hasLeadingZero rest then none
  else (decimal? (sign = some '-') rest).filter (·.isFinite)

end Folio.Yaml
