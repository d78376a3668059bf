import Folio.Text.EntityTable
import Folio.Text.Search

/-! Character references: `&name;` for a character with a name, `&#n;` and `&#xn;` for one with a
number. -/

namespace Folio.Text

/-- The characters written by code points with `+` between them. -/
def codePoints (s : List Char) : List Char :=
  (s.splitOnP (· = '+')).filterMap fun digits => (number? 16 digits).bind scalar?

/-- The codes after a name in a list of names and codes in turn. -/
def codesOf? (name : List Char) : List (List Char) → Option (List Char)
  | n :: codes :: rest => if n = name then some codes else codesOf? name rest
  | _ => none

/-- The characters that a name stands for. -/
def namedEntity? (name : List Char) : Option (List Char) :=
  match name with
  | [] => none
  | first :: _ =>
    (entityLines first).findSome? fun line =>
      (codesOf? name (line.toList.splitOnP (· = ' '))).map codePoints

/-- The character with a number; the number zero stands for the replacement character. -/
def numberedEntity? (n : Nat) : Option Char :=
  if n = 0 then some '\ufffd' else scalar? n

/-- The characters of a reference by number with at most `most` digits, and what follows it. -/
def numbered? (base most : Nat) (s : List Char) : Option (List Char × List Char) :=
  let digits := s.takeWhile fun c => (digitValue? c).any (· < base)
  if digits.length ≤ most then
    match s.drop digits.length with
    | ';' :: rest => do
      let c ← numberedEntity? (← number? base digits)
      return ([c], rest)
    | _ => none
  else none

/-- The characters of the reference that follows an ampersand, and what follows it. -/
def entity? (s : List Char) : Option (List Char × List Char) :=
  match s with
  | '#' :: 'x' :: s => numbered? 16 6 s
  | '#' :: 'X' :: s => numbered? 16 6 s
  | '#' :: s => numbered? 10 7 s
  | _ =>
    match s.dropWhile Char.isAlphanum with
    | ';' :: rest => (namedEntity? (s.takeWhile Char.isAlphanum)).map (·, rest)
    | _ => none

end Folio.Text
