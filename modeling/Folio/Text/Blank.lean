/-! White space: the characters that carry the white-space property, and the trimming and splitting
of texts at them. -/

namespace Folio.Text

def isBlank (c : Char) : Bool :=
  let n := c.toNat
  9 ≤ n && n ≤ 13 || n == 0x20 || n == 0x85 || n == 0xA0 || n == 0x1680 ||
    0x2000 ≤ n && n ≤ 0x200A || n == 0x2028 || n == 0x2029 || n == 0x202F || n == 0x205F ||
    n == 0x3000

def trimLeft (s : List Char) : List Char :=
  s.dropWhile isBlank

/-- Drops the longest tail whose characters all satisfy `p`. -/
def dropRightWhile (p : Char → Bool) (s : List Char) : List Char :=
  (s.reverse.dropWhile p).reverse

def trimRight (s : List Char) : List Char :=
  dropRightWhile isBlank s

def trim (s : List Char) : List Char :=
  trimRight (trimLeft s)

/-- The maximal runs of characters that do not satisfy `p`. -/
def fields (p : Char → Bool) (s : List Char) : List (List Char) :=
  (s.splitOnP p).filter (· ≠ [])

def words (s : List Char) : List (List Char) :=
  fields isBlank s

end Folio.Text
