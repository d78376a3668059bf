import Folio.Text.Alphanumeric
import Folio.Text.Casing
import Folio.Text.Grapheme

/-! Slugs for headings. A slug is the lower-case text with hyphens for spaces and without
punctuation; within one document a counter keeps slugs apart. -/

namespace Folio

/-- What a cluster contributes to a slug: decided by its first character. -/
def slugPart : List Char → List Char
  | [] => []
  | c :: cs =>
    if c = ' ' then ['-']
    else if Text.isAlphanumeric c || c = '-' || c = '_' then c :: cs
    else []

def slugify (text : String) : String :=
  .ofList ((Text.clusters (Text.lower text.toList)).flatMap slugPart)

/-- The slugs handed out so far, each with the last counter tried for it. -/
structure Slugger where
  taken : List (String × Nat) := []

namespace Slugger

def isTaken (s : Slugger) (slug : String) : Bool :=
  s.taken.any (·.1 == slug)

def counter (s : Slugger) (slug : String) : Nat :=
  (s.taken.lookup slug).getD 0

def setCounter (s : Slugger) (slug : String) (n : Nat) : Slugger :=
  ⟨(slug, n) :: s.taken.filter (·.1 != slug)⟩

def suffixed (base : String) (n : Nat) : String :=
  base ++ "-" ++ toString n

/-- The first free one of `base-n`, `base-(n+1)`, …, looking at `fuel` candidates. -/
def firstFree (s : Slugger) (base : String) (n : Nat) : Nat → Nat
  | 0 => n
  | fuel + 1 => if s.isTaken (suffixed base n) then s.firstFree base (n + 1) fuel else n

/-- A slug for `text` that was not handed out before, and the slugger that remembers it. One of any
`taken.length + 1` candidates is free, so the search below always ends at a free one. -/
def slug (s : Slugger) (text : String) : Slugger × String :=
  let base := slugify text
  if s.isTaken base then
    let n := s.firstFree base (s.counter base + 1) s.taken.length
    let result := suffixed base n
    ((s.setCounter base n).setCounter result 0, result)
  else (s.setCounter base 0, base)

/-- Forgets all slugs handed out. -/
def reset (_ : Slugger) : Slugger := {}

end Slugger

end Folio
