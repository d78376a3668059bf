/-! Sets of characters given by ranges of code points. -/

namespace Folio.Text

/-- Inclusive ranges of code points. -/
abbrev CharSet := List (Nat × Nat)

def CharSet.contains (s : CharSet) (c : Char) : Bool :=
  s.any fun r => r.1 ≤ c.toNat && c.toNat ≤ r.2

end Folio.Text
