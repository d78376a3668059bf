/-! Percent-encoding: a byte may be written as `%` and two hexadecimal digits. -/

namespace Folio.Text

/-- The value of a hexadecimal digit given by its byte. -/
def hexByteValue? (b : UInt8) : Option UInt8 :=
  if 48 ≤ b ∧ b ≤ 57 then some (b - 48)
  else if 65 ≤ b ∧ b ≤ 70 then some (b - 55)
  else if 97 ≤ b ∧ b ≤ 102 then some (b - 87)
  else none

/-- The byte written by two hexadecimal digits. -/
def hexPair? (high low : UInt8) : Option UInt8 := do
  let h ← hexByteValue? high
  let l ← hexByteValue? low
  return 16 * h + l

/-- Resolves every escape; a `%` without two digits after it stands for itself. -/
def percentBytes : List UInt8 → List UInt8
  | [] => []
  | [a] => [a]
  | [a, b] => [a, b]
  | a :: b :: c :: rest =>
    if a = 37 then
      match hexPair? b c with
      | some v => v :: percentBytes rest
      | none => a :: percentBytes (b :: c :: rest)
    else a :: percentBytes (b :: c :: rest)

/-- The text that `s` encodes, or `s` itself if its decoded bytes are no text. -/
def percentDecode (s : String) : String :=
  (String.fromUTF8? ⟨⟨percentBytes s.toByteArray.toList⟩⟩).getD s

end Folio.Text
