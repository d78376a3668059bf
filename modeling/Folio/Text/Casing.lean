import Folio.Text.CaseTable

/-! Upper and lower case. A capital sigma becomes a final sigma where a cased letter precedes it and
none follows, each time passing over case-ignorable characters. -/

namespace Folio.Text

def lowerChar (c : Char) : List Char :=
  if c.toNat < 0x80 then [c.toLower]
  else if c = '\u0130' then ['i', '\u0307']
  else [((lowerRuns.findSome? (·.map? c.toNat)).map Char.ofNat).getD c]

def upperChar (c : Char) : List Char :=
  if c.toNat < 0x80 then [c.toUpper]
  else
    match upperExpansions.lookup c.toNat with
    | some ns => ns.map Char.ofNat
    | none => [((upperRuns.findSome? (·.map? c.toNat)).map Char.ofNat).getD c]

/-- Whether the first character that is not passed over has a case. -/
def meetsCased (s : List Char) : Bool :=
  match s.dropWhile caseIgnorableRanges.contains with
  | [] => false
  | c :: _ => casedRanges.contains c

/-- Lower case of `s`, where `before` is the text in front of it, last character first. -/
def lowerAfter (before : List Char) : List Char → List Char
  | [] => []
  | c :: s =>
    let here :=
      if c = 'Σ' then [if meetsCased before && !meetsCased s then 'ς' else 'σ'] else lowerChar c
    here ++ lowerAfter (c :: before) s

def lower (s : List Char) : List Char :=
  lowerAfter [] s

def upper (s : List Char) : List Char :=
  s.flatMap upperChar

/-- Upper case of the first character, the rest as it is. -/
def capitalize : List Char → List Char
  | [] => []
  | c :: s => upperChar c ++ s

/-- A form in which two texts agree exactly if they differ in case only. -/
def foldCase (s : List Char) : List Char :=
  s.flatMap fun c =>
    if c = 'ı' then [c] else ((lowerChar c).flatMap upperChar).flatMap lowerChar

end Folio.Text

