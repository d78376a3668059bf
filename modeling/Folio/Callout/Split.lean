import Folio.Node.Basic

/-! The first paragraph of a callout split into the line of its marker and the rest. -/

namespace Folio.Callout

structure Split where
  title : List Node
  /-- Absent if the paragraph has one line; it can be empty. -/
  body : Option (List Node)
  deriving Repr

def hasNewline : Node → Bool
  | .text s => s.toList.contains '\n'
  | _ => false

/-- A text node, or nothing for the empty text. -/
def textNodes (s : List Char) : List Node :=
  if s.isEmpty then [] else [.text (.ofList s)]

/-- Drops a hard break that ends a line. -/
def dropFinalBreak (ns : List Node) : List Node :=
  match ns.getLast? with
  | some n => if n.isElement "br" then ns.dropLast else ns
  | none => ns

/-- Splits at the first newline of a text among the nodes. -/
def splitTitle (ns : List Node) : Split :=
  match ns.dropWhile (!hasNewline ·) with
  | .text s :: rest =>
    let title := dropFinalBreak (ns.takeWhile (!hasNewline ·))
    { title := title ++ textNodes (s.toList.takeWhile (· ≠ '\n'))
      body := some (textNodes ((s.toList.dropWhile (· ≠ '\n')).drop 1) ++ rest) }
  | _ => ⟨ns, none⟩

end Folio.Callout
