import Folio.Markup.Token
import Folio.Node.Basic

/-! Markup fragments: pieces of well-formed markup such as icons, read into nodes. White space is
kept; comments and declarations are dropped. -/

namespace Folio.Markup

/-- Digits of a numeric reference, which a plus sign may precede. -/
def referenceNumber? (base : Nat) : List Char → Option Nat
  | '+' :: digits => Text.number? base digits
  | digits => Text.number? base digits

/-- The text that a reference stands for; a reference without a meaning stands for itself. -/
def decodeReference (name : String) : String :=
  match name.toList with
  | '#' :: 'x' :: digits | '#' :: 'X' :: digits => numbered (referenceNumber? 16 digits)
  | '#' :: digits => numbered (referenceNumber? 10 digits)
  | _ =>
    if name = "nbsp" then "\u00a0"
    else
      match namedCharacter? name with
      | some c => .singleton c
      | none => itself
where
  itself : String := "&" ++ name ++ ";"
  numbered (n : Option Nat) : String :=
    match n.bind Text.scalar? with
    | some c => .singleton c
    | none => itself

/-- Adds a text after the last node, joining it to a text that stands there. -/
def appendText (text : String) : List Node → List Node
  | [] => [.text text]
  | [.text s] => [.text (s ++ text)]
  | n :: ns => n :: appendText text ns

/-- The nodes read so far: those of the fragment and the open elements, innermost first. -/
structure Reading where
  nodes : List Node := []
  opened : List Element := []

namespace Reading

def mapNodes (r : Reading) (f : List Node → List Node) : Reading :=
  match r.opened with
  | [] => { r with nodes := f r.nodes }
  | e :: es => { r with opened := { e with children := f e.children } :: es }

def add (r : Reading) (n : Node) : Reading :=
  r.mapNodes (· ++ [n])

def read (r : Reading) : Token → Except FragmentError Reading
  | .openTag tag p => .ok { r with opened := ⟨tag, p, []⟩ :: r.opened }
  | .emptyTag tag p => .ok (r.add (.element tag p []))
  | .closeTag tag =>
    match r.opened with
    | [] => .error .malformed
    | e :: es =>
      if e.tag = tag then .ok ({ r with opened := es }.add e.toNode) else .error .malformed
  | .text s => .ok (r.mapNodes (appendText s))
  | .reference name => .ok (r.mapNodes (appendText (decodeReference name)))
  | .skipped => .ok r
  | .fault e => .error e

end Reading

def parseFragment (markup : String) : Except FragmentError (List Node) := do
  let s := markup.toList
  let s := if s.head? = some '\ufeff' then s.tail else s
  let r ← (tokens s).foldlM Reading.read {}
  match r.opened with
  | [] => return r.nodes
  | e :: _ => throw (.unclosed e.tag)

end Folio.Markup
