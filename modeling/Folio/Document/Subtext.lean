import Folio.Document.Basic
import Folio.Text.Search

/-! Subtext: a text that starts with `-# ` shows the rest of its line in small print. -/

namespace Folio

def subtextMarker : List Char := ['-', '#', ' ']

/-- The small line and what follows it, for a text that starts with the marker. -/
def subtextNodes? (text : String) : Option (List Node) :=
  (Text.dropPrefix? subtextMarker text.toList).map fun s =>
    let small : Node := .element "small" {} [.text (.ofList (s.takeWhile (· ≠ '\n')))]
    match s.dropWhile (· ≠ '\n') with
    | [] => [small]
    | tail => [small, .text (.ofList tail)]

def expandSubtext : Node → List Node
  | .text s => (subtextNodes? s).getD [.text s]
  | n => [n]

def subtextVisitor : Visitor Metadata := fun m e =>
  if e.tag = "pre" ∨ e.tag = "code" ∨ e.tag = "small" then (m, e, .skip)
  else (m, { e with children := e.children.flatMap expandSubtext }, .enter)

/-- Puts subtext into small print, everywhere but in code and in small print itself. -/
def subtext : Transform :=
  .ofVisitor "subtext" subtextVisitor

end Folio
