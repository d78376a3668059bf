import Folio.Callout.Entry
import Folio.Node.Basic
import Folio.Text.Casing
import Folio.Text.Search

/-! The marker `[!kind]` at the start of a blockquote that makes it a callout. -/

namespace Folio.Callout

/-- Whether a callout can be folded, and how it starts out. -/
inductive Fold
  | never
  | opened
  | closed
  deriving DecidableEq, Repr

def Fold.isFoldable (f : Fold) : Bool :=
  f != .never

structure Marker where
  kind : String
  fold : Fold
  /-- The rest of the line. -/
  title : String
  deriving DecidableEq, Repr

def isKindChar (c : Char) : Bool :=
  'a' ≤ c && c ≤ 'z' || 'A' ≤ c && c ≤ 'Z' || '0' ≤ c && c ≤ '9' || c = '_'

/-- The sign after the marker that makes a callout foldable. -/
def foldSign : List Char → Fold × List Char
  | '+' :: s => (.opened, s)
  | '-' :: s => (.closed, s)
  | s => (.never, s)

/-- Reads a marker whose kind, in lower case, satisfies `known`. -/
def marker? (known : String → Bool) (text : String) : Option Marker := do
  let s ← Text.dropPrefix? ['[', '!'] (Text.trimLeft text.toList)
  let kind := String.ofList (Text.lower (s.takeWhile isKindChar))
  let s ← Text.dropPrefix? [']'] (s.dropWhile isKindChar)
  if kind ≠ "" ∧ known kind then
    let (fold, s) := foldSign s
    let title := (s.dropWhile fun c => c = ' ' || c = '\t').takeWhile (· ≠ '\n')
    return ⟨kind, fold, .ofList title⟩
  else none

/-- A line break between blocks. -/
def isBlockGap : Node → Bool
  | .text s => s == "\n"
  | _ => false

/-- The content of a blockquote without the line breaks between its blocks. -/
def blocks (e : Element) : List Node :=
  e.children.filter (!isBlockGap ·)

/-- The marker of a blockquote: it starts the text that starts its first paragraph. -/
def quoteMarker? (t : Entries) (e : Element) : Option Marker :=
  if e.tag = "blockquote" then
    match blocks e with
    | .element "p" _ (.text s :: _) :: _ => marker? t.contains s
    | _ => none
  else none

end Folio.Callout
