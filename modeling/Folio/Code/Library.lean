import Folio.Code.Highlight
import Folio.Node.Html

/-! The built-in highlighters: by the colors of a palette, or by classes. The grammars and the
palettes come from a library; what is done here is to choose among them and to wrap what it gives. -/

namespace Folio.Code

def defaultPalette : String := "InspiredGitHub"

/-- A library of grammars and palettes. It takes code to markup or to the text of an error. -/
structure Library where
  Grammar : Type
  Palette : Type
  byToken? : String → Option Grammar
  byExtension? : String → Option Grammar
  plainText : Grammar
  palette? : String → Option Palette
  default_isSome : (palette? defaultPalette).isSome
  colored : Palette → Grammar → String → Except String String
  /-- The lines of code as markup whose pieces carry classes. -/
  classed : Grammar → List String → Except String String

namespace Library

variable (l : Library)

/-- The grammar of a language, or that of plain text. -/
def grammar (language : String) : l.Grammar :=
  ((l.byToken? language).or (l.byExtension? language)).getD l.plainText

/-- The palette with this name, or the default one. -/
def palette (name : String) : l.Palette :=
  (l.palette? name).getD ((l.palette? defaultPalette).get l.default_isSome)

end Library

def libraryError (e : String) : String :=
  "syntect failed: " ++ e

/-- The lines of a text, each with the newline that ends it. -/
def lines : List Char → List (List Char)
  | [] => []
  | c :: s =>
    if c = '\n' then [c] :: lines s
    else
      match lines s with
      | [] => [[c]]
      | l :: ls => (c :: l) :: ls

/-- Highlights code by the colors of a palette. -/
def colored (l : Library) (palette : String) : Highlighter := fun code language =>
  (l.colored (l.palette palette) (l.grammar language) code).mapError libraryError

/-- Highlights code by classes. -/
def classed (l : Library) : Highlighter := fun code language => do
  let rows := (lines code.toList).map String.ofList
  let body ← (l.classed (l.grammar language) rows).mapError libraryError
  let name := Html.escapeAttribute language
  return "<pre class=\"language-" ++ name ++ "\" data-language=\"" ++ name ++
    "\"><code class=\"language-" ++ name ++ "\">" ++ body ++ "</code></pre>"

end Folio.Code
