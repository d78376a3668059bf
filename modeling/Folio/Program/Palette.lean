import Folio.Code.Library
import Folio.Program.Lexicon
import Folio.Text.Blank

/-! The library that the program highlights code with. It has the lexicons of a few languages, and
code in any other is plain text to it. -/

namespace Folio.Program

structure Style where
  color : String
  bold : Bool := false
  italic : Bool := false
  deriving DecidableEq, Repr

/-- Colors of text and background, and the styles of pieces that stand out. -/
structure Palette where
  name : String
  foreground : String
  background : String
  accents : List (Role × Style) := []
  deriving DecidableEq, Repr

def palettes : List Palette := [
  { name := Code.defaultPalette, foreground := "#323232", background := "#ffffff",
    accents := [(.keyword, { color := "#a71d5d", bold := true }),
      (.name, { color := "#795da3", bold := true }), (.quoted, { color := "#183691" }),
      (.number, { color := "#0086b3" }), (.comment, { color := "#969896", italic := true })] },
  ⟨"Solarized (dark)", "#839496", "#002b36", []⟩,
  ⟨"Solarized (light)", "#657b83", "#fdf6e3", []⟩,
  ⟨"base16-eighties.dark", "#d3d0c8", "#2d2d2d", []⟩,
  ⟨"base16-mocha.dark", "#d0c8c6", "#3b3228", []⟩,
  ⟨"base16-ocean.dark", "#c0c5ce", "#2b303b", []⟩,
  ⟨"base16-ocean.light", "#4f5b66", "#eff1f5", []⟩]

def escapeCodeChar (c : Char) : List Char :=
  if c = '\'' then "&#39;".toList else Html.escapeAttributeChar c

def escapeCode (s : List Char) : String :=
  .ofList (s.flatMap escapeCodeChar)

def Palette.style (p : Palette) (r : Role) : Style :=
  (p.accents.lookup r).getD { color := p.foreground }

/-- Adds a piece to the pieces before it, last first. A piece of the same style as the last one, or of
nothing but blanks, becomes a part of it. -/
def joinPiece (ps : List (Style × List Char)) (p : Style × List Char) : List (Style × List Char) :=
  match ps with
  | (style, s) :: rest =>
    if style = p.1 ∨ p.2.all Text.isBlank then (style, s ++ p.2) :: rest else p :: ps
  | [] => [p]

/-- A line as pieces with a style each. -/
def Palette.styledPieces (p : Palette) (l : Option Lexicon) (line : List Char) :
    List (Style × List Char) :=
  let pieces := match l with
    | none => [(Role.plain, line)]
    | some l => l.pieces false line (line.length + 1)
  ((pieces.map fun (role, s) => (p.style role, s)).foldl joinPiece []).reverse

def Style.css (s : Style) : String :=
  (if s.bold then "font-weight:bold;" else "") ++ (if s.italic then "font-style:italic;" else "") ++
    "color:" ++ s.color ++ ";"

def coloredPiece (style : Style) (s : List Char) : String :=
  "<span style=\"" ++ style.css ++ "\">" ++ escapeCode s ++ "</span>"

def coloredLines (p : Palette) (l : Option Lexicon) (code : String) : String :=
  let line (s : List Char) : String :=
    .join ((p.styledPieces l s).map fun (style, s) => coloredPiece style s)
  "<pre style=\"background-color:" ++ p.background ++ ";\">\n" ++
    .join ((Code.lines code.toList).map line) ++ "</pre>\n"

/-- Plain text is the grammar of code without a lexicon, and the only one with classes. -/
def library : Code.Library where
  Grammar := Option Lexicon
  Palette := Palette
  byToken? language := (lexiconFor? language).map some
  byExtension? _ := none
  plainText := none
  palette? name := palettes.find? (·.name == name)
  default_isSome := rfl
  colored p l code := .ok (coloredLines p l code)
  classed _ lines := .ok (if lines.isEmpty then ""
    else "<span class=\"text plain\">" ++ escapeCode (lines.flatMap String.toList) ++ "</span>")

end Folio.Program
