import Folio.Document.Basic
import Folio.Text.Search

/-! Highlighting of code blocks. A highlighter turns the code of a block and the name of its language
into markup, or fails, and then the block stays as it is. -/

namespace Folio.Code

/-- Takes code and language to markup or to the text of an error. -/
abbrev Highlighter := String → String → Except String String

def defaultLanguage : String := "plaintext"

/-- The `code` of a `pre` that has no other element. -/
def codeOf? (pre : Element) : Option Element :=
  match pre.children.filterMap Node.element? with
  | [code] => if code.tag = "code" then some code else none
  | _ => none

/-- The language in the first class that names one. -/
def languageOf (code : Element) : String :=
  (code.properties.classes.findSome? fun cls =>
    (Text.dropPrefix? "language-".toList cls.toList).map .ofList).getD defaultLanguage

/-- The code without the newline that ends it. -/
def sourceOf (code : Element) : String :=
  let s := code.textContent.toList
  .ofList (if s.getLast? = some '\n' then s.dropLast else s)

def highlightVisitor (h : Highlighter) (excluded : List String) : Visitor Metadata := fun m e =>
  if e.tag = "pre" then
    match codeOf? e with
    | none => (m, e, .enter)
    | some code =>
      let language := languageOf code
      if excluded.contains language then (m, e, .skip)
      else
        match h (sourceOf code) language with
        | .ok markup => (m, e, .replace [.raw markup])
        | .error _ => (m, e, .skip)
  else (m, e, .enter)

/-- Replaces each code block, except those in an excluded language, by its highlighted form. -/
def highlight (h : Highlighter) (excluded : List String) : Transform :=
  .ofVisitor "highlight" (highlightVisitor h excluded)

end Folio.Code
