import Folio.Node.Basic

/-! The HTML of a document tree. -/

namespace Folio

namespace Html

def escapeTextChar (c : Char) : List Char :=
  if c = '&' then "&amp;".toList
  else if c = '<' then "&lt;".toList
  else if c = '>' then "&gt;".toList
  else [c]

def escapeAttributeChar (c : Char) : List Char :=
  if c = '"' then "&quot;".toList else escapeTextChar c

def escapeText (s : String) : String :=
  .ofList (s.toList.flatMap escapeTextChar)

/-- Escapes a text for use between double quotes. -/
def escapeAttribute (s : String) : String :=
  .ofList (s.toList.flatMap escapeAttributeChar)

/-- Elements that have no content and so no end tag. -/
def voidTags : List String :=
  ["area", "base", "br", "col", "embed", "hr", "img", "input", "link", "meta", "source", "track",
    "wbr"]

def assignment (name value : String) : String :=
  " " ++ name ++ "=\"" ++ escapeAttribute value ++ "\""

/-- A property as an attribute: nothing for `false` and for an empty list, the bare name for
`true`. -/
def property : String × PropertyValue → String
  | (name, .flag true) => " " ++ name
  | (_, .flag false) => ""
  | (name, .text s) => assignment name s
  | (_, .tokens []) => ""
  | (name, .tokens (t :: ts)) => assignment name (" ".intercalate (t :: ts))

def properties (p : Properties) : String :=
  .join (p.entries.map property)

mutual

def ofNode : Node → String
  | .text s => escapeText s
  | .raw markup => markup
  | .element tag p children =>
    if voidTags.contains tag then "<" ++ tag ++ properties p ++ ">"
    else "<" ++ tag ++ properties p ++ ">" ++ ofNodes children ++ "</" ++ tag ++ ">"

def ofNodes : List Node → String
  | [] => ""
  | n :: ns => ofNode n ++ ofNodes ns

end

end Html

end Folio
