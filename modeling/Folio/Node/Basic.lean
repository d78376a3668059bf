import Folio.Node.Properties

/-! The document tree: elements, runs of text, and markup that is written as it stands. -/

namespace Folio

inductive Node
  | text (value : String)
  | raw (markup : String)
  | element (tag : String) (properties : Properties) (children : List Node)
  deriving Repr, Inhabited

structure Element where
  tag : String
  properties : Properties := {}
  children : List Node := []
  deriving Repr, Inhabited

def Element.toNode (e : Element) : Node :=
  .element e.tag e.properties e.children

namespace Node

def element? : Node → Option Element
  | .element t p c => some ⟨t, p, c⟩
  | _ => none

def text? : Node → Option String
  | .text s => some s
  | _ => none

def isElement (tag : String) : Node → Bool
  | .element t _ _ => t == tag
  | _ => false

end Node

namespace Element

/-- An element whose only property is one class. -/
def withClass (tag cls : String) (children : List Node) : Element :=
  ⟨tag, ⟨[("class", .tokens [cls])]⟩, children⟩

def set (e : Element) (name : String) (value : PropertyValue) : Element :=
  { e with properties := e.properties.set name value }

end Element

mutual

/-- All text in the tree in document order; markup written as it stands counts as none. -/
def Node.textContent : Node → String
  | .text s => s
  | .raw _ => ""
  | .element _ _ children => textContents children

def textContents : List Node → String
  | [] => ""
  | n :: ns => n.textContent ++ textContents ns

end

def Element.textContent (e : Element) : String :=
  textContents e.children

end Folio
