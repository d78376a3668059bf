import Folio.Node.Html
import Folio.Proofs.Content

/-! Trees that written HTML can give back: none of their markup stands as it is, no text is empty,
and no two texts stand side by side. -/

namespace Folio

def startsWithText : List Node → Bool
  | .text _ :: _ => true
  | _ => false

mutual

/-- Whether a node is regular and all its elements, at any depth, satisfy `q`. -/
def Node.isRegular (q : Element → Bool) : Node → Bool
  | .text s => s ≠ ""
  | .raw _ => false
  | .element tag p children => q ⟨tag, p, children⟩ && areRegular q children

def areRegular (q : Element → Bool) : List Node → Bool
  | [] => true
  | n :: ns => n.isRegular q && !(n.text?.isSome && startsWithText ns) && areRegular q ns

end

variable {q : Element → Bool}

theorem areRegular_text {s : String} {ns : List Node} :
    areRegular q (.text s :: ns) = true ↔
      s ≠ "" ∧ startsWithText ns = false ∧ areRegular q ns = true := by
  simp [areRegular, Node.isRegular, Node.text?, and_assoc]

theorem not_areRegular_raw {s : String} {ns : List Node} : areRegular q (.raw s :: ns) = false := by
  simp [areRegular, Node.isRegular]

theorem areRegular_element {tag : String} {p : Properties} {children ns : List Node} :
    areRegular q (.element tag p children :: ns) = true ↔
      q ⟨tag, p, children⟩ = true ∧ areRegular q children = true ∧ areRegular q ns = true := by
  simp [areRegular, Node.isRegular, Node.text?, and_assoc]

namespace Html

def startTag (tag : String) (p : Properties) : List Char :=
  '<' :: (tag.toList ++ (properties p).toList ++ ['>'])

def endTag (tag : String) : List Char :=
  '<' :: '/' :: (tag.toList ++ ['>'])

theorem toList_properties (p : Properties) :
    (properties p).toList = p.entries.flatMap fun e => (property e).toList := by
  simp [properties, String.toList_join, List.flatMap_map]

theorem toList_ofNodes_text (s : String) (ns : List Node) :
    (ofNodes (.text s :: ns)).toList = s.toList.flatMap escapeTextChar ++ (ofNodes ns).toList := by
  simp [ofNodes, ofNode, escapeText]

/-- What stands behind the start tag of an element and belongs to it. -/
def body (tag : String) (children : List Node) : List Char :=
  if voidTags.contains tag then [] else (ofNodes children).toList ++ endTag tag

theorem toList_ofNodes_element (tag : String) (p : Properties) (children ns : List Node) :
    (ofNodes (.element tag p children :: ns)).toList =
      startTag tag p ++ (body tag children ++ (ofNodes ns).toList) := by
  by_cases h : voidTags.contains tag = true
  · simp only [ofNodes, ofNode, body, startTag, h, if_true]
    simp
  · simp only [ofNodes, ofNode, body, startTag, endTag, h]
    simp

theorem toList_property_flag (name : String) :
    (property (name, .flag true)).toList = ' ' :: name.toList := by
  simp [property]

theorem toList_property_text (name value : String) :
    (property (name, .text value)).toList =
      ' ' :: (name.toList ++ '=' :: '"' :: (value.toList.flatMap escapeAttributeChar ++ ['"'])) := by
  simp [property, assignment, escapeAttribute]

end Html

end Folio
