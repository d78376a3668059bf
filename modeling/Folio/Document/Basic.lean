import Folio.Json
import Folio.Tree.Walk

/-! A document under processing: its tree and what has been learned about it. -/

namespace Folio

structure Heading where
  depth : Nat
  slug : String
  text : String
  deriving DecidableEq, Repr, Inhabited

structure Metadata where
  headings : List Heading := []
  /-- Decoded image paths relative to the document, in the order of their first use. -/
  relativeImages : List String := []
  /-- Decoded image URLs that the policy allows, in the order of their first use. -/
  remoteImages : List String := []
  frontmatter : Table Json := []
  deriving Inhabited

/-- Adds an item at the end unless it is there already. -/
def appendNew (items : List String) (item : String) : List String :=
  if items.contains item then items else items ++ [item]

namespace Metadata

def addRelativeImage (m : Metadata) (src : String) : Metadata :=
  { m with relativeImages := appendNew m.relativeImages src }

def addRemoteImage (m : Metadata) (src : String) : Metadata :=
  { m with remoteImages := appendNew m.remoteImages src }

end Metadata

structure Document where
  nodes : List Node := []
  metadata : Metadata := {}
  deriving Inhabited

/-- A pass over a whole document. It is given a limit on the steps of its walk and fails only if the
walk needs more. -/
structure Transform where
  name : String
  apply : Nat → Document → Option Document

namespace Transform

/-- A transform that walks the tree, reading and writing the metadata. -/
def ofVisitor (name : String) (v : Visitor Metadata) : Transform where
  name
  apply limit d := (walk v limit d.metadata d.nodes).map fun (m, ns) => ⟨ns, m⟩

/-- A transform whose visitor has a state of its own, dropped at the end of the walk. -/
def ofStatefulVisitor {σ : Type} (name : String) (s : σ) (v : Visitor (σ × Metadata)) :
    Transform where
  name
  apply limit d := (walk v limit (s, d.metadata) d.nodes).map fun ((_, m), ns) => ⟨ns, m⟩

end Transform

/-- Applies transforms in order. -/
def applyAll (limit : Nat) (ts : List Transform) (d : Document) : Option Document :=
  ts.foldlM (fun d t => t.apply limit d) d

end Folio
