import Folio.Document.Basic
import Folio.Image.Policy
import Folio.Node.Json
import Folio.Text.Percent

/-! The images of a document. One pass records the images that belong to the document; a later pass
folds all properties of each of those into one property that holds them as JSON. -/

namespace Folio.Image

/-- The image source that a property value names; bytes may be percent-encoded. -/
def decodeSource (src : String) : String :=
  Text.percentDecode src

def recordSource (policy : Policy) (m : Metadata) (src : String) : Metadata :=
  match origin? policy src with
  | some .relative => m.addRelativeImage src
  | some .remote => m.addRemoteImage src
  | none => m

def collectVisitor (policy : Policy) : Visitor Metadata := fun m e =>
  if e.tag = "img" then
    match e.properties.getText? "src" with
    | some src => (if src = "" then m else recordSource policy m (decodeSource src), e, .skip)
    | none => (m, e, .skip)
  else (m, e, .enter)

/-- Records relative images and the remote ones that the policy allows. -/
def collect (policy : Policy) : Transform :=
  .ofVisitor "collect-images" (collectVisitor policy)

/-- The property that holds all others. -/
def foldedProperty : String := "data-image"

/-- The fields of a folded image: its properties, its decoded source, how many images with this source
came before it, and for a remote image of unknown size a request to infer the size. -/
def foldedFields (p : Properties) (src : String) (index : Nat) (remote : Bool) : Table Json :=
  let fields := Table.ofEntries (p.entries.map fun (name, value) => (name, value.toJson))
  let fields := (fields.insert "src" (.string src)).insert "index" (.int index)
  if remote && !(p.contains "width" && p.contains "height") then
    fields.insert "inferSize" (.bool true)
  else fields

/-- The state holds the sources of the folded images so far. -/
def foldVisitor : Visitor (List String × Metadata) := fun (seen, m) e =>
  if e.tag = "img" then
    match e.properties.getText? "src" with
    | none => ((seen, m), e, .skip)
    | some src =>
      let src := decodeSource src
      let remote := m.remoteImages.contains src
      if remote || m.relativeImages.contains src then
        let fields := foldedFields e.properties src (seen.count src) remote
        let p : Properties := ⟨[(foldedProperty, .text (Json.ofTable fields).compact)]⟩
        ((src :: seen, m), { e with properties := p }, .skip)
      else ((seen, m), e.set "src" (.text src), .skip)
  else ((seen, m), e, .enter)

/-- Folds the images that were recorded. -/
def foldProperties : Transform :=
  .ofStatefulVisitor "images" [] foldVisitor

end Folio.Image
