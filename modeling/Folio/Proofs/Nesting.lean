import Folio.Tree.Builder

/-! Events that are well nested: every part of a document is closed by its own end, and the parts of
a table stand in their order. Such a stretch of events says by itself which elements it makes. -/

namespace Folio

open Markdown (Event Tag TagKind)

/-- A stretch of events by its single events and by the spans from a start to its end. -/
inductive Nest
  | done
  | event (e : Event) (rest : Nest)
  | span (tag : Tag) (content rest : Nest)
  deriving Inhabited

/-- Where a stretch of events stands. A cell holds anything but tables. -/
inductive Place
  | flow | table | rows | row | cell | metadata
  deriving DecidableEq

def standsAnywhere : TagKind → Bool
  | .table | .tableHead | .tableRow | .tableCell | .metadata => false
  | _ => true

namespace Place

/-- The place inside a part and the place behind it, where a part of this kind may stand. -/
def inside? : Place → TagKind → Option (Place × Place)
  | .table, kind => if kind = .tableHead then some (.row, .rows) else none
  | .rows, kind => if kind = .tableRow then some (.row, .rows) else none
  | .row, kind => if kind = .tableCell then some (.cell, .row) else none
  | .metadata, _ => none
  | .flow, kind =>
    if standsAnywhere kind then some (.flow, .flow)
    else if kind = .table then some (.table, .flow)
    else if kind = .metadata then some (.metadata, .flow)
    else none
  | .cell, kind =>
    if standsAnywhere kind then some (.cell, .cell)
    else if kind = .metadata then some (.metadata, .cell)
    else none

def admits : Place → Event → Bool
  | _, .enter _ => false
  | _, .leave _ => false
  | .metadata, .text _ => true
  | pl, _ => pl = .flow ∨ pl = .cell

end Place

def isTaskMarker : Event → Bool
  | .taskMarker _ => true
  | _ => false

def showsMarkers : TagKind → Bool
  | .item | .image | .metadata => false
  | _ => true

namespace Nest

def events : Nest → List Event
  | done => []
  | event e rest => e :: rest.events
  | span tag content rest => .enter tag :: content.events ++ .leave tag.kind :: rest.events

/-- Whether everything stands where it may stand. A table does not end without a head. -/
def fits : Nest → Place → Bool
  | done, pl => pl ≠ .table
  | event e rest, pl => pl.admits e && rest.fits pl
  | span tag content rest, pl =>
    match pl.inside? tag.kind with
    | some (inner, next) => content.fits inner && rest.fits next
    | none => false

/-- Whether some task marker stands outside of all list items of the stretch. -/
def marks : Nest → Bool
  | done => false
  | event e rest => isTaskMarker e || rest.marks
  | span tag content rest => (showsMarkers tag.kind && content.marks) || rest.marks

def eventAlt : Event → String
  | .text s | .code s => s
  | .softBreak | .hardBreak => " "
  | _ => ""

/-- What an image around the stretch takes in for its alternative text. -/
def alt : Nest → String
  | done => ""
  | event e rest => eventAlt e ++ rest.alt
  | span _ content rest => content.alt ++ rest.alt

theorem not_enter_leave_of_admits {pl : Place} {e : Event} (h : pl.admits e = true) :
    (∀ tag, e ≠ .enter tag) ∧ ∀ kind, e ≠ .leave kind := by
  constructor
  · rintro tag rfl
    cases pl <;> cases h
  · rintro kind rfl
    cases pl <;> cases h

theorem inside?_of_fits {tag : Tag} {content rest : Nest} {pl : Place}
    (h : (span tag content rest).fits pl = true) :
    ∃ inner next, pl.inside? tag.kind = some (inner, next) ∧ content.fits inner = true ∧
      rest.fits next = true := by
  rw [fits] at h
  split at h
  · rename_i inner next hi
    rw [Bool.and_eq_true] at h
    exact ⟨inner, next, hi, h.1, h.2⟩
  · cases h

end Nest

mutual

/-- The elements of a tree by their tags, without properties, texts and markup. -/
def Node.outline : Node → List Node
  | .element tag _ children => [.element tag {} (outline children)]
  | _ => []

def outline : List Node → List Node
  | [] => []
  | n :: ns => n.outline ++ outline ns

end

def eventOutline : Event → List Node
  | .code _ => [.element "code" {} []]
  | .inlineMath _ => [.element "code" {} []]
  | .displayMath _ => [.element "pre" {} [.element "code" {} []]]
  | .footnoteReference _ => [.element "sup" {} [.element "a" {} []]]
  | .hardBreak => [.element "br" {} []]
  | .rule => [.element "hr" {} []]
  | .taskMarker _ => [.element "input" {} []]
  | _ => []

/-- The rows of a table with a body around those after the head. -/
def withBody : List Node → List Node
  | head :: row :: rows => [head, .element "tbody" {} (row :: rows)]
  | rows => rows

def spanOutline (inHead : Bool) (ns : List Node) : Tag → List Node
  | .paragraph => [.element "p" {} ns]
  | .heading level _ _ _ => [.element ("h" ++ toString level) {} ns]
  | .blockquote => [.element "blockquote" {} ns]
  | .fencedCode _ => [.element "pre" {} [.element "code" {} ns]]
  | .indentedCode => [.element "pre" {} [.element "code" {} ns]]
  | .htmlBlock => ns
  | .list start => [.element (if start.isSome then "ol" else "ul") {} ns]
  | .item => [.element "li" {} ns]
  | .footnote _ => [.element "div" {} (.element "sup" {} [] :: ns)]
  | .definitionList => [.element "dl" {} ns]
  | .definitionTerm => [.element "dt" {} ns]
  | .definition => [.element "dd" {} ns]
  | .table _ => [.element "table" {} (withBody ns)]
  | .tableHead => [.element "thead" {} [.element "tr" {} ns]]
  | .tableRow => [.element "tr" {} ns]
  | .tableCell => [.element (if inHead then "th" else "td") {} ns]
  | .emphasis => [.element "em" {} ns]
  | .strong => [.element "strong" {} ns]
  | .strikethrough => [.element "del" {} ns]
  | .superscript => [.element "sup" {} ns]
  | .subscript => [.element "sub" {} ns]
  | .link _ _ _ => [.element "a" {} ns]
  | .image _ _ => [.element "img" {} []]
  | .metadata => []

/-- The elements that a stretch of events makes, each inside the one whose span is around it. -/
def Nest.outline (inHead : Bool) : Nest → List Node
  | .done => []
  | .event e rest => eventOutline e ++ rest.outline inHead
  | .span tag content rest =>
    spanOutline inHead (content.outline (tag.kind = .tableHead)) tag ++ rest.outline inHead

/-- The second list has all of the first one, but for what has been added to its last text or
markup, and goes on from there. -/
inductive Continues : List Node → List Node → Prop
  | nil (ns : List Node) : Continues [] ns
  | text (s t : String) (ns : List Node) : Continues [.text s] (.text (s ++ t) :: ns)
  | raw (s t : String) (ns : List Node) : Continues [.raw s] (.raw (s ++ t) :: ns)
  | cons (n : Node) {ns ns' : List Node} (h : Continues ns ns') : Continues (n :: ns) (n :: ns')

theorem continues_append (ns ms : List Node) : Continues ns (ns ++ ms) := by
  induction ns with
  | nil => exact .nil ms
  | cons n ns ih => exact .cons n ih

theorem Continues.append_left {ns ns' : List Node} (h : Continues ns ns') (ms : List Node) :
    Continues (ms ++ ns) (ms ++ ns') := by
  induction ms with
  | nil => exact h
  | cons n ms ih => exact .cons n ih

theorem Continues.refl (ns : List Node) : Continues ns ns := by
  simpa using continues_append ns []

theorem Continues.trans {ns ms ls : List Node} (h : Continues ns ms) (h' : Continues ms ls) :
    Continues ns ls := by
  induction h generalizing ls with
  | nil => exact .nil ls
  | text s t =>
    cases h' with
    | text _ u more =>
      rw [String.append_assoc]
      exact .text s (t ++ u) more
    | cons _ _ => exact .text s t _
  | raw s t =>
    cases h' with
    | raw _ u more =>
      rw [String.append_assoc]
      exact .raw s (t ++ u) more
    | cons _ _ => exact .raw s t _
  | cons n h ih =>
    cases h' with
    | text s u more =>
      cases h
      exact .text s u more
    | raw s u more =>
      cases h
      exact .raw s u more
    | cons _ h' => exact .cons n (ih h')

theorem continues_pushText (s : String) (ns : List Node) : Continues ns (pushText s ns) := by
  have hgo : Continues ns (pushText.go s ns) := by
    induction ns using pushText.go.induct with
    | case1 => exact .nil _
    | case2 t => exact .text t s []
    | case3 n ns hn ih =>
      rw [pushText.go]
      · exact .cons n ih
      · exact hn
  unfold pushText
  split
  · exact .refl ns
  · exact hgo

theorem outline_append (ns ms : List Node) : outline (ns ++ ms) = outline ns ++ outline ms := by
  induction ns with
  | nil => rfl
  | cons n ns ih => simp [outline, ih]

theorem outline_pushText (s : String) (ns : List Node) : outline (pushText s ns) = outline ns := by
  have hgo : outline (pushText.go s ns) = outline ns := by
    induction ns using pushText.go.induct with
    | case1 => rfl
    | case2 t => rfl
    | case3 n ns hn ih =>
      rw [pushText.go]
      · rw [outline, outline, ih]
      · exact hn
  unfold pushText
  split
  · rfl
  · exact hgo

end Folio
