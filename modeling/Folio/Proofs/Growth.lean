import Mathlib.Logic.Basic
import Folio.Proofs.Nesting

/-! What the operations of the builder do to its open elements: each adds to the innermost one, and
at most the nearest list item is marked as a task. -/

namespace Folio

open Markdown (Event)

namespace Properties

theorem setIn_setIn (name : String) (v w : PropertyValue) (l : List (String × PropertyValue)) :
    setIn name w (setIn name v l) = setIn name w l := by
  induction l with
  | nil => simp [setIn]
  | cons x l ih =>
    by_cases hx : x.1 = name
    · simp [setIn, hx]
    · simp [setIn, hx, ih]

theorem set_set (p : Properties) (name : String) (v w : PropertyValue) :
    (p.set name v).set name w = p.set name w := by
  simp [set, setIn_setIn]

end Properties

namespace Frame

/-- The element of a frame as it is when it ends: after its last block the line is over. -/
def closed (f : Frame) : Element :=
  if f.hasBlocks then { f.element with children := pushText "\n" f.element.children }
  else f.element

theorem toNode_closed (f : Frame) :
    f.closed.toNode = .element f.element.tag f.element.properties f.closed.children := by
  unfold closed
  split <;> rfl

theorem outline_closed (f : Frame) :
    outline f.closed.children = outline f.element.children := by
  unfold closed
  split
  · exact outline_pushText "\n" _
  · rfl

/-- The frame as it is in a task, if it is that of a list item and `m` says so. -/
def marked (f : Frame) (m : Bool) : Frame :=
  if m ∧ f.element.tag = "li" then
    { f with element := f.element.set "class" (.tokens ["task-list-item"]) }
  else f

end Frame

namespace Builder

theorem listElement_eq (start : Option Nat) :
    ∃ p, listElement start = ⟨if start.isSome then "ol" else "ul", p, []⟩ := by
  unfold listElement
  split <;> exact ⟨_, rfl⟩

theorem linkElement_eq (url title : String) (email : Bool) :
    ∃ p, linkElement url title email = ⟨"a", p, []⟩ := by
  unfold linkElement
  dsimp only
  split <;> exact ⟨_, rfl⟩

theorem codeElement_eq (info : String) : ∃ p, codeElement info = ⟨"code", p, []⟩ := by
  unfold codeElement
  split <;> exact ⟨_, rfl⟩

theorem imageElement_eq (src title alt : String) :
    ∃ p, imageElement src title alt = ⟨"img", p, []⟩ := by
  unfold imageElement
  dsimp only
  split <;> exact ⟨_, rfl⟩

/-- What a column of a table says about the alignment of its cells. -/
def alignAttribute : Option Markdown.Alignment → Properties
  | some .left => ⟨[("align", .text "left")]⟩
  | some .center => ⟨[("align", .text "center")]⟩
  | some .right => ⟨[("align", .text "right")]⟩
  | _ => {}

theorem cellElement_eq (b : Builder) :
    b.cellElement =
      ⟨if b.inTableHead then "th" else "td", alignAttribute b.alignments[b.cellIndex]?, []⟩ := by
  unfold cellElement
  cases b.alignments[b.cellIndex]? with
  | none => rfl
  | some alignment => cases alignment <;> rfl

theorem markTask_cons (f : Frame) (fs : List Frame) :
    markTask (f :: fs) =
      if f.element.tag = "li" then
        { f with element := f.element.set "class" (.tokens ["task-list-item"]) } :: fs
      else f :: markTask fs := by
  rw [markTask]

theorem markTask_markTask (fs : List Frame) : markTask (markTask fs) = markTask fs := by
  induction fs with
  | nil => rfl
  | cons f fs ih =>
    by_cases hf : f.element.tag = "li"
    · simp [markTask_cons, hf, Element.set, Properties.set_set]
    · simp [markTask_cons, hf, ih]

theorem map_markTask {α : Type} {g : Frame → α}
    (hg : ∀ f p, g { f with element.properties := p } = g f) (fs : List Frame) :
    (markTask fs).map g = fs.map g := by
  induction fs with
  | nil => rfl
  | cons f fs ih =>
    rw [markTask_cons]
    split
    · exact congrArg (· :: fs.map g) (hg f _)
    · exact congrArg (g f :: ·) ih

theorem markTask_children (fs : List Frame) :
    (markTask fs).map (·.element.children) = fs.map (·.element.children) :=
  map_markTask (fun _ _ => rfl) fs

/-- The builder with the nearest list item marked as a task, if `m`. -/
def marked (b : Builder) (m : Bool) : Builder :=
  { b with
    top := b.top.marked m
    below := if m ∧ b.top.element.tag ≠ "li" then markTask b.below else b.below }

theorem marked_frames (b : Builder) (m : Bool) :
    (b.marked m).top :: (b.marked m).below =
      if m then markTask (b.top :: b.below) else b.top :: b.below := by
  rw [markTask_cons]
  cases m with
  | false => simp [marked, Frame.marked]
  | true => by_cases hli : b.top.element.tag = "li" <;> simp [marked, Frame.marked, hli]

theorem map_marked {α : Type} {g : Frame → α}
    (hg : ∀ f p, g { f with element.properties := p } = g f) (b : Builder) (m : Bool) :
    ((b.marked m).top :: (b.marked m).below).map g = (b.top :: b.below).map g := by
  rw [marked_frames]
  split
  · exact map_markTask hg _
  · rfl

theorem close_of_outermost {b : Builder} (h : b.below = []) : b.close = b := by
  rw [close, h]

theorem close_of_below {b : Builder} {outer : Frame} {below : List Frame}
    (h : b.below = outer :: below) :
    b.close = { b with top := outer, below := below }.append b.top.closed.toNode := by
  unfold close Frame.closed
  rw [h]
  cases b.top.hasBlocks <;> rfl

theorem taskMarker_eq (checked : Bool) : ∃ p, ∀ b : Builder,
    b.taskMarker checked = ((b.marked true).append (.element "input" p [])).pushText " " := by
  refine ⟨⟨[("type", .text "checkbox"), ("disabled", .flag true), ("checked", .flag checked)]⟩,
    fun b => ?_⟩
  have hmark := marked_frames b true
  rw [if_pos rfl] at hmark
  rw [taskMarker, ← hmark]
  rfl

/-- The second builder has the open elements of the first one, with new content of some outline in
the innermost one and, if `m`, the nearest list item marked as a task. -/
structure Grown (ns : List Node) (m : Bool) (b b' : Builder) : Prop where
  kind : b'.top.kind = b.top.kind
  tag : b'.top.element.tag = b.top.element.tag
  properties : b'.top.element.properties =
    if m ∧ b.top.element.tag = "li" then
      b.top.element.properties.set "class" (.tokens ["task-list-item"])
    else b.top.element.properties
  below : b'.below = if m ∧ b.top.element.tag ≠ "li" then markTask b.below else b.below
  children : Continues b.top.element.children b'.top.element.children
  outline : outline b'.top.element.children = outline b.top.element.children ++ ns

variable {ns ms : List Node} {m k : Bool} {b c d : Builder}

theorem Grown.refl (b : Builder) : Grown [] false b b where
  kind := rfl
  tag := rfl
  properties := by simp
  below := by simp
  children := .refl _
  outline := by simp

theorem Grown.trans (h : Grown ns m b c) (h' : Grown ms k c d) :
    Grown (ns ++ ms) (m || k) b d where
  kind := h'.kind.trans h.kind
  tag := h'.tag.trans h.tag
  properties := by
    rw [h'.properties, h.tag, h.properties]
    by_cases ht : b.top.element.tag = "li"
    · cases m <;> cases k <;> simp [ht, Properties.set_set]
    · simp [ht]
  below := by
    rw [h'.below, h.tag, h.below]
    by_cases ht : b.top.element.tag = "li"
    · simp [ht]
    · cases m <;> cases k <;> simp [ht, markTask_markTask]
  children := h.children.trans h'.children
  outline := by rw [h'.outline, h.outline, List.append_assoc]

theorem Grown.below_length (h : Grown ns m b c) : c.below.length = b.below.length := by
  have hmark := congrArg List.length (markTask_children b.below)
  rw [List.length_map, List.length_map] at hmark
  rw [h.below]
  split
  · exact hmark
  · rfl

/-- What is remembered besides the open elements does not matter. -/
theorem Grown.congr {x y : Builder} (h : Grown ns m b c) (ht : x.top = b.top)
    (hb : x.below = b.below) (ht' : y.top = c.top) (hb' : y.below = c.below) :
    Grown ns m x y := by
  constructor
  · rw [ht, ht', h.kind]
  · rw [ht, ht', h.tag]
  · rw [ht, ht', h.properties]
  · rw [ht, hb, hb', h.below]
  · rw [ht, ht']
    exact h.children
  · rw [ht, ht', h.outline]

theorem grown_mapChildren (b : Builder) {f : List Node → List Node}
    (hc : Continues b.top.element.children (f b.top.element.children))
    (ho : Folio.outline (f b.top.element.children) =
      Folio.outline b.top.element.children ++ ns) :
    Grown ns false b (b.mapChildren f) where
  kind := rfl
  tag := rfl
  properties := by simp [mapChildren]
  below := by simp [mapChildren]
  children := hc
  outline := ho

theorem grown_pushText (b : Builder) (s : String) : Grown [] false b (b.pushText s) :=
  grown_mapChildren b (continues_pushText s _) (by rw [outline_pushText, List.append_nil])

theorem grown_breakLine (b : Builder) : Grown [] false b b.breakLine := by
  unfold breakLine
  split
  · split
    · exact .refl b
    · exact grown_pushText b "\n"
  · have h := grown_pushText b "\n"
    exact ⟨h.kind, h.tag, h.properties, h.below, h.children, h.outline⟩

theorem grown_append (b : Builder) {n : Node} (h : n.outline = ns) :
    Grown ns false b (b.append n) := by
  subst h
  have hline : Grown [] false b (if b.isBlock n then b.breakLine else b) := by
    split
    · exact grown_breakLine b
    · exact .refl b
  have hput : ∀ c : Builder, Grown n.outline false c (c.mapChildren (· ++ [n])) := fun c =>
    grown_mapChildren c (continues_append _ _) (by simp [outline_append, Folio.outline])
  unfold append
  cases n with
  | text s => exact hline.trans (grown_pushText _ s)
  | raw s => exact hline.trans (hput _)
  | element tag p children => exact hline.trans (hput _)

theorem grown_marked (b : Builder) (m : Bool) : Grown [] m b (b.marked m) := by
  by_cases hli : m = true ∧ b.top.element.tag = "li"
  · constructor <;> simp [marked, Frame.marked, hli, Element.set, Continues.refl]
  · constructor <;> simp [marked, Frame.marked, hli, Continues.refl]

/-- The end of an element puts it, with all that it has got, into the element around it. -/
theorem grown_close {e : Element} (h : Grown ns m (b.openElement e) c) :
    Grown [.element e.tag {} (Folio.outline e.children ++ ns)] (e.tag ≠ "li" && m) b c.close := by
  have hbelow : c.below = (b.marked (e.tag ≠ "li" && m)).top ::
      (b.marked (e.tag ≠ "li" && m)).below := by
    rw [h.below, marked_frames]
    exact if_congr (by simp [openElement, openFrame, and_comm]) rfl rfl
  have houter : Grown [] (e.tag ≠ "li" && m) b
      { c with
        top := (b.marked (e.tag ≠ "li" && m)).top
        below := (b.marked (e.tag ≠ "li" && m)).below } :=
    (grown_marked b _).congr rfl rfl rfl rfl
  have hput := houter.trans (grown_append _ (n := c.top.closed.toNode) rfl)
  rwa [← close_of_below hbelow, Frame.toNode_closed, Node.outline, Frame.outline_closed, h.tag,
    h.outline, List.nil_append, Bool.or_false] at hput

theorem grown_close_fresh {tag : String} {p : Properties} (hli : tag ≠ "li")
    (h : Grown ns m (b.openElement ⟨tag, p, []⟩) c) : Grown [.element tag {} ns] m b c.close := by
  simpa [hli, Folio.outline] using grown_close h

def tableState (b : Builder) : Bool × Bool :=
  (b.tableBodyOpen, b.inTableHead)

@[simp] theorem tableState_pushText (b : Builder) (s : String) :
    (b.pushText s).tableState = b.tableState := rfl

@[simp] theorem tableState_breakLine (b : Builder) : b.breakLine.tableState = b.tableState := by
  unfold breakLine
  split
  · split <;> rfl
  · rfl

@[simp] theorem tableState_append (b : Builder) (n : Node) :
    (b.append n).tableState = b.tableState := by
  have hline : (if b.isBlock n then b.breakLine else b).tableState = b.tableState := by
    split
    · exact tableState_breakLine b
    · rfl
  unfold append
  cases n <;> exact hline

@[simp] theorem tableState_close (b : Builder) : b.close.tableState = b.tableState := by
  unfold close
  split
  · rfl
  · rw [tableState_append]
    cases b.top.hasBlocks <;> rfl

theorem footnoteNumber_frames (b : Builder) (label : String) :
    (b.footnoteNumber label).1.top = b.top ∧ (b.footnoteNumber label).1.below = b.below ∧
      (b.footnoteNumber label).1.tableState = b.tableState := by
  unfold footnoteNumber
  split <;> exact ⟨rfl, rfl, rfl⟩

theorem grown_pushHtml (b : Builder) (markup : String) : Grown [] false b (b.pushHtml markup) := by
  unfold pushHtml
  split
  · rename_i s _ hs
    obtain ⟨init, hi⟩ := List.getLast?_eq_some_iff.mp hs
    refine grown_mapChildren b ?_ ?_
    · rw [hi, List.dropLast_concat]
      exact (Continues.raw s markup []).append_left init
    · rw [hi, List.dropLast_concat, outline_append, outline_append, List.append_nil]
      rfl
  · exact grown_append b (by rfl)

theorem grown_taskMarker (b : Builder) (checked : Bool) :
    Grown [.element "input" {} []] true b (b.taskMarker checked) := by
  obtain ⟨p, hp⟩ := taskMarker_eq checked
  have hinput := ((grown_marked b true).trans (grown_append _ (n := .element "input" p [])
    rfl)).trans (grown_pushText _ " ")
  rw [hp]
  simpa [Node.outline, Folio.outline] using hinput

theorem tableState_taskMarker (b : Builder) (checked : Bool) :
    (b.taskMarker checked).tableState = b.tableState := by
  obtain ⟨p, hp⟩ := taskMarker_eq checked
  rw [hp, tableState_pushText, tableState_append]
  rfl

theorem tableState_pushHtml (b : Builder) (markup : String) :
    (b.pushHtml markup).tableState = b.tableState := by
  unfold pushHtml
  split
  · rfl
  · exact tableState_append b _

theorem grown_event {e : Event} (hs : ∀ tag, e ≠ .enter tag) (he : ∀ kind, e ≠ .leave kind)
    (b : Builder) : Grown (eventOutline e) (isTaskMarker e) b (b.pushElementEvent e) ∧
      (b.pushElementEvent e).tableState = b.tableState := by
  unfold pushElementEvent
  cases e with
  | enter tag => exact absurd rfl (hs tag)
  | leave kind => exact absurd rfl (he kind)
  | text s => exact ⟨grown_pushText b s, rfl⟩
  | softBreak => exact ⟨grown_pushText b "\n", rfl⟩
  | code s => exact ⟨grown_append b (by rfl), tableState_append b _⟩
  | inlineMath s => exact ⟨grown_append b (by rfl), tableState_append b _⟩
  | displayMath s => exact ⟨grown_append b (by rfl), tableState_append b _⟩
  | inlineHtml markup => exact ⟨grown_append b (by rfl), tableState_append b _⟩
  | rule => exact ⟨grown_append b (by rfl), tableState_append b _⟩
  | html markup => exact ⟨grown_pushHtml b markup, tableState_pushHtml b markup⟩
  | hardBreak =>
    exact ⟨(grown_append b (n := .element "br" {} []) rfl).trans (grown_pushText _ "\n"),
      tableState_append b _⟩
  | footnoteReference label =>
    obtain ⟨ht, hb, hstate⟩ := footnoteNumber_frames b label
    exact ⟨(grown_append _ (by rfl)).congr ht.symm hb.symm rfl rfl,
      (tableState_append _ _).trans hstate⟩
  | taskMarker checked => exact ⟨grown_taskMarker b checked, tableState_taskMarker b checked⟩

end Builder

end Folio
