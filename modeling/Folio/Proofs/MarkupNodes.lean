import Folio.Proofs.Building

/-! The nodes of markup in a tree, each with what stands before it. Nearly everything that the
builder does leaves those in its open elements as they are: texts and elements come behind them, and
the end of an element takes its own along. -/

namespace Folio

open Markdown (Event Tag TagKind)

/-- A node of markup where it stands: the sibling right before it, and its text. -/
structure RawSite where
  before : Option Node
  markup : String

mutual

def Node.raws (before : Option Node) : Node → List RawSite
  | .text _ => []
  | .raw s => [⟨before, s⟩]
  | .element _ _ children => raws none children

/-- The nodes of markup among siblings and below them, in document order. -/
def raws (before : Option Node) : List Node → List RawSite
  | [] => []
  | n :: ns => n.raws before ++ raws (some n) ns

end

theorem raws_concat (before : Option Node) (ns : List Node) (n : Node) :
    raws before (ns ++ [n]) = raws before ns ++ n.raws (ns.getLast?.or before) := by
  induction ns generalizing before with
  | nil => simp [raws]
  | cons m ns ih =>
    rw [List.cons_append, raws, raws, ih, List.append_assoc]
    cases ns <;> simp [List.getLast?_cons]

theorem raws_pushText (before : Option Node) (s : String) (ns : List Node) :
    raws before (pushText s ns) = raws before ns := by
  have hgo : raws before (pushText.go s ns) = raws before ns := by
    induction ns using pushText.go.induct generalizing before with
    | case1 => rfl
    | case2 t => rfl
    | case3 n ns hn ih =>
      rw [pushText.go]
      · rw [raws, raws, ih]
      · exact hn
  unfold pushText
  split
  · rfl
  · exact hgo

theorem getLast?_pushText {s : String} (hs : s ≠ "") (ns : List Node) :
    ∃ t, (pushText s ns).getLast? = some (.text (t ++ s)) := by
  rw [pushText, if_neg hs]
  induction ns using pushText.go.induct with
  | case1 => exact ⟨"", by simp [pushText.go]⟩
  | case2 t => exact ⟨t, rfl⟩
  | case3 n ns hn ih =>
    obtain ⟨t, ht⟩ := ih
    refine ⟨t, ?_⟩
    rw [pushText.go, List.getLast?_cons, ht]
    · rfl
    · exact hn

namespace Builder

variable {b c d : Builder}

def stackRaws : List (List Node) → List RawSite
  | [] => []
  | ns :: rest => stackRaws rest ++ Folio.raws none ns

/-- The nodes of markup in the open elements, those of the outermost one first. -/
def raws (b : Builder) : List RawSite :=
  stackRaws ((b.top :: b.below).map (·.element.children))

/-- Whether markup would stand right behind a node of markup. -/
def endsInMarkup (b : Builder) : Bool :=
  match b.top.element.children.getLast? with
  | some (.raw _) => true
  | _ => false

/-- Between blocks, with no image and no metadata open. -/
structure Ready (b : Builder) : Prop where
  elements : ∀ kind ∈ (b.top :: b.below).map (·.kind), kind = .element
  outside : b.inHtmlBlock = false

theorem Ready.kind (h : b.Ready) : b.top.kind = .element :=
  h.elements _ (by simp)

/-- Nothing has happened to the nodes of markup. -/
structure Quiet (b c : Builder) : Prop where
  raws : c.raws = b.raws
  ready : b.Ready → c.Ready

theorem Quiet.refl (b : Builder) : Quiet b b :=
  ⟨rfl, id⟩

theorem Quiet.trans (h : Quiet b c) (h' : Quiet c d) : Quiet b d :=
  ⟨h'.raws.trans h.raws, h'.ready ∘ h.ready⟩

theorem Ready.congr (h : b.Ready)
    (hk : (c.top :: c.below).map (·.kind) = (b.top :: b.below).map (·.kind))
    (hi : c.inHtmlBlock = b.inHtmlBlock) : c.Ready :=
  ⟨hk ▸ h.elements, hi.trans h.outside⟩

/-- What is remembered besides the open elements and HTML blocks does not matter. -/
theorem quiet_of_eq (ht : c.top = b.top) (hb : c.below = b.below)
    (hi : c.inHtmlBlock = b.inHtmlBlock) : Quiet b c where
  raws := by rw [Builder.raws, Builder.raws, ht, hb]
  ready h := h.congr (by rw [ht, hb]) hi

theorem raws_mapChildren_concat (b : Builder) (n : Node) :
    (b.mapChildren (· ++ [n])).raws = b.raws ++ n.raws b.top.element.children.getLast? := by
  simp [raws, mapChildren, stackRaws, raws_concat]

theorem raws_of_children {l : List Node} {s : String}
    (h : b.top.element.children = l ++ [.raw s]) :
    b.raws = (stackRaws (b.below.map (·.element.children)) ++ Folio.raws none l) ++
      [⟨l.getLast?, s⟩] := by
  simp [raws, stackRaws, h, raws_concat, Node.raws]

theorem quiet_pushText (b : Builder) (s : String) : Quiet b (b.pushText s) where
  raws := by simp [raws, pushText, mapChildren, stackRaws, raws_pushText]
  ready h := h.congr rfl rfl

theorem endsInMarkup_pushText (b : Builder) (s : String) :
    (b.pushText s).endsInMarkup = (b.endsInMarkup && s = "") := by
  by_cases hs : s = ""
  · subst hs
    simp [pushText, mapChildren, Folio.pushText, endsInMarkup]
  · obtain ⟨t, ht⟩ := getLast?_pushText hs b.top.element.children
    simp [pushText, mapChildren, endsInMarkup, ht, hs]

theorem quiet_breakLine (b : Builder) : Quiet b b.breakLine := by
  unfold breakLine
  split
  · split
    · exact .refl b
    · exact quiet_pushText b "\n"
  · obtain ⟨hr, hk⟩ := quiet_pushText b "\n"
    exact ⟨hr, fun h => (hk h).congr rfl rfl⟩

theorem inHtmlBlock_breakLine (b : Builder) : b.breakLine.inHtmlBlock = b.inHtmlBlock := by
  unfold breakLine
  split
  · split <;> rfl
  · rfl

/-- What stands behind a new line stands at the beginning of one. -/
theorem getLast?_breakLine {n : Node} (h : b.breakLine.top.element.children.getLast? = some n) :
    ∃ s, n = .text (s ++ "\n") := by
  have hpush : (pushText b "\n").top.element.children.getLast? = some n →
      ∃ s, n = .text (s ++ "\n") := by
    intro hp
    obtain ⟨s, hs⟩ := getLast?_pushText (s := "\n") (by decide) b.top.element.children
    exact ⟨s, Option.some.inj (hp.symm.trans hs)⟩
  unfold breakLine at h
  split at h
  · split at h
    · rename_i hempty
      rw [List.isEmpty_iff.mp hempty] at h
      cases h
    · exact hpush h
  · exact hpush h

theorem append_element (b : Builder) (tag : String) (p : Properties) (children : List Node) :
    b.append (.element tag p children) =
      (if isBlockTag tag then b.breakLine else b).mapChildren (· ++ [.element tag p children]) :=
  rfl

theorem quiet_line (b : Builder) (block : Bool) : Quiet b (if block then b.breakLine else b) := by
  split
  · exact quiet_breakLine b
  · exact .refl b

theorem raws_append_element (b : Builder) (tag : String) (p : Properties) (children : List Node) :
    (b.append (.element tag p children)).raws = b.raws ++ Folio.raws none children := by
  rw [append_element, raws_mapChildren_concat, (quiet_line b _).raws]
  rfl

theorem ready_append_element (tag : String) (p : Properties) (children : List Node) (h : b.Ready) :
    (b.append (.element tag p children)).Ready :=
  ((quiet_line b (isBlockTag tag)).ready h).congr rfl rfl

theorem quiet_append {tag : String} {p : Properties} {children : List Node}
    (h : Folio.raws none children = []) : Quiet b (b.append (.element tag p children)) where
  raws := by rw [raws_append_element, h, List.append_nil]
  ready := ready_append_element tag p children

theorem endsInMarkup_append (b : Builder) (tag : String) (p : Properties) (children : List Node) :
    (b.append (.element tag p children)).endsInMarkup = false := by
  rw [append_element]
  simp [mapChildren, endsInMarkup]

theorem quiet_openElement {e : Element} (h : e.children = []) : Quiet b (b.openElement e) where
  raws := by simp [raws, openElement, openFrame, stackRaws, h, Folio.raws]
  ready hb := by
    refine ⟨?_, hb.outside⟩
    intro kind hk
    rcases List.mem_cons.mp hk with rfl | hk
    · rfl
    · exact hb.elements kind hk

theorem raws_closed (f : Frame) :
    Folio.raws none f.closed.children = Folio.raws none f.element.children := by
  unfold Frame.closed
  split
  · exact raws_pushText none "\n" _
  · rfl

theorem quiet_close (b : Builder) : Quiet b b.close := by
  cases hb : b.below with
  | nil =>
    rw [close_of_outermost hb]
    exact .refl b
  | cons outer below =>
    rw [close_of_below hb, Frame.toNode_closed]
    constructor
    · rw [raws_append_element, raws_closed]
      simp [raws, stackRaws, hb]
    · intro h
      refine ready_append_element _ _ _ ⟨?_, h.outside⟩
      intro kind hk
      exact h.elements kind (by rw [hb]; exact List.mem_cons_of_mem _ hk)

theorem below_append (b : Builder) (n : Node) : (b.append n).below = b.below := by
  simpa using (grown_append b (n := n) rfl).below

theorem below_close (b : Builder) : b.close.below = b.below.tail := by
  cases hb : b.below with
  | nil => rw [close_of_outermost hb, hb, List.tail_nil]
  | cons outer below => rw [close_of_below hb, below_append, List.tail_cons]

theorem endsInMarkup_close (h : 0 < b.below.length) : b.close.endsInMarkup = false := by
  obtain ⟨outer, below, hb⟩ := List.exists_cons_of_length_pos h
  rw [close_of_below hb, Frame.toNode_closed]
  exact endsInMarkup_append _ _ _ _

theorem quiet_marked (b : Builder) (m : Bool) : Quiet b (b.marked m) where
  raws := congrArg stackRaws (map_marked (fun _ _ => rfl) b m)
  ready h := h.congr (map_marked (fun _ _ => rfl) b m) rfl

theorem quiet_taskMarker (b : Builder) (checked : Bool) :
    Quiet b (b.taskMarker checked) ∧ (b.taskMarker checked).endsInMarkup = false := by
  obtain ⟨p, hp⟩ := taskMarker_eq checked
  rw [hp]
  refine ⟨((quiet_marked b true).trans (quiet_append rfl)).trans (quiet_pushText _ " "), ?_⟩
  rw [endsInMarkup_pushText]
  simp

theorem quiet_footnoteNumber (b : Builder) (label : String) :
    Quiet b (b.footnoteNumber label).1 := by
  unfold footnoteNumber
  split
  · exact .refl b
  · exact quiet_of_eq rfl rfl rfl

/-- Whether a part of a document is an element with the content of the part inside. -/
def isElement : TagKind → Bool
  | .htmlBlock | .image | .metadata => false
  | _ => true

/-- The number of elements that the end of such a part closes, but for the body of a table. -/
def closes : TagKind → Nat
  | .codeBlock | .tableHead => 2
  | _ => 1

/-- New elements are open, with no markup right before what comes next. -/
structure Opens (n : Nat) (b c : Builder) : Prop extends Quiet b c where
  endsInMarkup : c.endsInMarkup = false
  below : n ≤ c.below.length

theorem opens_openElement {e : Element} (h : e.children = []) (hb : Quiet b c) {n : Nat}
    (hn : n ≤ c.below.length) : Opens (n + 1) b (c.openElement e) where
  toQuiet := hb.trans (quiet_openElement h)
  endsInMarkup := by simp [Builder.endsInMarkup, openElement, openFrame, h]
  below := Nat.succ_le_succ hn

theorem opens_footnoteDefinition (b : Builder) (label : String) :
    Opens 1 b (b.footnoteDefinition label) := by
  have hdiv : Opens 1 b ((b.footnoteNumber label).1.openElement
      ⟨"div", ⟨[("class", .tokens ["footnote-definition"]), ("id", .text label)]⟩, []⟩) :=
    opens_openElement rfl (quiet_footnoteNumber b label) (Nat.zero_le _)
  refine ⟨hdiv.toQuiet.trans (quiet_append rfl), endsInMarkup_append _ _ _ _, ?_⟩
  exact (congrArg List.length (below_append _ _)).symm ▸ hdiv.below

theorem opens_enter (b : Builder) {tag : Tag} (h : isElement tag.kind = true) :
    Opens (closes tag.kind) b (b.enter tag) := by
  have hone : ∀ {e : Element} {c : Builder}, e.children = [] → Quiet b c →
      Opens 1 b (c.openElement e) := fun he hc => opens_openElement he hc (Nat.zero_le _)
  have htwo : ∀ {e : Element} {c : Builder}, e.children = [] → Opens 1 b c →
      Opens 2 b (c.openElement e) := fun he hc => opens_openElement he hc.toQuiet hc.below
  cases tag with
  | heading level id classes attributes =>
    exact hone (Nest.headingElement_spec ..).2 (.refl b)
  | list start =>
    obtain ⟨p, he⟩ := listElement_eq start
    exact hone (by rw [he]) (.refl b)
  | link url title email =>
    obtain ⟨p, he⟩ := linkElement_eq url title email
    exact hone (by rw [he]) (.refl b)
  | fencedCode info =>
    obtain ⟨p, he⟩ := codeElement_eq info
    exact htwo (by rw [he]) (hone rfl (.refl b))
  | indentedCode => exact htwo (e := ⟨"code", {}, []⟩) rfl (hone rfl (.refl b))
  | footnote label => exact opens_footnoteDefinition b label
  | table alignments =>
    exact hone (c := { b with alignments := alignments, tableBodyOpen := false }) rfl
      (quiet_of_eq rfl rfl rfl)
  | tableHead =>
    exact htwo (e := ⟨"tr", {}, []⟩) rfl (hone (c := { b with inTableHead := true, cellIndex := 0 })
      rfl (quiet_of_eq rfl rfl rfl))
  | tableRow =>
    have hbody : Quiet b (if b.tableBodyOpen then b else Nest.openBody b) := by
      split
      · exact .refl b
      · have hopen : Quiet b { b with tableBodyOpen := true } := quiet_of_eq rfl rfl rfl
        exact hopen.trans (quiet_openElement rfl)
    have hrow := hbody.trans (quiet_of_eq (c := { (if b.tableBodyOpen then b
      else Nest.openBody b) with cellIndex := 0 }) rfl rfl rfl)
    exact hone (e := ⟨"tr", {}, []⟩) rfl hrow
  | tableCell =>
    exact hone (c := { b with cellIndex := b.cellIndex + 1 }) (by rw [cellElement_eq])
      (quiet_of_eq rfl rfl rfl)
  | htmlBlock | image | metadata => cases h
  | _ => exact hone rfl (.refl b)

theorem quiet_endBody (b : Builder) : Quiet b (Nest.endBody b) := by
  unfold Nest.endBody
  split
  · have hend : Quiet b { b with tableBodyOpen := false } := quiet_of_eq rfl rfl rfl
    exact hend.trans (quiet_close _)
  · exact .refl b

theorem quiet_leave (b : Builder) {kind : TagKind} (h : isElement kind = true) :
    Quiet b (b.leave kind) := by
  cases kind with
  | codeBlock => exact (quiet_close b).trans (quiet_close _)
  | tableHead =>
    have hhead : Quiet b { b with inTableHead := false } := quiet_of_eq rfl rfl rfl
    exact (hhead.trans (quiet_close _)).trans (quiet_close _)
  | table =>
    have hend : Quiet b { Nest.endBody b with alignments := [] } :=
      (quiet_endBody b).trans (quiet_of_eq rfl rfl rfl)
    exact hend.trans (quiet_close _)
  | htmlBlock | image | metadata => cases h
  | _ => exact quiet_close b

theorem endsInMarkup_leave {kind : TagKind} (h : isElement kind = true) (ht : kind ≠ .table)
    (hb : closes kind ≤ b.below.length) : (b.leave kind).endsInMarkup = false := by
  have htwice : ∀ c : Builder, 2 ≤ c.below.length → c.close.close.endsInMarkup = false := by
    intro c hc
    refine endsInMarkup_close ?_
    rw [below_close, List.length_tail]
    omega
  cases kind with
  | codeBlock => exact htwice b hb
  | tableHead => exact htwice { b with inTableHead := false } hb
  | table => exact absurd rfl ht
  | htmlBlock | image | metadata => cases h
  | _ => exact endsInMarkup_close hb

theorem endsInMarkup_leave_table (h : 0 < (Nest.endBody b).below.length) :
    (b.leave .table).endsInMarkup = false :=
  endsInMarkup_close (b := { Nest.endBody b with alignments := [] }) h

def isMarkup : Event → Bool
  | .html _ | .inlineHtml _ => true
  | _ => false

def isNothing : Event → Bool
  | .text s => s = ""
  | _ => false

theorem quiet_event {e : Event} (hs : ∀ tag, e ≠ .enter tag) (hl : ∀ kind, e ≠ .leave kind)
    (hm : isMarkup e = false) (b : Builder) :
    Quiet b (b.pushElementEvent e) ∧
      (b.pushElementEvent e).endsInMarkup = (b.endsInMarkup && isNothing e) := by
  unfold pushElementEvent
  cases e with
  | enter tag => exact absurd rfl (hs tag)
  | leave kind => exact absurd rfl (hl kind)
  | html s | inlineHtml s => cases hm
  | text s => exact ⟨quiet_pushText b s, endsInMarkup_pushText b s⟩
  | softBreak => exact ⟨quiet_pushText b "\n", endsInMarkup_pushText b "\n"⟩
  | hardBreak =>
    have hbr : Quiet b (b.append (.element "br" {} [])) := quiet_append rfl
    refine ⟨hbr.trans (quiet_pushText _ "\n"), ?_⟩
    exact (endsInMarkup_pushText _ "\n").trans (by simp [isNothing])
  | taskMarker checked => simpa [isNothing] using quiet_taskMarker b checked
  | footnoteReference label =>
    refine ⟨(quiet_footnoteNumber b label).trans (quiet_append rfl), ?_⟩
    exact (endsInMarkup_append _ _ _ _).trans (by simp [isNothing])
  | code s | inlineMath s | displayMath s | rule =>
    exact ⟨quiet_append rfl, (endsInMarkup_append _ _ _ _).trans (by simp [isNothing])⟩

end Builder

end Folio
