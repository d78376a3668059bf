import Folio.Proofs.Growth
import Folio.Proofs.ImageContent

/-! The builder on well-nested events. Whatever the builder has been through before, such a stretch
of events only adds to the innermost open element what its outline says. -/

namespace Folio

open Markdown (Event Tag TagKind)

namespace Nest

open Builder

variable {b : Builder}

def build (n : Nest) (b : Builder) : Builder :=
  n.events.foldl push b

def buildSpan (tag : Tag) (content : Nest) (b : Builder) : Builder :=
  (content.build (b.push (.enter tag))).push (.leave tag.kind)

theorem build_event (e : Event) (rest : Nest) (b : Builder) :
    (event e rest).build b = rest.build (b.push e) := rfl

theorem build_span (tag : Tag) (content rest : Nest) (b : Builder) :
    (span tag content rest).build b = rest.build (content.buildSpan tag b) := by
  simp [build, buildSpan, events]

theorem push_of_element (h : b.top.kind = .element) (e : Event) :
    b.push e = b.pushElementEvent e := by
  rw [push, h]

theorem buildSpan_of_element {tag : Tag} {content : Nest} (hb : b.top.kind = .element)
    (hk : (content.build (b.enter tag)).top.kind = .element) :
    content.buildSpan tag b = (content.build (b.enter tag)).leave tag.kind := by
  rw [buildSpan, push_of_element hb]
  exact push_of_element hk _

theorem build_ignored {n : Nest} (h : n.fits .metadata = true) (hb : b.top.kind = .ignored) :
    n.build b = b := by
  induction n with
  | done => rfl
  | event e rest ih =>
    rw [fits, Bool.and_eq_true] at h
    have hp : b.push e = b := by
      obtain ⟨-, hl⟩ := not_enter_leave_of_admits h.1
      rw [push, hb]
      cases e with
      | leave kind => exact absurd rfl (hl kind)
      | _ => rfl
    rw [build_event, hp]
    exact ih h.2
  | span tag content rest => cases h

theorem buildSpan_image {content : Nest} {pl : Place} (hf : content.fits pl = true)
    (hb : b.top.kind = .element) (url title : String) :
    content.buildSpan (.image url title) b =
      b.append (imageElement url title content.alt).toNode := by
  have himage := foldl_push_image hb (foldlM_openImages? hf 0) url title
  rw [alt_eq_altText content hf, ← himage]
  simp [buildSpan, build, imageEvents, Tag.kind]

theorem buildSpan_metadata {content : Nest} (hf : content.fits .metadata = true)
    (hb : b.top.kind = .element) : content.buildSpan .metadata b = b := by
  rw [buildSpan, push_of_element hb]
  show push (content.build (b.enter .metadata)) _ = _
  rw [build_ignored hf rfl]
  rfl

theorem headingElement_spec (level : Nat) (id : Option String) (classes : List String)
    (attributes : List (String × Option String)) :
    (headingElement level id classes attributes).tag = "h" ++ toString level ∧
      (headingElement level id classes attributes).children = [] := by
  unfold headingElement
  refine List.foldlRecOn (motive := fun e : Element => e.tag = "h" ++ toString level ∧
    e.children = []) _ _ ?_ (fun e he _ _ => he)
  cases id <;> split <;> exact ⟨rfl, rfl⟩

/-- The element of a part that is nothing but this element. -/
def plainElement? : Tag → Option Element
  | .paragraph => some ⟨"p", {}, []⟩
  | .heading level id classes attributes => some (headingElement level id classes attributes)
  | .blockquote => some ⟨"blockquote", {}, []⟩
  | .list start => some (listElement start)
  | .item => some ⟨"li", {}, []⟩
  | .definitionList => some ⟨"dl", {}, []⟩
  | .definitionTerm => some ⟨"dt", {}, []⟩
  | .definition => some ⟨"dd", {}, []⟩
  | .emphasis => some ⟨"em", {}, []⟩
  | .strong => some ⟨"strong", {}, []⟩
  | .strikethrough => some ⟨"del", {}, []⟩
  | .superscript => some ⟨"sup", {}, []⟩
  | .subscript => some ⟨"sub", {}, []⟩
  | .link url title email => some (linkElement url title email)
  | _ => none

structure Plain (tag : Tag) (e : Element) : Prop where
  enter : ∀ b : Builder, b.enter tag = b.openElement e
  leave : ∀ b : Builder, b.leave tag.kind = b.close
  outline : ∀ inHead ns,
    spanOutline inHead ns tag = [.element e.tag {} (Folio.outline e.children ++ ns)]
  marks : showsMarkers tag.kind = decide (e.tag ≠ "li")
  inside? : ∀ pl, pl = Place.flow ∨ pl = .cell → pl.inside? tag.kind = some (pl, pl)

theorem inside?_eq {kind : TagKind} (h : standsAnywhere kind = true) (pl : Place)
    (hpl : pl = .flow ∨ pl = .cell) : pl.inside? kind = some (pl, pl) := by
  rcases hpl with rfl | rfl <;> simp [Place.inside?, h]

theorem plain_of_plainElement? {tag : Tag} {e : Element} (h : plainElement? tag = some e) :
    Plain tag e := by
  cases tag with
  | heading level id classes attributes =>
    obtain rfl := Option.some.inj h
    obtain ⟨ht, hc⟩ := headingElement_spec level id classes attributes
    refine ⟨fun b => rfl, fun b => rfl, fun inHead ns => ?_, ?_, inside?_eq rfl⟩
    · rw [ht, hc]
      rfl
    · have hli : "h" ++ toString level ≠ "li" := by
        intro hh
        have := congrArg (·.toList.head?) hh
        simp at this
      rw [ht, decide_eq_true hli]
      rfl
  | list start =>
    obtain rfl := Option.some.inj h
    obtain ⟨p, he⟩ := listElement_eq start
    refine ⟨fun b => rfl, fun b => rfl, fun inHead ns => ?_, ?_, inside?_eq rfl⟩
    · rw [he]
      rfl
    · rw [he]
      cases start <;> rfl
  | link url title email =>
    obtain rfl := Option.some.inj h
    obtain ⟨p, he⟩ := linkElement_eq url title email
    refine ⟨fun b => rfl, fun b => rfl, fun inHead ns => ?_, ?_, inside?_eq rfl⟩
    · rw [he]
      rfl
    · rw [he]
      rfl
  | paragraph | blockquote | item | definitionList | definitionTerm | definition | emphasis
  | strong | strikethrough | superscript | subscript =>
    obtain rfl := Option.some.inj h
    exact ⟨fun b => rfl, fun b => rfl, fun inHead ns => rfl, rfl,
      inside?_eq rfl⟩
  | _ => cases h

def openHead (b : Builder) : Builder :=
  { b with inTableHead := true, cellIndex := 0 }.openElement ⟨"thead", {}, []⟩

def openBody (b : Builder) : Builder :=
  { b with tableBodyOpen := true }.openElement ⟨"tbody", {}, []⟩

def endBody (b : Builder) : Builder :=
  if b.tableBodyOpen then { b with tableBodyOpen := false }.close else b

/-- The stretch adds its outline. If it stands in a cell it leaves the table as it is. -/
def Adds (n : Nest) (inCell : Prop) : Prop :=
  ∀ inHead b, b.top.kind = .element →
    Grown (n.outline inHead) n.marks b (n.build b) ∧
      (inCell → (n.build b).tableState = b.tableState)

def Does (n : Nest) : Place → Prop
  | .metadata => True
  | .table => ∀ inHead b, b.top.kind = .element → b.tableBodyOpen = false →
      (n.build b).top.kind = .element ∧
        Grown (withBody (n.outline inHead)) n.marks b (endBody (n.build b))
  | .rows => ∀ inHead b, b.top.kind = .element → b.tableState = (true, false) →
      Grown (n.outline inHead) n.marks b (n.build b) ∧ (n.build b).tableState = (true, false)
  | .row => ∀ b, b.top.kind = .element →
      Grown (n.outline b.inTableHead) n.marks b (n.build b) ∧
        (n.build b).tableState = b.tableState
  | pl => n.Adds (pl = .cell)

section Spans

variable {tag : Tag} {content rest : Nest} {ns : List Node} {m : Bool} {c : Builder} {e : Element}

theorem grown_buildSpan (tag : Tag) (hb : b.top.kind = .element)
    (ho : b.enter tag = c.openElement e) (hl : ∀ d : Builder, d.leave tag.kind = d.close)
    (ht : b.top = c.top) (hw : b.below = c.below)
    (hc : Grown ns m (c.openElement e) (content.build (c.openElement e))) :
    Grown [.element e.tag {} (Folio.outline e.children ++ ns)] (e.tag ≠ "li" && m) b
      (content.buildSpan tag b) ∧
    (content.buildSpan tag b).tableState = (content.build (c.openElement e)).tableState := by
  have hp : content.buildSpan tag b = (content.build (c.openElement e)).close := by
    rw [buildSpan_of_element hb (by rw [ho]; exact hc.kind.trans rfl), ho]
    exact hl _
  rw [hp]
  exact ⟨(grown_close hc).congr ht hw rfl rfl, tableState_close _⟩

theorem does_cell (hc : Does content .cell) (hr : Does rest .row) :
    Does (span .tableCell content rest) .row := by
  intro b hb
  have hin := hc false ({ b with cellIndex := b.cellIndex + 1 }.openElement b.cellElement) rfl
  obtain ⟨hg, hs⟩ := grown_buildSpan .tableCell hb rfl (fun _ => rfl) rfl rfl hin.1
  have hstate : (content.buildSpan .tableCell b).tableState = b.tableState :=
    hs.trans (hin.2 rfl)
  have hrest := hr _ (hg.kind.trans hb)
  have hhead : (content.buildSpan .tableCell b).inTableHead = b.inTableHead :=
    congrArg Prod.snd hstate
  rw [hhead] at hrest
  have hcell : Folio.outline b.cellElement.children = [] ∧
      b.cellElement.tag = if b.inTableHead then "th" else "td" := by
    rw [cellElement_eq]
    exact ⟨rfl, rfl⟩
  have hli : b.cellElement.tag ≠ "li" := by
    rw [hcell.2]
    split <;> decide
  rw [hcell.1, decide_eq_true hli, hcell.2] at hg
  rw [build_span]
  exact ⟨hg.trans hrest.1, hrest.2.trans hstate⟩

theorem does_row (hc : Does content .row) (hr : Does rest .rows) :
    Does (span .tableRow content rest) .rows := by
  intro inHead b hb hstate
  have hbody : b.tableBodyOpen = true := congrArg Prod.fst hstate
  have ho : b.enter .tableRow = { b with cellIndex := 0 }.openElement ⟨"tr", {}, []⟩ := by
    rw [enter, openRow, if_pos hbody]
  have hin := hc ({ b with cellIndex := 0 }.openElement ⟨"tr", {}, []⟩) rfl
  have hhead : b.inTableHead = false := congrArg Prod.snd hstate
  obtain ⟨hg, hs⟩ := grown_buildSpan .tableRow hb ho (fun _ => rfl) rfl rfl hin.1
  have hrest := hr inHead _ (hg.kind.trans hb) ((hs.trans hin.2).trans hstate)
  rw [build_span]
  refine ⟨?_, hrest.2⟩
  have hgrown := hg.trans hrest.1
  rw [show (openElement { b with cellIndex := 0 } ⟨"tr", {}, []⟩).inTableHead = false from hhead]
    at hgrown
  exact hgrown

theorem tableRow_of_fits (hf : (span tag content rest).fits .rows = true) :
    tag = .tableRow ∧ content.fits .row = true ∧ rest.fits .rows = true := by
  obtain ⟨inner, next, hi, hfc, hfr⟩ := inside?_of_fits hf
  cases tag with
  | tableRow =>
    obtain ⟨rfl, rfl⟩ := Prod.mk.inj (Option.some.inj hi)
    exact ⟨rfl, hfc, hfr⟩
  | _ => cases hi

theorem push_tableRow (hb : b.top.kind = .element) (hbody : b.tableBodyOpen = false) :
    b.push (.enter .tableRow) = (openBody b).push (.enter .tableRow) := by
  rw [push_of_element hb, push_of_element (b := openBody b) rfl]
  simp only [pushElementEvent, enter, openRow, hbody]
  rfl

theorem build_tableRow (hb : b.top.kind = .element) (hbody : b.tableBodyOpen = false) :
    (span .tableRow content rest).build b = (span .tableRow content rest).build (openBody b) := by
  rw [build_span, build_span, buildSpan, buildSpan, push_tableRow hb hbody]

theorem grown_body (inHead : Bool) (hr : Does rest .rows) (hhead : b.inTableHead = false) :
    (rest.build (openBody b)).top.kind = .element ∧
      Grown [.element "tbody" {} (rest.outline inHead)] rest.marks b
        (endBody (rest.build (openBody b))) := by
  have hstate : (openBody b).tableState = (true, false) := congrArg (Prod.mk true) hhead
  obtain ⟨hg, hs⟩ := hr inHead (openBody b) rfl hstate
  refine ⟨hg.kind.trans rfl, ?_⟩
  have hopen : (rest.build (openBody b)).tableBodyOpen = true := congrArg Prod.fst hs
  rw [endBody, if_pos hopen]
  have hend := hg.congr rfl rfl
    (y := { rest.build (openBody b) with tableBodyOpen := false }) rfl rfl
  exact (grown_close_fresh (show "tbody" ≠ "li" by decide) hend).congr rfl rfl rfl rfl

theorem grown_tableHead (hc : Does content .row) (hb : b.top.kind = .element) :
    Grown [.element "thead" {} [.element "tr" {} (content.outline true)]] content.marks b
      (content.buildSpan .tableHead b) ∧
    (content.buildSpan .tableHead b).tableState = (b.tableBodyOpen, false) := by
  obtain ⟨hg, hs⟩ := hc ((openHead b).openElement ⟨"tr", {}, []⟩) rfl
  have hp : content.buildSpan .tableHead b =
      { content.build (b.enter .tableHead) with inTableHead := false }.close.close :=
    buildSpan_of_element hb (hg.kind.trans rfl)
  rw [hp]
  constructor
  · have hcells := hg.congr rfl rfl
      (y := { content.build (b.enter .tableHead) with inTableHead := false }) rfl rfl
    have hrow := grown_close_fresh (show "tr" ≠ "li" by decide) hcells
    exact (grown_close_fresh (show "thead" ≠ "li" by decide) hrow).congr rfl rfl rfl rfl
  · rw [tableState_close, tableState_close]
    exact congrArg (fun state : Bool × Bool => (state.1, false)) hs

theorem does_head (hc : Does content .row) (hf : rest.fits .rows = true) (hr : Does rest .rows) :
    Does (span .tableHead content rest) .table := by
  intro inHead b hb hbody
  obtain ⟨hg, hs⟩ := grown_tableHead hc hb
  have hkind := hg.kind.trans hb
  have hopen : (content.buildSpan .tableHead b).tableBodyOpen = false :=
    (congrArg Prod.fst hs).trans hbody
  rw [build_span]
  cases rest with
  | done =>
    refine ⟨hkind, ?_⟩
    rw [show done.build (content.buildSpan .tableHead b) = content.buildSpan .tableHead b from rfl,
      endBody, if_neg (by simp [hopen])]
    exact hg.trans (.refl _)
  | event e more =>
    cases e <;> cases hf
  | span row cells more =>
    -- The first row opens the body, and nothing but the end of the table closes it.
    obtain ⟨rfl, -, -⟩ := tableRow_of_fits hf
    obtain ⟨hk, hbodyGrown⟩ := grown_body inHead hr (congrArg Prod.snd hs)
    rw [build_tableRow hkind hopen]
    exact ⟨hk, hg.trans hbodyGrown⟩

def SpanAdds (tag : Tag) (content : Nest) (inCell : Prop) : Prop :=
  ∀ inHead b, b.top.kind = .element →
    Grown (spanOutline inHead (content.outline (tag.kind = .tableHead)) tag)
      (showsMarkers tag.kind && content.marks) b (content.buildSpan tag b) ∧
    (inCell → (content.buildSpan tag b).tableState = b.tableState)

variable {inCell : Prop}

theorem adds_span (hs : SpanAdds tag content inCell) (hr : rest.Adds inCell) :
    (span tag content rest).Adds inCell := by
  intro inHead b hb
  obtain ⟨hg, hstate⟩ := hs inHead b hb
  obtain ⟨hg', hstate'⟩ := hr inHead _ (hg.kind.trans hb)
  rw [build_span]
  exact ⟨hg.trans hg', fun h => (hstate' h).trans (hstate h)⟩

theorem spanAdds_plain (hp : Plain tag e) (hc : content.Adds inCell) :
    SpanAdds tag content inCell := by
  intro inHead b hb
  obtain ⟨hg, hstate⟩ := hc (tag.kind = .tableHead) (b.openElement e) rfl
  obtain ⟨hspan, hs⟩ := grown_buildSpan tag hb (hp.enter b) hp.leave rfl rfl hg
  rw [hp.outline, hp.marks]
  exact ⟨hspan, fun h => hs.trans (hstate h)⟩

theorem spanAdds_code {p : Properties} (ho : ∀ b : Builder, b.enter tag =
    (b.openElement ⟨"pre", {}, []⟩).openElement ⟨"code", p, []⟩) (hk : tag.kind = .codeBlock)
    (hout : ∀ inHead ns, spanOutline inHead ns tag = [.element "pre" {} [.element "code" {} ns]])
    (hc : content.Adds inCell) : SpanAdds tag content inCell := by
  intro inHead b hb
  obtain ⟨hg, hstate⟩ := hc (tag.kind = .tableHead) (b.enter tag) (by rw [ho]; rfl)
  have hspan : content.buildSpan tag b = (content.build (b.enter tag)).close.close := by
    rw [buildSpan_of_element hb (hg.kind.trans (by rw [ho]; rfl)), hk]
    rfl
  rw [hspan, hout, hk]
  refine ⟨?_, fun h => ?_⟩
  · rw [ho] at hg ⊢
    exact grown_close_fresh (show "pre" ≠ "li" by decide)
      (grown_close_fresh (show "code" ≠ "li" by decide) (hk ▸ hg))
  · rw [tableState_close, tableState_close, hstate h, ho]
    rfl

theorem spanAdds_htmlBlock (hc : content.Adds inCell) : SpanAdds .htmlBlock content inCell := by
  intro inHead b hb
  obtain ⟨hg, hstate⟩ := hc false { b with inHtmlBlock := true } hb
  have hspan : content.buildSpan .htmlBlock b =
      { content.build { b with inHtmlBlock := true } with inHtmlBlock := false } :=
    buildSpan_of_element hb (hg.kind.trans hb)
  rw [hspan]
  exact ⟨hg.congr rfl rfl rfl rfl, hstate⟩

theorem spanAdds_footnote (label : String) (hc : content.Adds inCell) :
    SpanAdds (.footnote label) content inCell := by
  intro inHead b hb
  obtain ⟨ht, hw, hs⟩ := footnoteNumber_frames b label
  have hsup : Grown [.element "sup" {} []] false ((b.footnoteNumber label).1.openElement
      ⟨"div", ⟨[("class", .tokens ["footnote-definition"]), ("id", .text label)]⟩, []⟩)
      (b.enter (.footnote label)) := by
    rw [enter, footnoteDefinition]
    exact grown_append _ rfl
  obtain ⟨hg, hstate⟩ := hc false (b.enter (.footnote label)) hsup.kind
  have hspan : content.buildSpan (.footnote label) b =
      (content.build (b.enter (.footnote label))).close :=
    buildSpan_of_element hb (hg.kind.trans hsup.kind)
  rw [hspan]
  refine ⟨?_, fun h => ?_⟩
  · exact (grown_close_fresh (show "div" ≠ "li" by decide) (hsup.trans hg)).congr ht.symm hw.symm
      rfl rfl
  · rw [tableState_close, hstate h]
    exact (tableState_append _ _).trans hs

theorem spanAdds_image (url title : String) {pl : Place} (hf : content.fits pl = true) :
    SpanAdds (.image url title) content inCell := by
  intro inHead b hb
  have hout : (imageElement url title content.alt).toNode.outline = [.element "img" {} []] := by
    obtain ⟨p, he⟩ := imageElement_eq url title content.alt
    rw [he]
    rfl
  rw [buildSpan_image hf hb]
  exact ⟨grown_append b hout, fun _ => tableState_append b _⟩

theorem spanAdds_metadata (hf : content.fits .metadata = true) :
    SpanAdds .metadata content inCell := by
  intro inHead b hb
  rw [buildSpan_metadata hf hb]
  exact ⟨.refl b, fun _ => rfl⟩

theorem spanAdds_table (alignments : List Markdown.Alignment) (hc : Does content .table)
    (hq : ¬ inCell) : SpanAdds (.table alignments) content inCell := by
  intro inHead b hb
  obtain ⟨hk, hg⟩ := hc false (b.enter (.table alignments)) rfl rfl
  have hspan : content.buildSpan (.table alignments) b =
      { endBody (content.build (b.enter (.table alignments))) with alignments := [] }.close :=
    buildSpan_of_element hb hk
  rw [hspan]
  refine ⟨?_, fun h => absurd h hq⟩
  have hend := hg.congr rfl rfl
    (y := { endBody (content.build (b.enter (.table alignments))) with alignments := [] }) rfl rfl
  exact (grown_close_fresh (show "table" ≠ "li" by decide) hend).congr rfl rfl rfl rfl

/-- What a part may be that stands in the flow or in a cell, with the content that it may have. -/
inductive Standing (content : Nest) (pl : Place) : Tag → Prop
  | plain {tag : Tag} {e : Element} (h : Plain tag e) (hf : content.fits pl = true) :
    Standing content pl tag
  | code {tag : Tag} {p : Properties} (enter : ∀ b : Builder, b.enter tag =
      (b.openElement ⟨"pre", {}, []⟩).openElement ⟨"code", p, []⟩) (kind : tag.kind = .codeBlock)
    (outline : ∀ inHead ns,
      spanOutline inHead ns tag = [.element "pre" {} [.element "code" {} ns]])
    (hf : content.fits pl = true) : Standing content pl tag
  | htmlBlock (hf : content.fits pl = true) : Standing content pl .htmlBlock
  | footnote (label : String) (hf : content.fits pl = true) : Standing content pl (.footnote label)
  | image (url title : String) (hf : content.fits pl = true) :
    Standing content pl (.image url title)
  | table (alignments : List Markdown.Alignment) (hpl : pl ≠ .cell)
    (hf : content.fits .table = true) : Standing content pl (.table alignments)
  | metadata (hf : content.fits .metadata = true) : Standing content pl .metadata

theorem standing_of_fits {pl : Place} (hpl : pl = .flow ∨ pl = .cell)
    (hf : (span tag content rest).fits pl = true) :
    Standing content pl tag ∧ rest.fits pl = true := by
  obtain ⟨inner, next, hi, hfc, hfr⟩ := inside?_of_fits hf
  have hhere : pl.inside? tag.kind = some (pl, pl) →
      content.fits pl = true ∧ rest.fits pl = true := by
    intro hp
    rw [hp] at hi
    obtain ⟨rfl, rfl⟩ := Prod.mk.inj (Option.some.inj hi)
    exact ⟨hfc, hfr⟩
  cases hp : plainElement? tag with
  | some e =>
    have hplain := plain_of_plainElement? hp
    obtain ⟨hfc, hfr⟩ := hhere (hplain.inside? pl hpl)
    exact ⟨.plain hplain hfc, hfr⟩
  | none =>
    have hother := fun hk => hhere (inside?_eq hk pl hpl)
    cases tag with
    | fencedCode info =>
      obtain ⟨hfc, hfr⟩ := hother rfl
      obtain ⟨p, hcode⟩ := codeElement_eq info
      exact ⟨.code (fun b => by rw [enter, hcode]) rfl (fun _ _ => rfl) hfc, hfr⟩
    | indentedCode =>
      obtain ⟨hfc, hfr⟩ := hother rfl
      exact ⟨.code (fun b => rfl) rfl (fun _ _ => rfl) hfc, hfr⟩
    | htmlBlock =>
      obtain ⟨hfc, hfr⟩ := hother rfl
      exact ⟨.htmlBlock hfc, hfr⟩
    | footnote label =>
      obtain ⟨hfc, hfr⟩ := hother rfl
      exact ⟨.footnote label hfc, hfr⟩
    | image url title =>
      obtain ⟨hfc, hfr⟩ := hother rfl
      exact ⟨.image url title hfc, hfr⟩
    | table alignments =>
      rcases hpl with rfl | rfl
      · obtain ⟨rfl, rfl⟩ := Prod.mk.inj (Option.some.inj hi)
        exact ⟨.table alignments nofun hfc, hfr⟩
      · cases hi
    | metadata =>
      rcases hpl with rfl | rfl
      · obtain ⟨rfl, rfl⟩ := Prod.mk.inj (Option.some.inj hi)
        exact ⟨.metadata hfc, hfr⟩
      · obtain ⟨rfl, rfl⟩ := Prod.mk.inj (Option.some.inj hi)
        exact ⟨.metadata hfc, hfr⟩
    | tableHead | tableRow | tableCell => rcases hpl with rfl | rfl <;> cases hi
    | _ => cases hp

theorem spanAdds_of_standing {pl : Place} (hpl : pl = .flow ∨ pl = .cell)
    (hs : Standing content pl tag) (hc : ∀ {pl}, content.fits pl = true → Does content pl) :
    SpanAdds tag content (pl = .cell) := by
  have hadds : content.fits pl = true → content.Adds (pl = .cell) := by
    intro h
    have hd := hc h
    rcases hpl with rfl | rfl <;> exact hd
  cases hs with
  | plain h hf => exact spanAdds_plain h (hadds hf)
  | code ho hk hout hf => exact spanAdds_code ho hk hout (hadds hf)
  | htmlBlock hf => exact spanAdds_htmlBlock (hadds hf)
  | footnote label hf => exact spanAdds_footnote label (hadds hf)
  | image url title hf => exact spanAdds_image url title hf
  | table alignments hne hf => exact spanAdds_table alignments (hc hf) hne
  | metadata hf => exact spanAdds_metadata hf

end Spans

theorem adds_event {e : Event} {rest : Nest} {pl : Place} {inCell : Prop}
    (h : pl.admits e = true) (hr : rest.Adds inCell) : (event e rest).Adds inCell := by
  intro inHead b hb
  obtain ⟨hs, hl⟩ := not_enter_leave_of_admits h
  obtain ⟨hg, hstate⟩ := grown_event hs hl b
  obtain ⟨hg', hstate'⟩ := hr inHead _ (hg.kind.trans hb)
  rw [build_event, push_of_element hb]
  exact ⟨hg.trans hg', fun hq => (hstate' hq).trans hstate⟩

theorem does_of_fits {n : Nest} {pl : Place} (h : n.fits pl = true) : Does n pl := by
  -- By induction on the stretch; what its place asks for carries the state of the table.
  induction n generalizing pl with
  | done =>
    cases pl with
    | metadata => trivial
    | table => cases h
    | row => exact fun b _ => ⟨.refl b, rfl⟩
    | rows => exact fun _ b _ hs => ⟨.refl b, hs⟩
    | flow | cell => exact fun _ b _ => ⟨.refl b, fun _ => rfl⟩
  | event e rest ih =>
    rw [fits, Bool.and_eq_true] at h
    cases pl with
    | metadata => trivial
    | table | row | rows => cases e <;> cases h.1
    | flow | cell => exact adds_event h.1 (ih h.2)
  | span tag content rest ihc ihr =>
    cases pl with
    | metadata => trivial
    | flow =>
      obtain ⟨hs, hfr⟩ := standing_of_fits (.inl rfl) h
      exact adds_span (spanAdds_of_standing (.inl rfl) hs ihc) (ihr hfr)
    | cell =>
      obtain ⟨hs, hfr⟩ := standing_of_fits (.inr rfl) h
      exact adds_span (spanAdds_of_standing (.inr rfl) hs ihc) (ihr hfr)
    | rows =>
      obtain ⟨rfl, hfc, hfr⟩ := tableRow_of_fits h
      exact does_row (ihc hfc) (ihr hfr)
    | row =>
      obtain ⟨inner, next, hi, hfc, hfr⟩ := inside?_of_fits h
      cases tag with
      | tableCell =>
        obtain ⟨rfl, rfl⟩ := Prod.mk.inj (Option.some.inj hi)
        exact does_cell (ihc hfc) (ihr hfr)
      | _ => cases hi
    | table =>
      obtain ⟨inner, next, hi, hfc, hfr⟩ := inside?_of_fits h
      cases tag with
      | tableHead =>
        obtain ⟨rfl, rfl⟩ := Prod.mk.inj (Option.some.inj hi)
        exact does_head (ihc hfc) hfr (ihr hfr)
      | _ => cases hi

/-- Well-nested events leave all the open elements open. They add what their outline says to the
innermost one, and a document of them is all in the tree when it is finished. -/
theorem wellNested_builds_outline {n : Nest} (h : n.fits .flow = true) :
    (∀ b : Builder, b.top.kind = .element →
      (n.events.foldl push b).below.length = b.below.length ∧
      (n.events.foldl push b).below.map (·.element.children) = b.below.map (·.element.children) ∧
      Grown (n.outline false) n.marks b (n.events.foldl push b)) ∧
    (n.events.foldl push {}).below = [] ∧
    Folio.outline (buildTree n.events) = n.outline false := by
  have hadds : n.Adds (Place.flow = .cell) := does_of_fits h
  refine ⟨fun b hb => ?_, ?_⟩
  · obtain ⟨hg, -⟩ := hadds false b hb
    have hc : (n.build b).below.map (·.element.children) = b.below.map (·.element.children) := by
      rw [hg.below]
      split
      · exact markTask_children b.below
      · rfl
    have hlength := congrArg List.length hc
    rw [List.length_map, List.length_map] at hlength
    exact ⟨hlength, hc, hg⟩
  · obtain ⟨hg, -⟩ := hadds false {} rfl
    have hb : (n.build {}).below = [] := by
      rw [hg.below]
      split <;> rfl
    refine ⟨hb, ?_⟩
    show Folio.outline (n.build {}).finish = _
    rw [finish, hb]
    exact hg.outline

def tasksAndTable : Nest :=
  .span (.list none) (.span .item (.event (.taskMarker true) .done) .done)
    (.span (.table [.left])
      (.span .tableHead (.span .tableCell (.event (.text "a") .done) .done)
        (.span .tableRow (.span .tableCell (.span (.image "b" "") (.event (.code "c") .done) .done)
          .done) .done))
      (.event (.taskMarker false) .done))

/-- A builder inside a list item that still believes to be in a table and in an HTML block. -/
def insideItem : Builder :=
  { openElement {} ⟨"li", {}, [.text "a"]⟩ with tableBodyOpen := true, inHtmlBlock := true }

theorem tasksAndTable_builds_outline :
    tasksAndTable.fits .flow = true ∧
    ((tasksAndTable.events.foldl push insideItem).below.length = 1 ∧
      (tasksAndTable.events.foldl push insideItem).below.map (·.element.children) = [[]] ∧
      Grown (tasksAndTable.outline false) true insideItem
        (tasksAndTable.events.foldl push insideItem)) ∧
    (tasksAndTable.events.foldl push {}).below = [] ∧
    Folio.outline (buildTree tasksAndTable.events) =
      [.element "ul" {} [.element "li" {} [.element "input" {} []]],
        .element "table" {} [.element "thead" {} [.element "tr" {} [.element "th" {} []]],
          .element "tbody" {} [.element "tr" {} [.element "td" {} [.element "img" {} []]]]],
        .element "input" {} []] := by
  have hf : tasksAndTable.fits .flow = true := by decide
  exact ⟨hf, (wellNested_builds_outline hf).1 insideItem rfl, (wellNested_builds_outline hf).2⟩

end Nest

end Folio
