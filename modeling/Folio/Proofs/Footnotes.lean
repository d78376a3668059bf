import Folio.Proofs.FirstUse
import Folio.Proofs.TextNormal
import Folio.Proofs.TextPieces

/-! The numbers of footnotes. A label gets its number from the place where it first comes in the
events, in a reference or a definition, and whatever shows this footnote shows that number. -/

namespace Folio

open Markdown (Event Tag TagKind)

/-- A reference to a footnote, or its definition. -/
inductive Note
  | reference (label : String)
  | definition (label : String)
  deriving DecidableEq, Repr

namespace Note

def label : Note → String
  | reference label | definition label => label

def ofEvent? : Event → Option Note
  | .footnoteReference label => some (.reference label)
  | .enter (.footnote label) => some (.definition label)
  | _ => none

def referenceMark (label : String) (number : Nat) : Element :=
  .withClass "sup" "footnote-reference"
    [.element "a" ⟨[("href", .text ("#" ++ label))]⟩ [.text (toString number)]]

def definitionMark (number : Nat) : Element :=
  .withClass "sup" "footnote-definition-label" [.text (toString number)]

/-- A definition with no more than its number in it. -/
def definitionStart (label : String) (number : Nat) : Element :=
  ⟨"div", ⟨[("class", .tokens ["footnote-definition"]), ("id", .text label)]⟩,
    [(definitionMark number).toNode]⟩

/-- The elements that show a note with its number, as they follow one another in the tree. -/
def elements (number : Nat) : Note → List Element
  | reference label => [referenceMark label number]
  | definition label => [definitionStart label number, definitionMark number]

end Note

def Intake.notes : Intake → Event → List Note
  | .element, e => (Note.ofEvent? e).toList
  | _, _ => []

def notesFrom : Intake → List Event → List Note
  | _, [] => []
  | i, e :: events => i.notes e ++ notesFrom (i.after e) events

/-- The notes among the events that are outside of images and of metadata. -/
def notes (events : List Event) : List Note :=
  notesFrom .element events

namespace Element

def isFootnoteMark (e : Element) : Bool :=
  e.tag == "sup" && (e.properties.hasClass "footnote-reference" ||
    e.properties.hasClass "footnote-definition-label")

def isFootnoteDefinition (e : Element) : Bool :=
  e.tag == "div" && e.properties.hasClass "footnote-definition"

/-- What an element shows of a footnote: of a definition it is the beginning. -/
def footnotePart? (e : Element) : Option Element :=
  if e.isFootnoteMark then some e
  else if e.isFootnoteDefinition then some { e with children := e.children.take 1 }
  else none

/-- Whatever comes behind its content, the element shows the same of a footnote. -/
def Steady (e : Element) : Prop :=
  ∀ ns, Continues e.children ns → { e with children := ns }.footnotePart? = e.footnotePart?

def Unmarked (e : Element) : Prop :=
  e.isFootnoteMark = false ∧ e.isFootnoteDefinition = false

variable {e : Element}

theorem Unmarked.footnotePart? (h : e.Unmarked) : e.footnotePart? = none := by
  simp [Element.footnotePart?, h.1, h.2]

theorem Unmarked.steady (h : e.Unmarked) : e.Steady := by
  intro ns _
  have hns : Unmarked { e with children := ns } := h
  rw [h.footnotePart?, hns.footnotePart?]

theorem unmarked_of_tag (hs : e.tag ≠ "sup") (hd : e.tag ≠ "div") : e.Unmarked := by
  simp [Unmarked, isFootnoteMark, isFootnoteDefinition, hs, hd]

theorem unmarked_of_li (h : e.tag = "li") : e.Unmarked :=
  unmarked_of_tag (by simp [h]) (by simp [h])

theorem Steady.continues (h : e.Steady) {ns : List Node} (hc : Continues e.children ns) :
    Steady { e with children := ns } := by
  intro ms hms
  exact (h ms (hc.trans hms)).trans (h ns hc).symm

end Element

/-- What a tree shows of footnotes, in document order. -/
def footnoteParts (ns : List Node) : List Element :=
  (elements ns).filterMap Element.footnotePart?

theorem footnoteParts_append (ns ms : List Node) :
    footnoteParts (ns ++ ms) = footnoteParts ns ++ footnoteParts ms := by
  rw [footnoteParts, elements_append, List.filterMap_append]
  rfl

theorem footnoteParts_pushText (s : String) (ns : List Node) :
    footnoteParts (pushText s ns) = footnoteParts ns := by
  rw [footnoteParts, elements_pushText]
  rfl

theorem footnoteParts_toNode (e : Element) :
    footnoteParts [e.toNode] = e.footnotePart?.toList ++ footnoteParts e.children := by
  have helements : elements [e.toNode] = e :: elements e.children := List.append_nil _
  rw [footnoteParts, helements, List.filterMap_cons]
  cases e.footnotePart? <;> rfl

/-- What open elements show of footnotes, the innermost one of them first in the list. The outermost
one is the document. -/
def stackParts : List Element → List Element
  | [] => []
  | e :: outer =>
    stackParts outer ++ ((if outer = [] then [] else e.footnotePart?.toList) ++
      footnoteParts e.children)

theorem stackParts_cons {e : Element} {outer : List Element} (h : outer ≠ []) :
    stackParts (e :: outer) = stackParts outer ++ footnoteParts [e.toNode] := by
  rw [stackParts, if_neg h, footnoteParts_toNode]

namespace Builder

variable {b c d : Builder} {es es' : List Element}

def openElements (b : Builder) : List Element :=
  b.top.element :: b.below.map (·.element)

theorem openElements_ne_nil (b : Builder) : b.openElements ≠ [] :=
  List.cons_ne_nil _ _

def parts (b : Builder) : List Element :=
  stackParts b.openElements

def Steady (b : Builder) : Prop :=
  ∀ e ∈ b.openElements, e.Steady

/-- The labels of footnotes in the order of their numbers. -/
def labels (b : Builder) : List String :=
  b.footnotes.reverse

theorem steady_and_parts_of_below (hb : b.Steady) {outer : Frame} {below : List Frame}
    (h : b.below = outer :: below) : b.top.element.Steady ∧
      Steady { b with top := outer, below := below } ∧
      b.parts = parts { b with top := outer, below := below } ++
        footnoteParts [b.top.element.toNode] := by
  have hopen : b.openElements =
      b.top.element :: openElements { b with top := outer, below := below } := by
    rw [openElements, h]
    rfl
  rw [Steady, hopen] at hb
  obtain ⟨htop, houter⟩ := List.forall_mem_cons.mp hb
  refine ⟨htop, houter, ?_⟩
  rw [parts, hopen, stackParts_cons (openElements_ne_nil _)]
  rfl

/-- The second builder shows some more of footnotes than the first one, all with numbers that are
given already. -/
def Puts (es : List Element) (b c : Builder) : Prop :=
  b.Steady → c.Steady ∧ c.labels = b.labels ∧ c.parts = b.parts ++ es

theorem Puts.trans (h : Puts es b c) (h' : Puts es' c d) : Puts (es ++ es') b d := by
  intro hb
  obtain ⟨hc, hlabels, hparts⟩ := h hb
  obtain ⟨hd, hlabels', hparts'⟩ := h' hc
  refine ⟨hd, hlabels'.trans hlabels, ?_⟩
  rw [hparts', hparts, List.append_assoc]

theorem puts_of_openElements (h : c.openElements = b.openElements) (hl : c.labels = b.labels) :
    Puts [] b c := by
  intro hb
  rw [Steady, parts, h, hl, List.append_nil]
  exact ⟨hb, rfl, rfl⟩

theorem Puts.refl (b : Builder) : Puts [] b b :=
  puts_of_openElements rfl rfl

theorem puts_mapChildren {f : List Node → List Node}
    (hc : Continues b.top.element.children (f b.top.element.children))
    (hp : footnoteParts (f b.top.element.children) =
      footnoteParts b.top.element.children ++ es) : Puts es b (b.mapChildren f) := by
  intro hb
  obtain ⟨htop, hbelow⟩ := List.forall_mem_cons.mp hb
  refine ⟨List.forall_mem_cons.mpr ⟨htop.continues hc, hbelow⟩, rfl, ?_⟩
  show stackParts ({ b.top.element with children := _ } :: b.below.map (·.element)) =
    stackParts (b.top.element :: b.below.map (·.element)) ++ es
  rw [stackParts, stackParts, htop _ hc, hp, List.append_assoc, List.append_assoc]

theorem puts_pushText (b : Builder) (s : String) : Puts [] b (b.pushText s) :=
  puts_mapChildren (continues_pushText s _) (by rw [footnoteParts_pushText, List.append_nil])

theorem puts_breakLine (b : Builder) : Puts [] b b.breakLine := by
  unfold breakLine
  split
  · split
    · exact .refl b
    · exact puts_pushText b "\n"
  · exact puts_pushText b "\n"

theorem puts_append (b : Builder) (n : Node) : Puts (footnoteParts [n]) b (b.append n) := by
  have hline : Puts [] b (if b.isBlock n then b.breakLine else b) := by
    split
    · exact puts_breakLine b
    · exact .refl b
  have hput : ∀ c : Builder, Puts (footnoteParts [n]) c (c.mapChildren (· ++ [n])) := fun c =>
    puts_mapChildren (continues_append _ _) (footnoteParts_append _ _)
  unfold append
  cases n with
  | text s => exact hline.trans (puts_pushText _ s)
  | raw s => exact hline.trans (hput _)
  | element tag p children => exact hline.trans (hput _)

theorem puts_pushHtml (b : Builder) (markup : String) : Puts [] b (b.pushHtml markup) := by
  unfold pushHtml
  split
  · rename_i s _ hs
    obtain ⟨init, hi⟩ := List.getLast?_eq_some_iff.mp hs
    refine puts_mapChildren ?_ ?_
    · rw [hi, List.dropLast_concat]
      exact (Continues.raw s markup []).append_left init
    · rw [hi, List.dropLast_concat, footnoteParts_append, footnoteParts_append, List.append_nil]
      rfl
  · exact puts_append b (.raw markup)

theorem stackParts_markTask (fs : List Frame) :
    stackParts ((markTask fs).map (·.element)) = stackParts (fs.map (·.element)) := by
  induction fs with
  | nil => rfl
  | cons f fs ih =>
    rw [markTask_cons]
    split
    · rename_i hli
      -- Only the list item changes, and that shows nothing of a footnote before or after.
      have hf := Element.unmarked_of_li hli
      have hset : (f.element.set "class" (.tokens ["task-list-item"])).Unmarked :=
        Element.unmarked_of_li hli
      rw [List.map_cons, List.map_cons, stackParts, stackParts, hf.footnotePart?,
        hset.footnotePart?]
      rfl
    · have hnil : (markTask fs).map (·.element) = [] ↔ fs.map (·.element) = [] := by
        cases fs with
        | nil => rfl
        | cons g gs => rw [markTask_cons]; split <;> simp
      rw [List.map_cons, List.map_cons, stackParts, stackParts, ih]
      simp only [hnil]

theorem steady_markTask {fs : List Frame} (h : ∀ e ∈ fs.map (·.element), e.Steady) :
    ∀ e ∈ (markTask fs).map (·.element), e.Steady := by
  induction fs with
  | nil => exact h
  | cons f fs ih =>
    obtain ⟨hf, hfs⟩ := List.forall_mem_cons.mp h
    rw [markTask_cons]
    split
    · rename_i hli
      have hset : (f.element.set "class" (.tokens ["task-list-item"])).Unmarked :=
        Element.unmarked_of_li hli
      exact List.forall_mem_cons.mpr ⟨hset.steady, hfs⟩
    · exact List.forall_mem_cons.mpr ⟨hf, ih hfs⟩

theorem puts_marked (b : Builder) : Puts [] b (b.marked true) := by
  intro hb
  have hframes := marked_frames b true
  rw [if_pos rfl] at hframes
  have hopen : (b.marked true).openElements = (markTask (b.top :: b.below)).map (·.element) :=
    congrArg (List.map Frame.element) hframes
  refine ⟨?_, rfl, ?_⟩
  · rw [Steady, hopen]
    exact steady_markTask hb
  · rw [parts, hopen, stackParts_markTask, List.append_nil]
    rfl

theorem puts_taskMarker (b : Builder) (checked : Bool) : Puts [] b (b.taskMarker checked) := by
  obtain ⟨p, hp⟩ := taskMarker_eq checked
  rw [hp]
  exact ((puts_marked b).trans (puts_append _ (.element "input" p []))).trans (puts_pushText _ " ")

theorem puts_openFrame (b : Builder) {f : Frame} (hf : f.element.Unmarked)
    (hc : f.element.children = []) : Puts [] b (b.openFrame f) := by
  intro hb
  refine ⟨List.forall_mem_cons.mpr ⟨hf.steady, hb⟩, rfl, ?_⟩
  show stackParts (f.element :: b.openElements) = _
  rw [stackParts_cons (openElements_ne_nil b), footnoteParts_toNode, hf.footnotePart?, hc]
  rfl

theorem puts_openElement (b : Builder) {e : Element} (hs : e.tag ≠ "sup") (hd : e.tag ≠ "div")
    (hc : e.children = []) : Puts [] b (b.openElement e) :=
  puts_openFrame b (Element.unmarked_of_tag hs hd) hc

/-- The end of an element changes its place, but not what it shows of a footnote. -/
theorem puts_close (b : Builder) : Puts [] b b.close := by
  cases hbelow : b.below with
  | nil =>
    rw [close_of_outermost hbelow]
    exact .refl b
  | cons outer below =>
    intro hb
    obtain ⟨htop, houter, hparts⟩ := steady_and_parts_of_below hb hbelow
    have hclosed : footnoteParts [b.top.closed.toNode] = footnoteParts [b.top.element.toNode] := by
      unfold Frame.closed
      split
      · rw [footnoteParts_toNode, footnoteParts_toNode, htop _ (continues_pushText "\n" _),
          footnoteParts_pushText]
      · rfl
    obtain ⟨hsteady, hlabels, hput⟩ := puts_append _ b.top.closed.toNode houter
    rw [close_of_below hbelow]
    refine ⟨hsteady, hlabels, ?_⟩
    rw [hput, hparts, hclosed, List.append_nil]

theorem puts_enter (b : Builder) {tag : Tag} (hf : tag.kind ≠ .footnote) :
    Puts [] b (b.enter tag) := by
  cases tag with
  | footnote label => exact absurd rfl hf
  | htmlBlock => exact puts_of_openElements (c := { b with inHtmlBlock := true }) rfl rfl
  | heading level id classes attributes =>
    obtain ⟨htag, hc⟩ := Nest.headingElement_spec level id classes attributes
    have hne : ∀ s : String, s.toList.head? ≠ some 'h' →
        (headingElement level id classes attributes).tag ≠ s := by
      rintro s hs rfl
      rw [htag] at hs
      simp at hs
    exact puts_openElement b (hne "sup" (by simp)) (hne "div" (by simp)) hc
  | list start =>
    obtain ⟨p, he⟩ := listElement_eq start
    cases start <;> exact puts_openElement b (by simp [he]) (by simp [he]) (by rw [he])
  | link url title email =>
    obtain ⟨p, he⟩ := linkElement_eq url title email
    exact puts_openElement b (by simp [he]) (by simp [he]) (by rw [he])
  | fencedCode info =>
    obtain ⟨p, he⟩ := codeElement_eq info
    exact (puts_openElement b (by simp) (by simp) rfl).trans
      (puts_openElement _ (by simp [he]) (by simp [he]) (by rw [he]))
  | indentedCode =>
    exact (puts_openElement b (by simp) (by simp) rfl).trans
      (puts_openElement _ (by simp) (by simp) rfl)
  | table alignments =>
    exact puts_openElement { b with alignments := alignments, tableBodyOpen := false }
      (by simp) (by simp) rfl
  | tableHead =>
    have hhead : Puts [] b (Nest.openHead b) :=
      puts_openElement { b with inTableHead := true, cellIndex := 0 } (by simp) (by simp) rfl
    exact hhead.trans (puts_openElement _ (by simp) (by simp) rfl)
  | tableRow =>
    have hbody : Puts [] b (if b.tableBodyOpen then b else Nest.openBody b) := by
      split
      · exact .refl b
      · exact puts_openElement { b with tableBodyOpen := true } (by simp) (by simp) rfl
    exact hbody.trans (puts_openElement
      { (if b.tableBodyOpen then b else Nest.openBody b) with cellIndex := 0 }
      (by simp) (by simp) rfl)
  | tableCell =>
    have htag : ∀ s, s ≠ "th" → s ≠ "td" → b.cellElement.tag ≠ s := by
      rintro s hth htd rfl
      rw [cellElement_eq] at hth htd
      cases hhead : b.inTableHead <;> simp [hhead] at hth htd
    exact puts_openElement { b with cellIndex := b.cellIndex + 1 } (htag "sup" (by simp) (by simp))
      (htag "div" (by simp) (by simp)) (by rw [cellElement_eq])
  | superscript => exact puts_openFrame b ⟨by decide, by decide⟩ rfl
  | image url title => exact puts_openFrame b (Element.unmarked_of_tag (by simp) (by simp)) rfl
  | metadata => exact puts_openFrame b (Element.unmarked_of_tag (by simp) (by simp)) rfl
  | _ => exact puts_openElement b (by simp) (by simp) rfl

theorem puts_leave (b : Builder) (kind : TagKind) : Puts [] b (b.leave kind) := by
  have hclose : ∀ {c : Builder}, Puts [] b c → Puts [] b c.close := fun h =>
    h.trans (puts_close _)
  cases kind with
  | htmlBlock => exact puts_of_openElements (c := { b with inHtmlBlock := false }) rfl rfl
  | codeBlock => exact hclose (puts_close b)
  | tableHead => exact hclose (puts_close { b with inTableHead := false })
  | table =>
    have hbody : Puts [] b (Nest.endBody b) := by
      unfold Nest.endBody
      split
      · exact puts_close { b with tableBodyOpen := false }
      · exact .refl b
    exact hbody.trans (puts_close { Nest.endBody b with alignments := [] })
  | image | metadata => exact .refl b
  | _ => exact puts_close b

/-- The second builder has taken in the notes and shows them, each with the number that its label
has got. -/
structure Takes (notes : List Note) (b c : Builder) : Prop where
  steady : c.Steady
  labels : c.labels = (notes.map Note.label).foldl appendNew b.labels
  parts : c.parts = b.parts ++ notes.flatMap fun n => n.elements (c.labels.idxOf n.label + 1)

theorem Puts.takes (h : Puts [] b c) (hb : b.Steady) : Takes [] b c := by
  obtain ⟨hc, hlabels, hparts⟩ := h hb
  exact ⟨hc, hlabels, hparts⟩

theorem Takes.trans {notes notes' : List Note} (h : Takes notes b c) (h' : Takes notes' c d) :
    Takes (notes ++ notes') b d := by
  -- The numbers that the first notes show stay those of their labels.
  have hstay : ∀ n ∈ notes, d.labels.idxOf n.label = c.labels.idxOf n.label := by
    intro n hn
    have hmem : n.label ∈ c.labels := by
      rw [h.labels]
      exact mem_foldl_appendNew (List.mem_map_of_mem hn)
    rw [h'.labels, idxOf_foldl_appendNew _ hmem]
  have hshown : (notes.flatMap fun n => n.elements (c.labels.idxOf n.label + 1)) =
      notes.flatMap fun n => n.elements (d.labels.idxOf n.label + 1) :=
    List.flatMap_congr fun n hn => by rw [hstay n hn]
  refine ⟨h'.steady, ?_, ?_⟩
  · rw [h'.labels, h.labels, List.map_append, List.foldl_append]
  · rw [h'.parts, h.parts, List.flatMap_append, hshown, List.append_assoc]

/-- The builder when a label has got its number. -/
def numbered (b : Builder) (label : String) : Builder :=
  { b with footnotes := (appendNew b.labels label).reverse }

theorem labels_numbered (b : Builder) (label : String) :
    (b.numbered label).labels = appendNew b.labels label :=
  List.reverse_reverse _

theorem footnoteNumber_eq (b : Builder) (label : String) : b.footnoteNumber label =
    (b.numbered label, (appendNew b.labels label).idxOf label + 1) := by
  unfold footnoteNumber numbered
  cases hi : b.footnotes.reverse.idxOf? label with
  | some i =>
    have hmem : label ∈ b.labels := by
      rw [← List.isSome_idxOf?]
      exact hi ▸ rfl
    have hold : appendNew b.labels label = b.labels := if_pos (by simpa using hmem)
    have hplace : b.labels.idxOf label = i := by
      rw [List.idxOf_eq_getD_idxOf?, labels, hi]
      rfl
    rw [hold, hplace, labels, List.reverse_reverse]
  | none =>
    have hmem : label ∉ b.labels := List.idxOf?_eq_none_iff.mp hi
    have hnew : appendNew b.labels label = b.labels ++ [label] := if_neg (by simpa using hmem)
    have hplace : (b.labels ++ [label]).idxOf label = b.footnotes.length := by
      rw [List.idxOf_append_of_notMem hmem, List.idxOf_cons_self, labels, List.length_reverse,
        Nat.add_zero]
    rw [hnew, hplace, List.reverse_append, labels, List.reverse_reverse]
    rfl

theorem footnoteParts_referenceMark (label : String) (number : Nat) :
    footnoteParts [(Note.referenceMark label number).toNode] =
      [Note.referenceMark label number] := by
  rfl

theorem footnoteParts_definitionStart (label : String) (number : Nat) :
    footnoteParts [(Note.definitionStart label number).toNode] =
      [Note.definitionStart label number, Note.definitionMark number] := by
  rfl

theorem takes_footnoteReference (hb : b.Steady) (label : String) :
    Takes [.reference label] b (b.footnoteReference label) := by
  have hpush : b.footnoteReference label = (b.numbered label).append
      (Note.referenceMark label ((appendNew b.labels label).idxOf label + 1)).toNode := by
    rw [footnoteReference, footnoteNumber_eq]
    rfl
  obtain ⟨hsteady, hlabels, hparts⟩ := puts_append (b.numbered label) _ hb
  rw [hpush]
  refine ⟨hsteady, hlabels.trans (labels_numbered b label), ?_⟩
  rw [hlabels, hparts, labels_numbered, footnoteParts_referenceMark]
  rfl

theorem steady_definitionStart (label : String) (number : Nat) :
    (Note.definitionStart label number).Steady := by
  intro ns hns
  cases hns with
  | cons n h => rfl

theorem takes_footnoteDefinition (hb : b.Steady) (label : String) :
    Takes [.definition label] b (b.footnoteDefinition label) := by
  -- The number is no block, so it is the first node of the definition.
  have hpush : b.footnoteDefinition label = (b.numbered label).openElement
      (Note.definitionStart label ((appendNew b.labels label).idxOf label + 1)) := by
    rw [footnoteDefinition, footnoteNumber_eq]
    rfl
  have hlabels : (b.footnoteDefinition label).labels = appendNew b.labels label := by
    rw [hpush]
    exact labels_numbered b label
  have hparts : (b.footnoteDefinition label).parts = b.parts ++ footnoteParts
      [(Note.definitionStart label ((appendNew b.labels label).idxOf label + 1)).toNode] := by
    rw [hpush]
    exact stackParts_cons (openElements_ne_nil b)
  refine ⟨?_, hlabels, ?_⟩
  · rw [hpush]
    exact List.forall_mem_cons.mpr ⟨steady_definitionStart label _, hb⟩
  · rw [hparts, hlabels, footnoteParts_definitionStart]
    rfl

theorem takes_pushElementEvent (hb : b.Steady) (e : Event) :
    Takes (Intake.element.notes e) b (b.pushElementEvent e) := by
  have hnode : ∀ n, footnoteParts [n] = [] → Takes [] b (b.append n) := fun n hn =>
    Puts.takes (hn ▸ puts_append b n) hb
  cases e with
  | enter tag =>
    by_cases hf : tag.kind = .footnote
    · cases tag with
      | footnote label => exact takes_footnoteDefinition hb label
      | _ => cases hf
    · have hnone : Intake.element.notes (.enter tag) = [] := by
        cases tag with
        | footnote label => exact absurd rfl hf
        | _ => rfl
      rw [hnone]
      exact (puts_enter b hf).takes hb
  | footnoteReference label => exact takes_footnoteReference hb label
  | leave kind => exact (puts_leave b kind).takes hb
  | text s => exact (puts_pushText b s).takes hb
  | softBreak => exact (puts_pushText b "\n").takes hb
  | html markup => exact (puts_pushHtml b markup).takes hb
  | taskMarker checked => exact (puts_taskMarker b checked).takes hb
  | hardBreak =>
    exact ((puts_append b (.element "br" {} [])).trans (puts_pushText _ "\n")).takes hb
  | code s => exact hnode (.element "code" {} [.text s]) rfl
  | inlineMath s => exact hnode (mathElement "math-inline" s) rfl
  | displayMath s => exact hnode (.element "pre" {} [mathElement "math-display" s]) rfl
  | inlineHtml markup => exact hnode (.raw markup) rfl
  | rule => exact hnode (.element "hr" {} []) rfl

theorem puts_drop {outer : Frame} {below : List Frame} (hbelow : b.below = outer :: below)
    (hidle : footnoteParts [b.top.element.toNode] = []) :
    Puts [] b { b with top := outer, below := below } := by
  intro hb
  obtain ⟨-, houter, hparts⟩ := steady_and_parts_of_below hb hbelow
  refine ⟨houter, rfl, ?_⟩
  rw [hparts, hidle, List.append_nil, List.append_nil]

/-- The innermost element takes in everything, or it shows nothing of a footnote. -/
def Idle (b : Builder) : Prop :=
  b.top.kind = .element ∨ footnoteParts [b.top.element.toNode] = []

theorem idle_pushElementEvent (h : b.Ordinary) (e : Event) : (b.pushElementEvent e).Idle := by
  have hkind : ∀ {c : Builder}, c.Ordinary → c.Idle := fun hc => .inl (hc _ List.mem_cons_self)
  cases e with
  | enter tag =>
    cases tag with
    | image url title | metadata => exact .inr rfl
    | _ => exact hkind (h.enter nofun nofun)
  | leave kind => exact hkind (h.leave kind)
  | _ => exact hkind (h.of_grown (grown_event (by nofun) (by nofun) b).1)

theorem puts_pushImageEvent (h : b.Contained) (hidle : footnoteParts [b.top.element.toNode] = [])
    (src title alt : String) (nested : Nat) (e : Event) :
    Puts [] b (b.pushImageEvent src title alt nested e) ∧
      (b.pushImageEvent src title alt nested e).Idle := by
  have hturn : ∀ kind, Puts [] b { b with top.kind := kind } ∧ Idle { b with top.kind := kind } :=
    fun kind => ⟨puts_of_openElements rfl rfl, .inr hidle⟩
  have hsame : Puts [] b b ∧ b.Idle := ⟨.refl b, .inr hidle⟩
  unfold pushImageEvent
  split
  · exact hturn _
  · exact hturn _
  · exact hturn _
  · exact hturn _
  · exact hturn _
  · split
    · exact hturn _
    · rename_i outer below hbelow
      obtain ⟨p, he⟩ := imageElement_eq src title alt
      have himage : footnoteParts [(imageElement src title alt).toNode] = [] := by
        rw [he]
        rfl
      have hgrown := grown_append { b with top := outer, below := below }
        (n := (imageElement src title alt).toNode) rfl
      have hout := (h.outer hbelow).of_grown hgrown
      exact ⟨(puts_drop hbelow hidle).trans (himage ▸ puts_append _ _),
        .inl (hout _ List.mem_cons_self)⟩
    · exact hsame
  · exact hsame

theorem puts_pushIgnoredEvent (h : b.Contained) (hidle : footnoteParts [b.top.element.toNode] = [])
    (e : Event) : Puts [] b (b.pushIgnoredEvent e) ∧ (b.pushIgnoredEvent e).Idle := by
  have hsame : Puts [] b b ∧ b.Idle := ⟨.refl b, .inr hidle⟩
  unfold pushIgnoredEvent
  split
  · split
    · rename_i hbelow
      exact ⟨puts_drop hbelow hidle, .inl (h.outer hbelow _ List.mem_cons_self)⟩
    · exact hsame
  · exact hsame

/-- What the builder is like between an event and the next. -/
structure Waiting (b : Builder) : Prop where
  contained : b.Contained
  steady : b.Steady
  idle : b.Idle

theorem takes_push (h : b.Waiting) (e : Event) :
    (b.push e).Waiting ∧ Takes (b.top.kind.intake.notes e) b (b.push e) := by
  have hpush : Takes (b.top.kind.intake.notes e) b (b.push e) ∧ (b.push e).Idle := by
    unfold push
    cases hk : b.top.kind with
    | element =>
      have hb : b.Ordinary := List.forall_mem_cons.mpr ⟨hk, h.contained.below⟩
      exact ⟨takes_pushElementEvent h.steady e, idle_pushElementEvent hb e⟩
    | image src title alt nested =>
      have hidle := h.idle.resolve_left (by simp [hk])
      obtain ⟨hputs, hafter⟩ := puts_pushImageEvent h.contained hidle src title alt nested e
      exact ⟨hputs.takes h.steady, hafter⟩
    | ignored =>
      have hidle := h.idle.resolve_left (by simp [hk])
      obtain ⟨hputs, hafter⟩ := puts_pushIgnoredEvent h.contained hidle e
      exact ⟨hputs.takes h.steady, hafter⟩
  exact ⟨⟨(intake_push h.contained e).2, hpush.1.steady, hpush.2⟩, hpush.1⟩

theorem takes_foldl (h : b.Waiting) (events : List Event) :
    Takes (notesFrom b.top.kind.intake events) b (events.foldl push b) := by
  induction events generalizing b with
  | nil => exact (Puts.refl b).takes h.steady
  | cons e events ih =>
    obtain ⟨hwaiting, htakes⟩ := takes_push h e
    have hrest := ih hwaiting
    rw [(intake_push h.contained e).1] at hrest
    exact htakes.trans hrest

theorem puts_closeAll (b : Builder) (k : Nat) : Puts [] b (b.closeAll k) := by
  induction k generalizing b with
  | zero => exact .refl b
  | succ k ih => exact (puts_close b).trans (ih b.close)

theorem footnoteParts_finish (hb : b.Steady) : footnoteParts b.finish = b.parts := by
  obtain ⟨-, -, hparts⟩ := puts_closeAll b b.below.length hb
  have hbelow : (b.closeAll b.below.length).below = [] := by
    rw [(moves_closeAll b _).2, List.drop_length]
  have hroot : (b.closeAll b.below.length).parts = footnoteParts b.finish := by
    rw [parts, openElements, hbelow]
    rfl
  rw [← hroot, hparts, List.append_nil]

end Builder

/-- The labels of the notes have the numbers from 1 on in the order in which they first come. In
document order, the tree shows each note with the number of its label and nothing else of
footnotes. -/
theorem footnotes_numbered (events : List Event) :
    ∃ (k : Nat) (number : String → Nat),
      Set.BijOn number {l | l ∈ (notes events).map Note.label} (Set.Icc 1 k) ∧
      (∀ l ∈ (notes events).map Note.label, ∀ l' ∈ (notes events).map Note.label,
        (number l < number l' ↔ ((notes events).map Note.label).idxOf l <
          ((notes events).map Note.label).idxOf l')) ∧
      footnoteParts (buildTree events) =
        (notes events).flatMap fun n => n.elements (number n.label) := by
  have hstart : Builder.Waiting {} :=
    ⟨⟨nofun, fun h => absurd rfl h⟩, List.forall_mem_singleton.mpr fun ns _ => rfl, .inl rfl⟩
  have hrun := Builder.takes_foldl hstart events
  have huses := firstUses_foldl ((notes events).map Note.label)
  refine ⟨_, _, huses.bijOn, fun l hl l' hl' => ?_, ?_⟩
  · have horder := huses.order l ((huses.mem_iff l).mpr hl) l' ((huses.mem_iff l').mpr hl')
    rw [← horder]
    exact Nat.succ_lt_succ_iff
  · rw [buildTree, Builder.footnoteParts_finish hrun.steady, hrun.parts, hrun.labels]
    rfl

end Folio
