import Mathlib.Data.List.Forall2
import Folio.Proofs.MarkupNodes

/-! The moves of the builder. An event is a few of them, whether or not the stream is balanced, and
so what all moves keep is true of every tree that is built. -/

namespace Folio

open Markdown (Event Tag TagKind)

/-- The nodes that an event brings along with all that is in them. -/
inductive Brings : Event → Node → Prop
  | code (s : String) : Brings (.code s) (.element "code" {} [.text s])
  | inlineMath (s : String) : Brings (.inlineMath s) (Builder.mathElement "math-inline" s)
  | displayMath (s : String) :
      Brings (.displayMath s) (.element "pre" {} [Builder.mathElement "math-display" s])
  | html (s : String) : Brings (.html s) (.raw s)
  | inlineHtml (s : String) : Brings (.inlineHtml s) (.raw s)
  | reference (label : String) (p : Properties) (number : Nat) :
      Brings (.footnoteReference label) (Element.withClass "sup" "footnote-reference"
        [.element "a" p [.text (toString number)]]).toNode
  | label (label : String) (number : Nat) :
      Brings (.enter (.footnote label)) (Element.withClass "sup" "footnote-definition-label"
        [.text (toString number)]).toNode
  | lineBreak : Brings .hardBreak (.element "br" {} [])
  | rule : Brings .rule (.element "hr" {} [])
  | checkbox (checked : Bool) (p : Properties) :
      Brings (.taskMarker checked) (.element "input" p [])
  | image (p : Properties) : Brings (.leave .image) (.element "img" p [])

namespace Builder

/-- What is in the open elements and whether a block is among it, the innermost one first. -/
def contents (b : Builder) : List (List Node × Bool) :=
  (b.top :: b.below).map fun f => (f.element.children, f.hasBlocks)

end Builder

variable {b c d : Builder} {ns ms : List Node}

/-- A move from one builder to the next, with the nodes it puts into the tree. -/
inductive Move : List Node → Builder → Builder → Prop
  | keep {b c : Builder} (h : c.contents = b.contents) : Move [] b c
  | text (b : Builder) (s : String) : Move [] b (b.pushText s)
  | put (b : Builder) (n : Node) (h : ∀ s, n ≠ .text s) : Move [n] b (b.append n)
  | join {b : Builder} {init : List Node} {s : String}
      (h : b.top.element.children = init ++ [.raw s]) (t : String) :
      Move [] b (b.mapChildren fun _ => init ++ [.raw (s ++ t)])
  | enter (b : Builder) {f : Frame} (hc : f.element.children = []) (hb : f.hasBlocks = false) :
      Move [] b (b.openFrame f)
  | leave (b : Builder) : Move [] b b.close
  | drop {b : Builder} {outer : Frame} {below : List Frame} (h : b.below = outer :: below) :
      Move [] b { b with top := outer, below := below }

inductive Moves : List Node → Builder → Builder → Prop
  | refl (b : Builder) : Moves [] b b
  | tail {ns ms : List Node} {b c d : Builder} (h : Moves ns b c) (h' : Move ms c d) :
      Moves (ns ++ ms) b d

theorem Move.single (h : Move ns b c) : Moves ns b c :=
  .tail (.refl b) h

theorem moves_of_contents (h : c.contents = b.contents) : Moves [] b c :=
  (Move.keep h).single

theorem Moves.trans (h : Moves ns b c) (h' : Moves ms c d) : Moves (ns ++ ms) b d := by
  induction h' with
  | refl b => rwa [List.append_nil]
  | tail h₁ h₂ ih =>
    rw [← List.append_assoc]
    exact .tail (ih h) h₂

/-- An event comes to some moves, and brings one node or none. -/
def Comes (e : Event) (b c : Builder) : Prop :=
  ∃ n : Option Node, (∀ m ∈ n, Brings e m) ∧ Moves n.toList b c

theorem Moves.comes (h : Moves [] b c) (e : Event) : Comes e b c :=
  ⟨none, nofun, h⟩

theorem Brings.comes {e : Event} {n : Node} (hn : Brings e n) (h : Moves [n] b c) : Comes e b c :=
  ⟨some n, by simpa using hn, h⟩

theorem Brings.ne_text {e : Event} {n : Node} (h : Brings e n) (s : String) : n ≠ .text s := by
  rintro rfl
  cases h

namespace Builder

theorem moves_openElement (b : Builder) {e : Element} (h : e.children = []) :
    Moves [] b (b.openElement e) :=
  (Move.enter b h rfl).single

theorem comes_enter (b : Builder) (tag : Tag) : Comes (.enter tag) b (b.enter tag) := by
  have hone : ∀ {e : Element} {c : Builder}, e.children = [] → c.contents = b.contents →
      Moves [] b (c.openElement e) := fun he hc =>
    (moves_of_contents hc).trans (moves_openElement _ he)
  cases tag with
  | htmlBlock =>
    exact (moves_of_contents (b := b) (c := { b with inHtmlBlock := true }) rfl).comes _
  | heading level id classes attributes => exact (hone (Nest.headingElement_spec ..).2 rfl).comes _
  | list start =>
    obtain ⟨p, he⟩ := listElement_eq start
    exact (hone (by rw [he]) rfl).comes _
  | link url title email =>
    obtain ⟨p, he⟩ := linkElement_eq url title email
    exact (hone (by rw [he]) rfl).comes _
  | fencedCode info =>
    obtain ⟨p, he⟩ := codeElement_eq info
    exact ((moves_openElement b rfl).trans (moves_openElement _ (by rw [he]))).comes _
  | indentedCode => exact ((moves_openElement b rfl).trans (moves_openElement _ rfl)).comes _
  | footnote label =>
    have hsame : (b.footnoteNumber label).1.contents = b.contents := by
      unfold footnoteNumber
      split <;> rfl
    have hdiv := (moves_of_contents hsame).trans (moves_openElement (b.footnoteNumber label).1
      (e := ⟨"div", ⟨[("class", .tokens ["footnote-definition"]), ("id", .text label)]⟩, []⟩) rfl)
    have hlabel : Brings (.enter (.footnote label)) _ := .label label (b.footnoteNumber label).2
    exact hlabel.comes (.tail hdiv (.put _ _ hlabel.ne_text))
  | table alignments =>
    exact (hone (c := { b with alignments := alignments, tableBodyOpen := false }) rfl rfl).comes _
  | tableHead =>
    have hhead : Moves [] b (Nest.openHead b) :=
      hone (c := { b with inTableHead := true, cellIndex := 0 }) rfl rfl
    exact (hhead.trans (moves_openElement _ rfl)).comes _
  | tableRow =>
    have hbody : Moves [] b (if b.tableBodyOpen then b else Nest.openBody b) := by
      split
      · exact .refl b
      · exact hone (c := { b with tableBodyOpen := true }) rfl rfl
    have hrow : contents { (if b.tableBodyOpen then b else Nest.openBody b) with cellIndex := 0 } =
        contents (if b.tableBodyOpen then b else Nest.openBody b) := rfl
    exact ((hbody.trans (moves_of_contents hrow)).trans (moves_openElement _ rfl)).comes _
  | tableCell =>
    exact (hone (c := { b with cellIndex := b.cellIndex + 1 }) (by rw [cellElement_eq]) rfl).comes _
  | image url title => exact (Move.enter b rfl rfl).single.comes _
  | metadata => exact (Move.enter b rfl rfl).single.comes _
  | _ => exact (hone rfl rfl).comes _

theorem moves_leave (b : Builder) (kind : TagKind) : Moves [] b (b.leave kind) := by
  have hclose : ∀ {c : Builder}, Moves [] b c → Moves [] b c.close := fun h =>
    h.trans (Move.leave _).single
  cases kind with
  | htmlBlock => exact moves_of_contents (c := { b with inHtmlBlock := false }) rfl
  | codeBlock => exact hclose (hclose (.refl b))
  | tableHead =>
    exact hclose (hclose (moves_of_contents (c := { b with inTableHead := false }) rfl))
  | table =>
    have hbody : Moves [] b (Nest.endBody b) := by
      unfold Nest.endBody
      split
      · exact hclose (moves_of_contents (c := { b with tableBodyOpen := false }) rfl)
      · exact .refl b
    have hend : contents { Nest.endBody b with alignments := [] } = (Nest.endBody b).contents := rfl
    exact hclose (hbody.trans (moves_of_contents hend))
  | image | metadata => exact .refl b
  | _ => exact hclose (.refl b)

theorem comes_taskMarker (b : Builder) (checked : Bool) :
    Comes (.taskMarker checked) b (b.taskMarker checked) := by
  obtain ⟨p, hp⟩ := taskMarker_eq checked
  have hinput : Brings (.taskMarker checked) _ := .checkbox checked p
  have hmark : (b.marked true).contents = b.contents := map_marked (fun _ _ => rfl) b true
  have hput := Moves.tail (moves_of_contents hmark) (.put _ _ hinput.ne_text)
  rw [hp]
  exact hinput.comes (hput.tail (.text _ " "))

theorem moves_pushHtml (b : Builder) (markup : String) :
    Comes (.html markup) b (b.pushHtml markup) := by
  unfold pushHtml
  split
  · rename_i s _ hs
    obtain ⟨init, hinit⟩ := List.getLast?_eq_some_iff.mp hs
    have hjoin := (Move.join hinit markup).single
    rw [mapChildren] at hjoin
    rw [mapChildren, hinit, List.dropLast_concat]
    exact hjoin.comes _
  · exact (Brings.html markup).comes (Move.put b _ (Brings.html markup).ne_text).single

theorem comes_elementEvent (b : Builder) (e : Event) : Comes e b (b.pushElementEvent e) := by
  have hput : ∀ {e : Event} {n : Node}, Brings e n → Comes e b (b.append n) := fun hn =>
    hn.comes (Move.put b _ hn.ne_text).single
  cases e with
  | enter tag => exact comes_enter b tag
  | leave kind => exact (moves_leave b kind).comes _
  | text s => exact (Move.text b s).single.comes _
  | softBreak => exact (Move.text b "\n").single.comes _
  | code s => exact hput (.code s)
  | inlineMath s => exact hput (.inlineMath s)
  | displayMath s => exact hput (.displayMath s)
  | inlineHtml s => exact hput (.inlineHtml s)
  | rule => exact hput .rule
  | html s => exact moves_pushHtml b s
  | hardBreak =>
    exact Brings.lineBreak.comes
      (.tail (Move.put b _ Brings.lineBreak.ne_text).single (.text _ "\n"))
  | footnoteReference label =>
    have hsame : (b.footnoteNumber label).1.contents = b.contents := by
      unfold footnoteNumber
      split <;> rfl
    have hnote : Brings (.footnoteReference label) _ :=
      .reference label ⟨[("href", .text ("#" ++ label))]⟩ (b.footnoteNumber label).2
    exact hnote.comes (.tail (moves_of_contents hsame) (.put _ _ hnote.ne_text))
  | taskMarker checked => exact comes_taskMarker b checked

theorem comes_imageEvent (b : Builder) (src title alt : String) (nested : Nat) (e : Event) :
    Comes e b (b.pushImageEvent src title alt nested e) := by
  have hkind : ∀ kind, Comes e b { b with top.kind := kind } := fun kind =>
    (moves_of_contents (b := b) (c := { b with top.kind := kind }) rfl).comes e
  unfold pushImageEvent
  split
  · exact hkind _
  · exact hkind _
  · exact hkind _
  · exact hkind _
  · exact hkind _
  · split
    · exact hkind _
    · rename_i hbelow
      have himage : Brings (.leave .image) (imageElement src title alt).toNode := by
        obtain ⟨p, he⟩ := imageElement_eq src title alt
        rw [he]
        exact .image p
      exact himage.comes (.tail (Move.drop hbelow).single (.put _ _ himage.ne_text))
    · exact (Moves.refl b).comes _
  · exact (Moves.refl b).comes _

theorem comes_push (b : Builder) (e : Event) : Comes e b (b.push e) := by
  unfold push
  split
  · exact comes_elementEvent b e
  · exact comes_imageEvent b _ _ _ _ e
  · unfold pushIgnoredEvent
    split
    · split
      · rename_i hbelow
        exact (Move.drop hbelow).single.comes _
      · exact (Moves.refl b).comes _
    · exact (Moves.refl b).comes _

theorem moves_foldl (events : List Event) (b : Builder) :
    ∃ es ns, es.Sublist events ∧ List.Forall₂ Brings es ns ∧
      Moves ns b (events.foldl push b) := by
  induction events generalizing b with
  | nil => exact ⟨[], [], .refl _, .nil, .refl b⟩
  | cons e events ih =>
    obtain ⟨n, hn, hmoves⟩ := comes_push b e
    obtain ⟨es, ns, hsub, hbrings, hrest⟩ := ih (b.push e)
    cases n with
    | none => exact ⟨es, ns, hsub.cons e, hbrings, hmoves.trans hrest⟩
    | some n =>
      exact ⟨e :: es, n :: ns, hsub.cons_cons e, .cons (hn n rfl) hbrings, hmoves.trans hrest⟩

theorem moves_closeAll (b : Builder) (k : Nat) :
    Moves [] b (b.closeAll k) ∧ (b.closeAll k).below = b.below.drop k := by
  induction k generalizing b with
  | zero => exact ⟨.refl b, rfl⟩
  | succ k ih =>
    obtain ⟨hmoves, hbelow⟩ := ih b.close
    refine ⟨(Move.leave b).single.trans hmoves, ?_⟩
    rw [closeAll, hbelow, below_close, List.drop_tail]

end Builder

/-- A tree is what moves make of the empty document. They put in one node for each of some events,
in the order of these, and leave nothing open. -/
theorem exists_moves_buildTree (events : List Event) :
    ∃ es ns c, es.Sublist events ∧ List.Forall₂ Brings es ns ∧ Moves ns {} c ∧ c.below = [] ∧
      buildTree events = c.top.element.children := by
  obtain ⟨es, ns, hsub, hbrings, hmoves⟩ := Builder.moves_foldl events {}
  obtain ⟨hclose, hbelow⟩ := Builder.moves_closeAll (events.foldl Builder.push {})
    (events.foldl Builder.push {}).below.length
  refine ⟨es, ns, _, hsub, hbrings, ?_, ?_, rfl⟩
  · exact List.append_nil ns ▸ hmoves.trans hclose
  · rw [hbelow, List.drop_length]

end Folio
