import Folio.Proofs.MarkupNodes

/-! The pieces that a text comes in. A tree is the same however the events cut a text, and a soft
line break is a text like others: a space inside an image and a line break outside. -/

namespace Folio

open Markdown (Event Tag TagKind)

/-- What takes in the next event: an ordinary element, an image with some images open inside it, or
metadata. -/
inductive Intake
  | element
  | image (nested : Nat)
  | metadata
  deriving DecidableEq, Repr

def FrameKind.intake : FrameKind → Intake
  | .element => .element
  | .image _ _ _ nested => .image nested
  | .ignored => .metadata

def Intake.after : Intake → Event → Intake
  | .element, .enter (.image ..) => .image 0
  | .element, .enter .metadata => .metadata
  | .image n, .enter (.image ..) => .image (n + 1)
  | .image (n + 1), .leave .image => .image n
  | .image 0, .leave .image => .element
  | .metadata, .leave .metadata => .element
  | i, _ => i

def Intake.isImage : Intake → Bool
  | .image _ => true
  | _ => false

/-- Whether an image is open behind the events. -/
def imageOpen (events : List Event) : Bool :=
  (events.foldl Intake.after .element).isImage

theorem pushText_empty (ns : List Node) : pushText "" ns = ns :=
  if_pos rfl

theorem pushText_pushText (s t : String) (ns : List Node) :
    pushText t (pushText s ns) = pushText (s ++ t) ns := by
  by_cases hs : s = ""
  · rw [hs, pushText_empty, String.empty_append]
  by_cases ht : t = ""
  · rw [ht, pushText_empty, String.append_empty]
  have hgo : pushText.go t (pushText.go s ns) = pushText.go (s ++ t) ns := by
    induction ns using pushText.go.induct with
    | case1 => rfl
    | case2 u => simp [pushText.go, String.append_assoc]
    | case3 n ns hn ih =>
      have hne : pushText.go s ns ≠ [] := by
        unfold pushText.go
        split <;> simp
      rw [pushText.go, pushText.go, pushText.go, ih]
      · exact hn
      · exact fun u _ hnil => hne hnil
      · exact hn
  simp [pushText, hs, ht, hgo]

namespace Builder

variable {b c : Builder}

/-- Only ordinary elements are open. -/
def Ordinary (b : Builder) : Prop :=
  ∀ kind ∈ (b.top :: b.below).map (·.kind), kind = .element

theorem Ordinary.of_grown {ns : List Node} {m : Bool} (h : b.Ordinary) (hg : Grown ns m b c) :
    c.Ordinary := by
  have hbelow : c.below.map (·.kind) = b.below.map (·.kind) := by
    rw [hg.below]
    split
    · exact map_markTask (fun _ _ => rfl) b.below
    · rfl
  rw [Ordinary, List.map_cons, hg.kind, hbelow]
  exact h

theorem Ordinary.openElement (h : b.Ordinary) (e : Element) : (b.openElement e).Ordinary :=
  List.forall_mem_cons.mpr ⟨rfl, h⟩

theorem Ordinary.close (h : b.Ordinary) : b.close.Ordinary := by
  cases hbelow : b.below with
  | nil => rwa [close_of_outermost hbelow]
  | cons outer below =>
    have hrest := (List.forall_mem_cons.mp h).2
    rw [hbelow] at hrest
    rw [close_of_below hbelow]
    exact Ordinary.of_grown (b := { b with top := outer, below := below }) hrest
      (grown_append _ rfl)

theorem Ordinary.footnoteDefinition (h : b.Ordinary) (label : String) :
    (b.footnoteDefinition label).Ordinary := by
  obtain ⟨ht, hb, -⟩ := footnoteNumber_frames b label
  have hsame : (b.footnoteNumber label).1.Ordinary := by rwa [Ordinary, ht, hb]
  unfold Builder.footnoteDefinition
  exact (hsame.openElement _).of_grown (grown_append _ rfl)

theorem Ordinary.openRow (h : b.Ordinary) : b.openRow.Ordinary := by
  unfold Builder.openRow
  split
  · exact Ordinary.openElement (b := { b with cellIndex := 0 }) h _
  · exact Ordinary.openElement (b := { Nest.openBody b with cellIndex := 0 })
      (Ordinary.openElement (b := { b with tableBodyOpen := true }) h _) _

theorem Ordinary.enter (h : b.Ordinary) {tag : Tag} (hi : tag.kind ≠ .image)
    (hm : tag.kind ≠ .metadata) : (b.enter tag).Ordinary := by
  cases tag with
  | image url title => exact absurd rfl hi
  | metadata => exact absurd rfl hm
  | htmlBlock => exact h
  | footnote label => exact h.footnoteDefinition label
  | tableRow => exact h.openRow
  | fencedCode info => exact (h.openElement _).openElement _
  | indentedCode => exact (h.openElement _).openElement _
  | tableHead =>
    have hhead : Ordinary { b with inTableHead := true, cellIndex := 0 } := h
    exact (hhead.openElement _).openElement _
  | table alignments =>
    have htable : Ordinary { b with alignments := alignments, tableBodyOpen := false } := h
    exact htable.openElement _
  | tableCell => exact Ordinary.openElement (b := { b with cellIndex := b.cellIndex + 1 }) h _
  | _ => exact h.openElement _

theorem Ordinary.leave (h : b.Ordinary) (kind : TagKind) : (b.leave kind).Ordinary := by
  cases kind with
  | htmlBlock | image | metadata => exact h
  | codeBlock => exact h.close.close
  | tableHead =>
    have hhead : Ordinary { b with inTableHead := false } := h
    exact hhead.close.close
  | table =>
    have hbody : (Nest.endBody b).Ordinary := by
      unfold Nest.endBody
      split
      · exact Ordinary.close (b := { b with tableBodyOpen := false }) h
      · exact h
    have hend : Ordinary { Nest.endBody b with alignments := [] } := hbody
    exact hend.close
  | _ => exact h.close

/-- Images and metadata are open only as the innermost element, and inside another one. -/
structure Contained (b : Builder) : Prop where
  below : ∀ kind ∈ b.below.map (·.kind), kind = .element
  inside : b.top.kind ≠ .element → b.below ≠ []

theorem Ordinary.intake_eq (h : b.Ordinary) : b.top.kind.intake = .element ∧ b.Contained := by
  obtain ⟨hk, hbelow⟩ := List.forall_mem_cons.mp h
  exact ⟨congrArg FrameKind.intake hk, hbelow, fun hne => absurd hk hne⟩

theorem Contained.outer (h : b.Contained) {outer : Frame} {below : List Frame}
    (hb : b.below = outer :: below) : Ordinary { b with top := outer, below := below } := by
  have hbelow := h.below
  rwa [hb] at hbelow

theorem Contained.turn (h : b.Contained) (hk : b.top.kind ≠ .element) (kind : FrameKind) :
    Contained { b with top.kind := kind } :=
  ⟨h.below, fun _ => h.inside hk⟩

theorem intake_pushElementEvent (h : b.Ordinary) (e : Event) :
    (b.pushElementEvent e).top.kind.intake = Intake.element.after e ∧
      (b.pushElementEvent e).Contained := by
  cases e with
  | enter tag =>
    by_cases hi : tag.kind = .image
    · cases tag with
      | image url title => exact ⟨rfl, h, fun _ => List.cons_ne_nil _ _⟩
      | _ => cases hi
    by_cases hm : tag.kind = .metadata
    · cases tag with
      | metadata => exact ⟨rfl, h, fun _ => List.cons_ne_nil _ _⟩
      | _ => cases hm
    have hafter : Intake.element.after (.enter tag) = .element := by
      cases tag with
      | image url title => exact absurd rfl hi
      | metadata => exact absurd rfl hm
      | _ => rfl
    rw [hafter]
    exact (h.enter hi hm).intake_eq
  | leave kind => exact (h.leave kind).intake_eq
  | _ => exact (h.of_grown (grown_event (by nofun) (by nofun) b).1).intake_eq

theorem intake_pushImageEvent (h : b.Contained) {src title alt : String} {nested : Nat}
    (hk : b.top.kind = .image src title alt nested) (e : Event) :
    (b.pushImageEvent src title alt nested e).top.kind.intake = (Intake.image nested).after e ∧
      (b.pushImageEvent src title alt nested e).Contained := by
  have hsame : b.top.kind.intake = .image nested ∧ b.Contained :=
    ⟨congrArg FrameKind.intake hk, h⟩
  have hturn : ∀ kind, Contained { b with top.kind := kind } := h.turn (by simp [hk])
  cases e with
  | text s | code s | softBreak | hardBreak => exact ⟨rfl, hturn _⟩
  | enter tag =>
    cases tag with
    | image url title => exact ⟨rfl, hturn _⟩
    | _ => exact hsame
  | leave kind =>
    cases kind with
    | image =>
      cases nested with
      | succ n => exact ⟨rfl, hturn _⟩
      | zero =>
        cases hbelow : b.below with
        | nil => exact absurd hbelow (h.inside (by simp [hk]))
        | cons outer below =>
          have hpush : b.pushImageEvent src title alt 0 (.leave .image) =
              { b with top := outer, below := below }.append
                (imageElement src title alt).toNode := by
            simp [pushImageEvent, hbelow]
          rw [hpush]
          exact ((h.outer hbelow).of_grown (grown_append _ rfl)).intake_eq
    | _ => exact hsame
  | _ => exact hsame

theorem intake_pushIgnoredEvent (h : b.Contained) (hk : b.top.kind = .ignored) (e : Event) :
    (b.pushIgnoredEvent e).top.kind.intake = Intake.metadata.after e ∧
      (b.pushIgnoredEvent e).Contained := by
  have hsame : b.top.kind.intake = .metadata ∧ b.Contained := ⟨congrArg FrameKind.intake hk, h⟩
  cases e with
  | leave kind =>
    cases kind with
    | metadata =>
      cases hbelow : b.below with
      | nil => exact absurd hbelow (h.inside (by simp [hk]))
      | cons outer below =>
        have hpush : b.pushIgnoredEvent (.leave .metadata) =
            { b with top := outer, below := below } := by
          simp [pushIgnoredEvent, hbelow]
        rw [hpush]
        exact (h.outer hbelow).intake_eq
    | _ => exact hsame
  | _ => exact hsame

/-- What takes in an event can be told from the events before it alone. -/
theorem intake_push (h : b.Contained) (e : Event) :
    (b.push e).top.kind.intake = b.top.kind.intake.after e ∧ (b.push e).Contained := by
  unfold push
  cases hk : b.top.kind with
  | element => exact intake_pushElementEvent (List.forall_mem_cons.mpr ⟨hk, h.below⟩) e
  | image src title alt nested => exact intake_pushImageEvent h hk e
  | ignored => exact intake_pushIgnoredEvent h hk e

theorem intake_foldl (h : b.Contained) (events : List Event) :
    (events.foldl push b).top.kind.intake = events.foldl Intake.after b.top.kind.intake := by
  induction events generalizing b with
  | nil => rfl
  | cons e events ih =>
    obtain ⟨hintake, hpush⟩ := intake_push h e
    rw [List.foldl_cons, List.foldl_cons, ih hpush, hintake]

theorem push_empty_text (b : Builder) : b.push (.text "") = b := by
  unfold push
  cases hk : b.top.kind with
  | element => simp [pushElementEvent, pushText, mapChildren, pushText_empty]
  | image src title alt nested =>
    simp [pushImageEvent, ← hk]
  | ignored => rfl

theorem push_text_text (b : Builder) (s t : String) :
    (b.push (.text s)).push (.text t) = b.push (.text (s ++ t)) := by
  cases hk : b.top.kind with
  | element =>
    simp [push, hk, pushElementEvent, pushText, mapChildren, pushText_pushText]
  | image src title alt nested => simp [push, hk, pushImageEvent, String.append_assoc]
  | ignored => simp [push, hk, pushIgnoredEvent]

/-- A text may come in any number of pieces. -/
theorem foldl_push_pieces (b : Builder) (pieces : List String) :
    (pieces.map Event.text).foldl push b = b.push (.text (String.join pieces)) := by
  induction pieces generalizing b with
  | nil => exact (push_empty_text b).symm
  | cons s pieces ih => rw [List.map_cons, List.foldl_cons, ih, push_text_text, String.join_cons]

theorem push_softBreak (b : Builder) :
    b.push .softBreak = b.push (.text (if b.top.kind.intake.isImage then " " else "\n")) := by
  unfold push
  cases b.top.kind <;> rfl

end Builder

/-- A tree is the same in how many pieces a text ever comes, empty ones included, and wherever it
stands. A soft line break is the text that it stands for there. -/
theorem buildTree_text_pieces (before after : List Event) :
    (∀ a b, buildTree (before ++ .text (a ++ b) :: after) =
      buildTree (before ++ .text a :: .text b :: after)) ∧
    (∀ pieces, buildTree (before ++ (pieces.map .text ++ after)) =
      buildTree (before ++ .text (String.join pieces) :: after)) ∧
    buildTree (before ++ .softBreak :: after) =
      buildTree (before ++ .text (if imageOpen before then " " else "\n") :: after) := by
  refine ⟨fun a b => ?_, fun pieces => ?_, ?_⟩
  · simp only [buildTree, List.foldl_append, List.foldl_cons, Builder.push_text_text]
  · simp only [buildTree, List.foldl_append, List.foldl_cons, Builder.foldl_push_pieces]
  · have hstart : Builder.Contained {} := ⟨nofun, fun h => absurd rfl h⟩
    have hintake := Builder.intake_foldl hstart before
    have hopen : (before.foldl Builder.push {}).top.kind.intake.isImage = imageOpen before :=
      congrArg Intake.isImage hintake
    simp only [buildTree, List.foldl_append, List.foldl_cons, Builder.push_softBreak, hopen]

end Folio
