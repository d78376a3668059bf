import Folio.Proofs.Nesting

/-! What an image takes in. Up to its own end, every event inside it adds to its alternative text or
is dropped, whichever parts are open there, and the one thing that changes is the finished image. -/

namespace Folio

open Markdown (Event Tag TagKind)

/-- How many images are open behind an event, unless it ends one that began further out. -/
def openImages? (n : Nat) : Event → Option Nat
  | .enter (.image ..) => some (n + 1)
  | .leave .image => if n = 0 then none else some (n - 1)
  | _ => some n

/-- The images that begin among the events are those that end there. -/
def ImagesPaired (events : List Event) : Prop :=
  events.foldlM openImages? 0 = some 0

instance (events : List Event) : Decidable (ImagesPaired events) :=
  inferInstanceAs (Decidable (_ = _))

def imageEvents (url title : String) (content : List Event) : List Event :=
  .enter (.image url title) :: content ++ [.leave .image]

/-- The alternative text that the events give to an image around them. -/
def altText (events : List Event) : String :=
  .join (events.map Nest.eventAlt)

theorem altText_cons (e : Event) (events : List Event) :
    altText (e :: events) = Nest.eventAlt e ++ altText events := by
  simp [altText]

theorem altText_append (es es' : List Event) : altText (es ++ es') = altText es ++ altText es' := by
  simp [altText]

namespace Builder

variable {b : Builder} {src title alt : String} {n k : Nat}

theorem push_insideImage (hb : b.top.kind = .image src title alt n) {e : Event}
    (he : openImages? n e = some k) :
    b.push e = { b with top.kind := .image src title (alt ++ Nest.eventAlt e) k } := by
  have hkeep : b.pushImageEvent src title alt n e = { b with top.kind := .image src title alt k } →
      Nest.eventAlt e = "" →
      b.push e = { b with top.kind := .image src title (alt ++ Nest.eventAlt e) k } := by
    intro hp ht
    rw [push, hb, ht, String.append_empty]
    exact hp
  have hsame : b = { b with top.kind := .image src title alt n } := by rw [← hb]
  cases e with
  | enter tag =>
    cases tag with
    | image url text =>
      obtain rfl := Option.some.inj he
      exact hkeep rfl rfl
    | _ =>
      obtain rfl := Option.some.inj he
      exact hkeep hsame rfl
  | leave kind =>
    cases kind with
    | image =>
      cases n with
      | zero => cases he
      | succ n =>
        obtain rfl := Option.some.inj he
        exact hkeep rfl rfl
    | _ =>
      obtain rfl := Option.some.inj he
      exact hkeep hsame rfl
  | text s | code s | softBreak | hardBreak =>
    obtain rfl := Option.some.inj he
    rw [push, hb]
    rfl
  | _ =>
    obtain rfl := Option.some.inj he
    exact hkeep hsame rfl

/-- An image is open as long as no more images end inside it than begin. -/
theorem foldl_push_insideImage (hb : b.top.kind = .image src title alt n) {events : List Event}
    (he : events.foldlM openImages? n = some k) :
    events.foldl push b = { b with top.kind := .image src title (alt ++ altText events) k } := by
  induction events generalizing b alt n with
  | nil =>
    obtain rfl := Option.some.inj he
    rw [show altText [] = "" from rfl, String.append_empty, ← hb]
    rfl
  | cons e events ih =>
    rw [List.foldlM_cons] at he
    obtain ⟨j, hj, hrest⟩ := Option.bind_eq_some_iff.mp he
    have hpush := push_insideImage hb hj
    have hall := ih (b := b.push e) (by rw [hpush]) hrest
    rw [List.foldl_cons, hall, hpush, altText_cons, String.append_assoc]

theorem imageElement_toNode (src title alt : String) :
    (imageElement src title alt).toNode =
      .element "img" ⟨("src", .text src) :: ("alt", .text alt) ::
        if title = "" then [] else [("title", .text title)]⟩ [] := by
  unfold imageElement
  split <;> rfl

theorem foldl_push_image (hb : b.top.kind = .element) {content : List Event}
    (hc : ImagesPaired content) (url title : String) :
    (imageEvents url title content).foldl push b =
      b.append (imageElement url title (altText content)).toNode := by
  have henter : b.push (.enter (.image url title)) =
      b.openFrame ⟨⟨"img", {}, []⟩, .image url title "" 0, false⟩ := by
    rw [push, hb]
    rfl
  have hinside := foldl_push_insideImage (b := b.push (.enter (.image url title)))
    (by rw [henter]; rfl) hc
  rw [imageEvents, List.cons_append, List.foldl_cons, List.foldl_append, hinside, henter,
    String.empty_append]
  rfl

end Builder

namespace Nest

variable {n : Nest} {pl : Place}

theorem openImages?_of_admits {e : Event} (h : pl.admits e = true) (k : Nat) :
    openImages? k e = some k := by
  obtain ⟨hs, hl⟩ := not_enter_leave_of_admits h
  cases e with
  | enter tag => exact absurd rfl (hs tag)
  | leave kind => exact absurd rfl (hl kind)
  | _ => rfl

theorem foldlM_openImages? (h : n.fits pl = true) (k : Nat) :
    n.events.foldlM openImages? k = some k := by
  induction n generalizing pl k with
  | done => rfl
  | event e rest ih =>
    rw [fits, Bool.and_eq_true] at h
    rw [events, List.foldlM_cons, openImages?_of_admits h.1]
    exact ih h.2 k
  | span tag content rest ihc ihr =>
    obtain ⟨inner, next, -, hfc, hfr⟩ := inside?_of_fits h
    have hspan : ∀ j, openImages? k (.enter tag) = some j →
        openImages? j (.leave tag.kind) = some k →
        (span tag content rest).events.foldlM openImages? k = some k := by
      intro j hj hk
      simp [events, hj, hk, ihc hfc, ihr hfr]
    cases tag with
    | image url title => exact hspan (k + 1) rfl rfl
    | _ => exact hspan k rfl rfl

theorem alt_eq_altText (n : Nest) (h : n.fits pl = true) : n.alt = altText n.events := by
  induction n generalizing pl with
  | done => rfl
  | event e rest ih =>
    rw [fits, Bool.and_eq_true] at h
    rw [alt, events, altText_cons, ih h.2]
  | span tag content rest ihc ihr =>
    obtain ⟨inner, next, -, hfc, hfr⟩ := inside?_of_fits h
    rw [alt, ihc hfc, ihr hfr, events, List.cons_append, altText_cons, altText_append, altText_cons]
    simp [eventAlt]

end Nest

open Builder

/-- Between its start and its end an image swallows all events, whatever the builder has been
through before: it is one more node in the element around it, and the rest stays as it was. Its
alternative text has the texts and the code inside, also those of images in it, and a space for a
line break. Whatever is well nested may stand inside. -/
theorem image_swallows_content {b : Builder} (hb : b.top.kind = .element) (url title : String) :
    (∀ content, ImagesPaired content →
      (imageEvents url title content).foldl push b =
        b.mapChildren (· ++ [.element "img"
          ⟨("src", .text url) :: ("alt", .text (altText content)) ::
            if title = "" then [] else [("title", .text title)]⟩ []])) ∧
      ∀ (n : Nest) (pl : Place), n.fits pl = true → ImagesPaired n.events := by
  constructor
  · intro content hc
    rw [foldl_push_image hb hc, imageElement_toNode]
    rfl
  · intro n pl h
    exact Nest.foldlM_openImages? h 0

def captioned : List Event :=
  [.text "a", .softBreak, .enter .emphasis, .code "b", .enter (.image "c.png" "C"), .hardBreak,
    .text "c", .leave .image, .footnoteReference "n", .leave .strong, .html "<i>", .text "d"]

/-- A builder in a cell of a table head that still believes to be in an HTML block. -/
def insideHeadCell : Builder :=
  { openElement {} ⟨"th", {}, [.text "e"]⟩ with
    alignments := [.left], cellIndex := 1, inTableHead := true, inHtmlBlock := true,
    footnotes := ["m"] }

theorem image_swallows_captioned :
    insideHeadCell.top.kind = .element ∧ ImagesPaired captioned ∧
      (imageEvents "f.png" "" captioned).foldl push insideHeadCell =
        insideHeadCell.mapChildren
          (· ++ [.element "img" ⟨[("src", .text "f.png"), ("alt", .text "a b cd")]⟩ []]) := by
  have hp : ImagesPaired captioned := by decide
  have himage := (image_swallows_content (b := insideHeadCell) rfl "f.png" "").1 captioned hp
  have halt : altText captioned = "a b cd" := by decide +kernel
  rw [halt] at himage
  exact ⟨rfl, hp, himage⟩

end Folio
