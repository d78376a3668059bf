import Folio.Proofs.Content
import Folio.Proofs.Moves

/-! Properties of trees that are shown move by move. While an element is open its content keeps the
one property, and when the element ends its content has the other. -/

namespace Folio

open Markdown (Event)

variable {b c : Builder} {ns : List Node}

/-- The nodes end with a line break. -/
def EndsLine (ns : List Node) : Prop :=
  ∃ init s, ns = init ++ [.text (s ++ "\n")]

def Node.isBlockElement : Node → Bool
  | .element tag _ _ => isBlockTag tag
  | _ => false

/-- Where a block may come next: at the beginning of the document, or on a new line of an element
that counts as one with blocks. -/
def AtLine (outermost : Bool) (ns : List Node) (hasBlocks : Bool) : Prop :=
  (outermost = true ∧ ns = []) ∨ EndsLine ns ∧ (outermost = true ∨ hasBlocks = true)

/-- What every move keeps of the content of an open element, so that the content of an element is
`Done` when it ends. -/
structure Kept (Open : Bool → List Node → Bool → Prop) (Done : List Node → Prop) : Prop where
  fresh : ∀ outermost, Open outermost [] false
  text : ∀ {outermost ns hasBlocks} s, Open outermost ns hasBlocks →
    Open outermost (pushText s ns) hasBlocks
  counted : ∀ {outermost ns hasBlocks}, Open outermost ns hasBlocks → Open outermost ns true
  node : ∀ {outermost ns hasBlocks n}, (∀ s, n ≠ .text s) →
    (n.isBlockElement = true → AtLine outermost ns hasBlocks) → Open outermost ns hasBlocks →
    Open outermost (ns ++ [n]) hasBlocks
  join : ∀ {outermost init s hasBlocks} t, Open outermost (init ++ [.raw s]) hasBlocks →
    Open outermost (init ++ [.raw (s ++ t)]) hasBlocks
  ended : ∀ {ns hasBlocks}, Open false ns hasBlocks →
    Done (if hasBlocks then pushText "\n" ns else ns)
  brought : ∀ {e n d}, Brings e n → Within d [n] → Done d.children

theorem within_pushText {d : Element} (s : String) (ns : List Node) :
    Within d (pushText s ns) ↔ Within d ns := by
  have hgo : Within d (pushText.go s ns) ↔ Within d ns := by
    induction ns using pushText.go.induct with
    | case1 => simp [pushText.go, not_within_text, within_nil]
    | case2 t => simp [pushText.go, not_within_text]
    | case3 n ns hn ih =>
      rw [pushText.go]
      · rw [within_cons, ih, ← within_cons]
      · exact hn
  unfold pushText
  split
  · rfl
  · exact hgo

/-- A text goes on with one that stands last, or comes behind what is no text. -/
theorem pushText_cases {s : String} (hs : s ≠ "") (ns : List Node) :
    (∃ init t, ns = init ++ [.text t] ∧ pushText s ns = init ++ [.text (t ++ s)]) ∨
      (∀ t, ns.getLast? ≠ some (.text t)) ∧ pushText s ns = ns ++ [.text s] := by
  rw [pushText, if_neg hs]
  induction ns using pushText.go.induct with
  | case1 => exact .inr ⟨by simp, rfl⟩
  | case2 t => exact .inl ⟨[], t, rfl, rfl⟩
  | case3 n ns hn ih =>
    rw [pushText.go]
    · rcases ih with ⟨init, t, rfl, hgo⟩ | ⟨hlast, hgo⟩
      · exact .inl ⟨n :: init, t, rfl, congrArg (n :: ·) hgo⟩
      · refine .inr ⟨fun t ht => ?_, congrArg (n :: ·) hgo⟩
        cases ns with
        | nil => exact hn t (by simpa using ht) rfl
        | cons m ns => exact hlast t (by simpa using ht)
    · exact hn

theorem endsLine_pushText (ns : List Node) : EndsLine (pushText "\n" ns) := by
  obtain ⟨s, hs⟩ := getLast?_pushText (s := "\n") (by decide) ns
  obtain ⟨init, hinit⟩ := List.getLast?_eq_some_iff.mp hs
  exact ⟨init, s, hinit⟩

/-- An element that is brought along holds no more than one text or one such element. -/
theorem Brings.children_of_within {e : Event} {n : Node} {d : Element} (h : Brings e n)
    (hd : Within d [n]) : d.children = [] ∨ (∃ s, d.children = [.text s]) ∨
      ∃ tag p s, isBlockTag tag = false ∧ d.children = [.element tag p [.text s]] := by
  have hone : ∀ {tag : String} {p : Properties} {s : String},
      Within d [.element tag p [.text s]] → ∃ s, d.children = [.text s] := by
    intro tag p s hd
    rcases (within_element (d := ⟨tag, p, [.text s]⟩)).mp hd with rfl | hd
    · exact ⟨s, rfl⟩
    · exact absurd hd not_within_text
  have htwo : ∀ {tag tag' : String} {p p' : Properties} {s : String}, isBlockTag tag' = false →
      Within d [.element tag p [.element tag' p' [.text s]]] → (∃ s, d.children = [.text s]) ∨
        ∃ tag p s, isBlockTag tag = false ∧ d.children = [.element tag p [.text s]] := by
    intro tag tag' p p' s htag hd
    rcases (within_element (d := ⟨tag, p, [.element tag' p' [.text s]]⟩)).mp hd with rfl | hd
    · exact .inr ⟨tag', p', s, htag, rfl⟩
    · exact .inl (hone hd)
  have hnone : ∀ {tag : String} {p : Properties}, Within d [.element tag p []] →
      d.children = [] := by
    intro tag p hd
    rcases (within_element (d := ⟨tag, p, []⟩)).mp hd with rfl | hd
    · rfl
    · exact absurd hd within_nil
  cases h with
  | code s => exact .inr (.inl (hone hd))
  | inlineMath s => exact .inr (.inl (hone hd))
  | label label number => exact .inr (.inl (hone hd))
  | displayMath s => exact .inr (htwo (by decide) hd)
  | reference label p number => exact .inr (htwo (by decide) hd)
  | html s | inlineHtml s => exact absurd hd not_within_raw
  | lineBreak | rule | checkbox checked p | image p => exact .inl (hnone hd)

section Invariant

variable {Open : Bool → List Node → Bool → Prop} {Done : List Node → Prop}

/-- All open elements are as they may be, and the elements in them are done. -/
def Stands (Open : Bool → List Node → Bool → Prop) (Done : List Node → Prop) :
    List (List Node × Bool) → Prop
  | [] => True
  | (ns, hasBlocks) :: rest =>
    Open rest.isEmpty ns hasBlocks ∧ (∀ d, Within d ns → Done d.children) ∧ Stands Open Done rest

theorem Kept.pushText (hk : Kept Open Done) (h : Stands Open Done b.contents) (s : String) :
    Stands Open Done (b.pushText s).contents := by
  obtain ⟨hopen, hdone, hrest⟩ := h
  exact ⟨hk.text s hopen, fun d hd => hdone d ((within_pushText s _).mp hd), hrest⟩

/-- A new line is begun where a block is to stand. -/
theorem Kept.breakLine (hk : Kept Open Done) (h : Stands Open Done b.contents) :
    Stands Open Done b.breakLine.contents ∧
      AtLine b.below.isEmpty b.breakLine.top.element.children b.breakLine.top.hasBlocks := by
  have hline := hk.pushText h "\n"
  unfold Builder.breakLine
  split
  · rename_i hbelow
    split
    · rename_i hempty
      exact ⟨h, .inl ⟨hbelow, List.isEmpty_iff.mp hempty⟩⟩
    · exact ⟨hline, .inr ⟨endsLine_pushText _, .inl hbelow⟩⟩
  · obtain ⟨hopen, hdone, hrest⟩ := hline
    exact ⟨⟨hk.counted hopen, hdone, hrest⟩, .inr ⟨endsLine_pushText _, .inr rfl⟩⟩

theorem Kept.append (hk : Kept Open Done) (h : Stands Open Done b.contents) {n : Node}
    (hn : ∀ s, n ≠ .text s) (hd : ∀ d, Within d [n] → Done d.children) :
    Stands Open Done (b.append n).contents := by
  have hput : ∀ {c : Builder}, Stands Open Done c.contents →
      (n.isBlockElement = true →
        AtLine c.below.isEmpty c.top.element.children c.top.hasBlocks) →
      Stands Open Done (c.mapChildren (· ++ [n])).contents := by
    rintro c ⟨hopen, hdone, hrest⟩ hline
    rw [List.isEmpty_map] at hopen
    refine ⟨?_, fun d hw => (within_append.mp hw).elim (hdone d) (hd d), hrest⟩
    rw [List.isEmpty_map]
    exact hk.node hn hline hopen
  have hbroken := hk.breakLine h
  have hbelow : b.breakLine.below = b.below := by simpa using (Builder.grown_breakLine b).below
  rw [← hbelow] at hbroken
  cases n with
  | text s => exact absurd rfl (hn s)
  | raw s =>
    unfold Builder.append
    dsimp only
    split
    · exact hput hbroken.1 nofun
    · exact hput h nofun
  | element tag p children =>
    rw [Builder.append_element]
    split
    · exact hput hbroken.1 fun _ => hbroken.2
    · rename_i htag
      exact hput h fun hblock => absurd hblock htag

theorem Kept.close (hk : Kept Open Done) (h : Stands Open Done b.contents) :
    Stands Open Done b.close.contents := by
  cases hbelow : b.below with
  | nil => rwa [Builder.close_of_outermost hbelow]
  | cons outer below =>
    obtain ⟨hopen, hdone, hrest⟩ := h
    rw [hbelow] at hopen hrest
    have hended : Done b.top.closed.children := by
      refine (congrArg Done ?_).mp (hk.ended hopen)
      unfold Frame.closed
      split <;> rfl
    have hinside : ∀ d, Within d b.top.closed.children → Done d.children := by
      intro d hd
      unfold Frame.closed at hd
      split at hd
      · exact hdone d ((within_pushText "\n" _).mp hd)
      · exact hdone d hd
    rw [Builder.close_of_below hbelow]
    exact hk.append (b := { b with top := outer, below := below }) hrest (fun s => nofun)
      (forall_within_element.mpr ⟨hended, hinside⟩)

theorem Kept.move (hk : Kept Open Done) (hm : Move ns b c) (hn : ∀ n ∈ ns, ∃ e, Brings e n)
    (h : Stands Open Done b.contents) : Stands Open Done c.contents := by
  cases hm with
  | keep hsame => rwa [hsame]
  | text b s => exact hk.pushText h s
  | put b n hnode =>
    obtain ⟨e, he⟩ := hn n (List.mem_singleton.mpr rfl)
    exact hk.append h hnode fun d hd => hk.brought he hd
  | join hraw t =>
    obtain ⟨hopen, hdone, hrest⟩ := h
    rw [hraw] at hopen hdone
    refine ⟨hk.join t hopen, fun d hd => hdone d ?_, hrest⟩
    exact within_append.mpr (.inl ((within_append.mp hd).resolve_right not_within_raw))
  | @enter _ f hc hb =>
    have hfresh : Open (List.isEmpty b.contents) f.element.children f.hasBlocks := by
      rw [hc, hb]
      exact hk.fresh _
    have hempty : ∀ d, Within d f.element.children → Done d.children := by
      rw [hc]
      exact fun d hd => absurd hd within_nil
    exact ⟨hfresh, hempty, h⟩
  | leave b => exact hk.close h
  | drop hbelow =>
    obtain ⟨-, -, hrest⟩ := h
    rw [hbelow] at hrest
    exact hrest

theorem exists_brings_of_mem {es : List Event} (h : List.Forall₂ Brings es ns) :
    ∀ n ∈ ns, ∃ e, Brings e n := by
  induction h with
  | nil => nofun
  | cons he _ ih => exact List.forall_mem_cons.mpr ⟨⟨_, he⟩, ih⟩

theorem Kept.moves (hk : Kept Open Done) (hm : Moves ns b c) (hn : ∀ n ∈ ns, ∃ e, Brings e n)
    (h : Stands Open Done b.contents) : Stands Open Done c.contents := by
  induction hm with
  | refl b => exact h
  | tail _ hmove ih =>
    have hn' := List.forall_mem_append.mp hn
    exact hk.move hmove hn'.2 (ih hn'.1 h)

theorem Kept.buildTree (hk : Kept Open Done) (events : List Event) :
    (∃ hasBlocks, Open true (buildTree events) hasBlocks) ∧
      ∀ d, Within d (buildTree events) → Done d.children := by
  obtain ⟨es, ns, c, -, hbrings, hmoves, hbelow, htree⟩ := exists_moves_buildTree events
  have hstart : Stands Open Done (Builder.contents {}) :=
    ⟨hk.fresh _, fun d hd => absurd hd within_nil, trivial⟩
  obtain ⟨hopen, hdone, -⟩ := hk.moves hmoves (exists_brings_of_mem hbrings) hstart
  rw [hbelow] at hopen
  rw [htree]
  exact ⟨⟨_, hopen⟩, hdone⟩

end Invariant

end Folio
