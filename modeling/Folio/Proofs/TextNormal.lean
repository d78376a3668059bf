import Mathlib.Data.List.Chain
import Folio.Proofs.OpenContent

/-! Texts in a tree are joined as far as they go, whatever the events it is built from: no two stand
side by side, and an empty one stands only where an event of code or math brings it. -/

namespace Folio

open Markdown (Event)

/-- No two texts stand side by side. -/
def TextsApart (ns : List Node) : Prop :=
  ns.IsChain fun m n => m.text? = none ∨ n.text? = none

structure TextNormal (ns : List Node) : Prop where
  apart : TextsApart ns
  nonempty : .text "" ∉ ns

/-- The elements at any depth that hold an empty text, in document order. -/
def blankElements (ns : List Node) : List Element :=
  (elements ns).filter fun e => .text "" ∈ e.children

/-- The `code` element of an event of code or math that has no text. -/
def blankCode? : Event → Option Element
  | .code s => if s = "" then some ⟨"code", {}, [.text s]⟩ else none
  | .inlineMath s => if s = "" then (Builder.mathElement "math-inline" s).element? else none
  | .displayMath s => if s = "" then (Builder.mathElement "math-display" s).element? else none
  | _ => none

variable {b c : Builder} {ns ms : List Node}

theorem textNormal_concat {n : Node} : TextNormal (ns ++ [n]) ↔
    TextNormal ns ∧ n ≠ .text "" ∧
      ∀ m ∈ ns.getLast?, m.text? = none ∨ n.text? = none := by
  constructor
  · rintro ⟨hapart, hnonempty⟩
    obtain ⟨hns, -, hlast⟩ := List.isChain_append.mp hapart
    rw [List.mem_append, List.mem_singleton, not_or] at hnonempty
    exact ⟨⟨hns, hnonempty.1⟩, fun h => hnonempty.2 h.symm, fun m hm => hlast m hm n rfl⟩
  · rintro ⟨⟨hns, hnonempty⟩, hn, hlast⟩
    refine ⟨List.isChain_append.mpr ⟨hns, List.isChain_singleton n, ?_⟩, ?_⟩
    · rintro m hm _ ⟨⟩
      exact hlast m hm
    · rw [List.mem_append, List.mem_singleton, not_or]
      exact ⟨hnonempty, fun h => hn h.symm⟩

theorem TextNormal.pushText (h : TextNormal ns) (s : String) : TextNormal (pushText s ns) := by
  by_cases hs : s = ""
  · rwa [Folio.pushText, if_pos hs]
  · rcases pushText_cases hs ns with ⟨init, t, rfl, hpush⟩ | ⟨hlast, hpush⟩
    · obtain ⟨hinit, -, hlast⟩ := textNormal_concat.mp h
      rw [hpush]
      refine textNormal_concat.mpr ⟨hinit, by simp [hs], fun m hm => .inl ?_⟩
      exact (hlast m hm).resolve_right (Option.some_ne_none t)
    · rw [hpush]
      refine textNormal_concat.mpr ⟨h, by simpa using hs, fun m hm => .inl ?_⟩
      cases m with
      | text t => exact absurd hm (hlast t)
      | _ => rfl

theorem kept_textNormal : Kept (fun _ ns _ => TextNormal ns) TextsApart where
  fresh _ := ⟨List.isChain_nil, nofun⟩
  text s h := h.pushText s
  counted h := h
  node := by
    intro _ ns _ n hn _ h
    have hnone : n.text? = none := by
      cases n with
      | text s => exact absurd rfl (hn s)
      | _ => rfl
    exact textNormal_concat.mpr ⟨h, hn "", fun m _ => .inr hnone⟩
  join t h := textNormal_concat.mpr ⟨(textNormal_concat.mp h).1, nofun, fun m _ => .inr rfl⟩
  ended := by
    intro ns _ h
    split
    · exact (h.pushText "\n").apart
    · exact h.apart
  brought h hd := by
    rcases h.children_of_within hd with hc | ⟨s, hc⟩ | ⟨tag, p, s, -, hc⟩
    · exact hc ▸ List.isChain_nil
    · exact hc ▸ List.isChain_singleton _
    · exact hc ▸ List.isChain_singleton _

theorem elements_append (ns ms : List Node) : elements (ns ++ ms) = elements ns ++ elements ms := by
  induction ns with
  | nil => rfl
  | cons n ns ih => rw [List.cons_append, elements, elements, ih, List.append_assoc]

theorem elements_pushText (s : String) (ns : List Node) :
    elements (pushText s ns) = elements ns := by
  by_cases hs : s = ""
  · rw [pushText, if_pos hs]
  · rcases pushText_cases hs ns with ⟨init, t, rfl, hpush⟩ | ⟨-, hpush⟩
    · rw [hpush, elements_append, elements_append]
      rfl
    · rw [hpush, elements_append]
      exact List.append_nil _

theorem blankElements_append (ns ms : List Node) :
    blankElements (ns ++ ms) = blankElements ns ++ blankElements ms := by
  rw [blankElements, elements_append, List.filter_append]
  rfl

theorem blankElements_pushText (s : String) (ns : List Node) :
    blankElements (pushText s ns) = blankElements ns := by
  rw [blankElements, elements_pushText]
  rfl

/-- An event brings a blank element only if it is one of code or math without text. -/
theorem blankElements_of_brings {e : Event} {n : Node} (h : Brings e n) :
    blankElements [n] = (blankCode? e).toList := by
  cases h with
  | code s | inlineMath s | displayMath s =>
    by_cases hs : s = "" <;> simp [blankElements, elements, Node.elements, blankCode?, hs, eq_comm,
      Builder.mathElement, Node.element?]
  | html s | inlineHtml s => rfl
  | _ =>
    simp [blankElements, elements, Node.elements, blankCode?, Element.withClass, Element.toNode]

theorem blankElements_of_forall₂ {es : List Event} (h : List.Forall₂ Brings es ns) :
    blankElements ns = es.filterMap blankCode? := by
  induction h with
  | nil => rfl
  | @cons e n es ns he _ ih =>
    rw [← List.singleton_append, blankElements_append, ih, blankElements_of_brings he,
      List.filterMap_cons]
    cases blankCode? e <;> rfl

/-- The blank elements inside the open ones, those of the outermost first. -/
def stackBlanks : List (List Node × Bool) → List Element
  | [] => []
  | (ns, _) :: rest => stackBlanks rest ++ blankElements ns

theorem stackBlanks_pushText (b : Builder) (s : String) :
    stackBlanks (b.pushText s).contents = stackBlanks b.contents :=
  congrArg (_ ++ ·) (blankElements_pushText s _)

theorem stackBlanks_breakLine (b : Builder) :
    stackBlanks b.breakLine.contents = stackBlanks b.contents := by
  unfold Builder.breakLine
  split
  · split
    · rfl
    · exact stackBlanks_pushText b "\n"
  · exact stackBlanks_pushText b "\n"

theorem stackBlanks_append (b : Builder) {n : Node} (hn : ∀ s, n ≠ .text s) :
    stackBlanks (b.append n).contents = stackBlanks b.contents ++ blankElements [n] := by
  have hput : ∀ c : Builder, stackBlanks (c.mapChildren (· ++ [n])).contents =
      stackBlanks c.contents ++ blankElements [n] := fun c =>
    (congrArg (_ ++ ·) (blankElements_append _ [n])).trans (List.append_assoc ..).symm
  have hline : stackBlanks (if b.isBlock n then b.breakLine else b).contents =
      stackBlanks b.contents := by
    split
    · exact stackBlanks_breakLine b
    · rfl
  rw [← hline]
  cases n with
  | text s => exact absurd rfl (hn s)
  | _ => exact hput _

theorem blankElements_toNode {e : Element} (h : .text "" ∉ e.children) :
    blankElements [e.toNode] = blankElements e.children := by
  simp [blankElements, elements, Element.toNode, Node.elements, h]

theorem stackBlanks_close (h : TextNormal b.top.element.children) :
    stackBlanks b.close.contents = stackBlanks b.contents := by
  cases hbelow : b.below with
  | nil => rw [Builder.close_of_outermost hbelow]
  | cons outer below =>
    have hlast : .text "" ∉ b.top.closed.children ∧
        blankElements b.top.closed.children = blankElements b.top.element.children := by
      unfold Frame.closed
      split
      · exact ⟨(h.pushText "\n").nonempty, blankElements_pushText "\n" _⟩
      · exact ⟨h.nonempty, rfl⟩
    have hnode : ∀ s, b.top.closed.toNode ≠ .text s := fun s => nofun
    rw [Builder.close_of_below hbelow, stackBlanks_append _ hnode, blankElements_toNode hlast.1,
      hlast.2, Builder.contents, Builder.contents, hbelow]
    rfl

/-- No move but one that drops an element loses a blank one, and none changes their order. -/
theorem stackBlanks_move (hm : Move ns b c)
    (hb : Stands (fun _ ns _ => TextNormal ns) TextsApart b.contents) :
    (stackBlanks c.contents).Sublist (stackBlanks b.contents ++ blankElements ns) := by
  have hkeep : ∀ {d : Builder} {es : List Element}, stackBlanks d.contents =
      stackBlanks b.contents → (stackBlanks d.contents).Sublist (stackBlanks b.contents ++ es) :=
    fun hsame => hsame ▸ List.sublist_append_left _ _
  cases hm with
  | put b n hn => rw [stackBlanks_append b hn]
  | keep hsame => exact hkeep (congrArg stackBlanks hsame)
  | text b s => exact hkeep (stackBlanks_pushText b s)
  | @join b init s hraw t =>
    have hblank : blankElements (init ++ [.raw (s ++ t)]) =
        blankElements b.top.element.children := by
      rw [hraw, blankElements_append, blankElements_append]
      rfl
    exact hkeep (congrArg (_ ++ ·) hblank)
  | @enter b f hc _ =>
    refine hkeep ?_
    show stackBlanks b.contents ++ blankElements f.element.children = _
    rw [hc]
    exact List.append_nil _
  | leave b => exact hkeep (stackBlanks_close hb.1)
  | @drop b outer below hbelow =>
    have hstack : stackBlanks b.contents =
        stackBlanks (Builder.contents { b with top := outer, below := below }) ++
          blankElements b.top.element.children := by
      rw [Builder.contents, hbelow]
      rfl
    rw [hstack, List.append_assoc]
    exact List.sublist_append_left _ _

theorem stackBlanks_moves (hm : Moves ns b c) (hn : ∀ n ∈ ns, ∃ e, Brings e n)
    (hb : Stands (fun _ ns _ => TextNormal ns) TextsApart b.contents) :
    (stackBlanks c.contents).Sublist (stackBlanks b.contents ++ blankElements ns) := by
  induction hm with
  | refl b => exact List.sublist_append_left _ _
  | @tail ns ms b c d hmoves hmove ih =>
    obtain ⟨hns, -⟩ := List.forall_mem_append.mp hn
    have hlast := stackBlanks_move hmove (kept_textNormal.moves hmoves hns hb)
    rw [blankElements_append, ← List.append_assoc]
    exact hlast.trans ((ih hns hb).append_right _)

/-- Whatever the events, no two texts of the tree stand side by side and none is empty, but for the
one text in a `code` element that an event of code or math makes: the elements with an empty text
are, in their order, those of some events that bring one. -/
theorem buildTree_textNormal (events : List Event) :
    TextsApart (buildTree events) ∧ (∀ e, Within e (buildTree events) → TextsApart e.children) ∧
    .text "" ∉ buildTree events ∧
    (blankElements (buildTree events)).Sublist (events.filterMap blankCode?) := by
  obtain ⟨⟨_, happart, hnonempty⟩, hinside⟩ := kept_textNormal.buildTree events
  refine ⟨happart, hinside, hnonempty, ?_⟩
  obtain ⟨es, ns, c, hsub, hbrings, hmoves, hbelow, htree⟩ := exists_moves_buildTree events
  have hstart : Stands (fun _ ns _ => TextNormal ns) TextsApart (Builder.contents {}) :=
    ⟨kept_textNormal.fresh true, fun d hd => absurd hd within_nil, trivial⟩
  have hblanks := stackBlanks_moves hmoves (exists_brings_of_mem hbrings) hstart
  have hroot : stackBlanks c.contents = blankElements (buildTree events) := by
    rw [Builder.contents, hbelow, htree]
    rfl
  rw [hroot, blankElements_of_forall₂ hbrings] at hblanks
  exact hblanks.trans (hsub.filterMap blankCode?)

end Folio
