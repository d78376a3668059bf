import Folio.Proofs.OpenContent

/-! Blocks in a tree stand on lines of their own, whatever the events it is built from: a line break
comes right before every block but the first of the document, and the content of an element with
blocks ends with one. -/

namespace Folio

open Markdown (Event)

/-- Every block among the nodes comes right behind a line break. In the document itself a block may
come first. -/
def BlocksOnLines (outermost : Bool) (ns : List Node) : Prop :=
  ∀ pre n post, ns = pre ++ n :: post → n.isBlockElement = true →
    (outermost = true ∧ pre = []) ∨ EndsLine pre

variable {outermost : Bool} {ns : List Node}

theorem blocksOnLines_nil (outermost : Bool) : BlocksOnLines outermost [] := by
  intro pre n post h
  simp at h

theorem blocksOnLines_concat {n : Node} :
    BlocksOnLines outermost (ns ++ [n]) ↔ BlocksOnLines outermost ns ∧
      (n.isBlockElement = true → (outermost = true ∧ ns = []) ∨ EndsLine ns) := by
  constructor
  · intro h
    refine ⟨fun pre m post hns => ?_, h ns n [] rfl⟩
    exact h pre m (post ++ [n]) (by simp [hns])
  · rintro ⟨hns, hn⟩ pre m post h
    rcases List.eq_nil_or_concat post with rfl | ⟨post, l, rfl⟩
    · obtain ⟨rfl, hm⟩ := List.append_inj' h rfl
      obtain rfl := List.singleton_inj.mp hm
      exact hn
    · have hinit : ns ++ [n] = (pre ++ m :: post) ++ [l] := by simpa using h
      exact hns pre m post (List.append_inj' hinit rfl).1

theorem BlocksOnLines.pushText (h : BlocksOnLines outermost ns) (s : String) :
    BlocksOnLines outermost (pushText s ns) := by
  by_cases hs : s = ""
  · rwa [Folio.pushText, if_pos hs]
  · rcases pushText_cases hs ns with ⟨init, t, rfl, hpush⟩ | ⟨-, hpush⟩
    · rw [hpush]
      exact blocksOnLines_concat.mpr ⟨(blocksOnLines_concat.mp h).1, by simp [Node.isBlockElement]⟩
    · rw [hpush]
      exact blocksOnLines_concat.mpr ⟨h, by simp [Node.isBlockElement]⟩

theorem isBlockElement_pushText {s : String} :
    (∃ n ∈ pushText s ns, n.isBlockElement = true) → ∃ n ∈ ns, n.isBlockElement = true := by
  by_cases hs : s = ""
  · rw [pushText, if_pos hs]
    exact id
  · rcases pushText_cases hs ns with ⟨init, t, rfl, hpush⟩ | ⟨-, hpush⟩
    · rw [hpush]
      simp [Node.isBlockElement]
    · rw [hpush]
      simp [Node.isBlockElement]

/-- What the content of an element is like, so far as blocks are concerned. -/
structure HoldsBlocks (ns : List Node) : Prop where
  before : BlocksOnLines false ns
  after : (∃ n ∈ ns, n.isBlockElement = true) → EndsLine ns

theorem holdsBlocks_of_blockless (h : ∀ n ∈ ns, n.isBlockElement = false) : HoldsBlocks ns where
  before pre n post hns hn := by simp [h n (by simp [hns])] at hn
  after := by
    rintro ⟨n, hn, hblock⟩
    simp [h n hn] at hblock

theorem holdsBlocks_of_brings {e : Event} {n : Node} {d : Element} (h : Brings e n)
    (hd : Within d [n]) : HoldsBlocks d.children := by
  refine holdsBlocks_of_blockless ?_
  rcases h.children_of_within hd with hc | ⟨s, hc⟩ | ⟨tag, p, s, htag, hc⟩
  · simp [hc]
  · simp [hc, Node.isBlockElement]
  · simp [hc, Node.isBlockElement, htag]

theorem kept_blocks : Kept (fun outermost ns hasBlocks => BlocksOnLines outermost ns ∧
    (outermost = false → (∃ n ∈ ns, n.isBlockElement = true) → hasBlocks = true)) HoldsBlocks where
  fresh outermost := ⟨blocksOnLines_nil outermost, by simp⟩
  text s h := ⟨h.1.pushText s, fun ho hb => h.2 ho (isBlockElement_pushText hb)⟩
  counted h := ⟨h.1, fun _ _ => rfl⟩
  node := by
    intro outermost ns hasBlocks n _ hline ⟨hns, hcount⟩
    refine ⟨blocksOnLines_concat.mpr ⟨hns, fun hn => (hline hn).imp_right (·.1)⟩, ?_⟩
    rintro rfl ⟨m, hm, hblock⟩
    rcases List.mem_append.mp hm with hm | hm
    · exact hcount rfl ⟨m, hm, hblock⟩
    · obtain rfl := List.mem_singleton.mp hm
      exact ((hline hblock).resolve_left nofun).2.resolve_left nofun
  join t h := by
    refine ⟨blocksOnLines_concat.mpr ⟨(blocksOnLines_concat.mp h.1).1, nofun⟩, ?_⟩
    simpa [Node.isBlockElement] using h.2
  ended := by
    rintro ns hasBlocks ⟨hns, hcount⟩
    split
    · exact ⟨hns.pushText _, fun _ => endsLine_pushText ns⟩
    · rename_i hnone
      exact ⟨hns, fun hb => absurd (hcount rfl hb) hnone⟩
  brought := holdsBlocks_of_brings

/-- In a tree from any stream of events, every block but a first node of the document comes right
behind a text that ends with a line break, and so does the end of every element that has blocks. -/
theorem buildTree_blocks_on_lines (events : List Event) :
    (∀ pre n post, buildTree events = pre ++ n :: post → n.isBlockElement = true →
      pre = [] ∨ ∃ init s, pre = init ++ [.text (s ++ "\n")]) ∧
    ∀ e, Within e (buildTree events) →
      (∀ pre n post, e.children = pre ++ n :: post → n.isBlockElement = true →
        ∃ init s, pre = init ++ [.text (s ++ "\n")]) ∧
      ((∃ n ∈ e.children, n.isBlockElement = true) →
        ∃ init s, e.children = init ++ [.text (s ++ "\n")]) := by
  obtain ⟨⟨_, hroot, -⟩, hinside⟩ := kept_blocks.buildTree events
  refine ⟨fun pre n post h hn => (hroot pre n post h hn).imp_left (·.2), fun e he => ⟨?_, ?_⟩⟩
  · intro pre n post h hn
    exact ((hinside e he).before pre n post h hn).resolve_left nofun
  · exact (hinside e he).after

end Folio
