import Folio.Proofs.Building

/-! What a cell holds does not depend on what is around it: two builders with the same content in
their innermost element give it the same content, whatever they have open below and whichever table
they are in. All that counts is what they remember of footnotes and HTML blocks. -/

namespace Folio

open Markdown (Event Tag TagKind)

/-- What is remembered from one part of a document to the next, besides tables. -/
structure Memory where
  inHtmlBlock : Bool := false
  footnotes : List String := []
  deriving DecidableEq, Repr

structure Frame.SameContent (f f' : Frame) : Prop where
  kind : f.kind = f'.kind
  children : f.element.children = f'.element.children
  hasBlocks : f.hasBlocks = f'.hasBlocks

theorem Frame.SameContent.closed {f f' : Frame} (h : f.SameContent f') :
    f.closed.children = f'.closed.children := by
  unfold Frame.closed
  rw [h.hasBlocks]
  split
  · exact congrArg (pushText "\n") h.children
  · exact h.children

namespace Builder

def memory (b : Builder) : Memory :=
  ⟨b.inHtmlBlock, b.footnotes⟩

def remember (b : Builder) (memory : Memory) : Builder :=
  { b with inHtmlBlock := memory.inHtmlBlock, footnotes := memory.footnotes }

/-- What is remembered of the table that is being built. -/
def tableMemory (b : Builder) : List Markdown.Alignment × Nat × Bool × Bool :=
  (b.alignments, b.cellIndex, b.inTableHead, b.tableBodyOpen)

theorem eq_of_parts {b c : Builder} (ht : b.top = c.top) (hb : b.below = c.below)
    (hm : b.memory = c.memory) (htable : b.tableMemory = c.tableMemory) : b = c := by
  cases b
  cases c
  simp_all [memory, tableMemory]

/-- The innermost `k` open elements are the same. Below them stands one that has the same content
in both, and it is not the outermost one. -/
inductive Agree : Nat → List Frame → List Frame → Prop
  | base {f f' : Frame} {fs fs' : List Frame} (same : f.SameContent f') (below : fs ≠ [])
    (below' : fs' ≠ []) : Agree 0 (f :: fs) (f' :: fs')
  | inner (f : Frame) {k : Nat} {fs fs' : List Frame} (h : Agree k fs fs') :
    Agree (k + 1) (f :: fs) (f :: fs')

section Agree

variable {k : Nat} {f f' : Frame} {fs fs' : List Frame}

theorem Agree.top (h : Agree k (f :: fs) (f' :: fs')) : f.SameContent f' := by
  cases h with
  | base h => exact h
  | inner => exact ⟨rfl, rfl, rfl⟩

theorem Agree.ne_nil (h : Agree k fs fs') : fs ≠ [] ∧ fs' ≠ [] := by
  cases h <;> exact ⟨nofun, nofun⟩

theorem Agree.below_ne_nil (h : Agree k (f :: fs) (f' :: fs')) : fs ≠ [] ∧ fs' ≠ [] := by
  cases h with
  | base _ hb hb' => exact ⟨hb, hb'⟩
  | inner _ h => exact h.ne_nil

theorem Agree.tail (h : Agree (k + 1) (f :: fs) (f' :: fs')) : f = f' ∧ Agree k fs fs' := by
  cases h with
  | inner _ h => exact ⟨rfl, h⟩

theorem Agree.mapTop (h : Agree k (f :: fs) (f' :: fs')) {g : Frame → Frame}
    (hg : (g f).SameContent (g f')) : Agree k (g f :: fs) (g f' :: fs') := by
  cases h with
  | base _ hb hb' => exact .base hg hb hb'
  | inner _ h => exact .inner _ h

theorem exists_markTask_cons (f : Frame) (fs : List Frame) :
    ∃ g gs, markTask (f :: fs) = g :: gs ∧ g.SameContent f ∧ gs.length = fs.length := by
  rw [markTask_cons]
  split
  · exact ⟨_, fs, rfl, ⟨rfl, rfl, rfl⟩, rfl⟩
  · refine ⟨f, markTask fs, rfl, ⟨rfl, rfl, rfl⟩, ?_⟩
    simpa using congrArg List.length (markTask_children fs)

theorem Agree.markTask (h : Agree k fs fs') :
    Agree k (Builder.markTask fs) (Builder.markTask fs') := by
  have hne : ∀ {gs fs : List Frame}, gs.length = fs.length → fs ≠ [] → gs ≠ [] := by
    rintro gs fs hlength hfs rfl
    exact hfs (List.length_eq_zero_iff.mp hlength.symm)
  induction h with
  | @base f f' fs fs' h hb hb' =>
    obtain ⟨g, gs, hg, hsame, hlength⟩ := exists_markTask_cons f fs
    obtain ⟨g', gs', hg', hsame', hlength'⟩ := exists_markTask_cons f' fs'
    rw [hg, hg']
    refine .base ⟨?_, ?_, ?_⟩ (hne hlength hb) (hne hlength' hb')
    · rw [hsame.kind, hsame'.kind, h.kind]
    · rw [hsame.children, hsame'.children, h.children]
    · rw [hsame.hasBlocks, hsame'.hasBlocks, h.hasBlocks]
  | inner f h ih =>
    rw [markTask_cons, markTask_cons]
    split
    · exact .inner _ h
    · exact .inner f ih

end Agree

/-- The builders agree from the innermost elements to the `k`-th one around them and in what they
remember, but for the table, of which the first one remembers `t`. -/
structure Alike (k : Nat) (t : List Markdown.Alignment × Nat × Bool × Bool) (b c : Builder) :
    Prop where
  frames : Agree k (b.top :: b.below) (c.top :: c.below)
  memory : b.memory = c.memory
  table : b.tableMemory = t

namespace Alike

variable {k : Nat} {t : List Markdown.Alignment × Nat × Bool × Bool} {b c : Builder}

theorem inHtmlBlock (h : Alike k t b c) : b.inHtmlBlock = c.inHtmlBlock :=
  congrArg Memory.inHtmlBlock h.memory

theorem footnotes (h : Alike k t b c) : b.footnotes = c.footnotes :=
  congrArg Memory.footnotes h.memory

theorem children (h : Alike k t b c) : b.top.element.children = c.top.element.children :=
  h.frames.top.children

theorem mapChildren (h : Alike k t b c) (f : List Node → List Node) :
    Alike k t (b.mapChildren f) (c.mapChildren f) where
  frames := h.frames.mapTop (g := fun x => { x with element.children := f x.element.children })
    ⟨h.frames.top.kind, congrArg f h.children, h.frames.top.hasBlocks⟩
  memory := h.memory
  table := h.table

theorem pushText (h : Alike k t b c) (s : String) : Alike k t (b.pushText s) (c.pushText s) :=
  h.mapChildren _

theorem breakLine (h : Alike k t b c) : Alike k t b.breakLine c.breakLine := by
  obtain ⟨hb, hc⟩ := h.frames.below_ne_nil
  have hline : ∀ {d : Builder}, d.below ≠ [] →
      d.breakLine = { d.pushText "\n" with top.hasBlocks := true } := fun hd => by
    rw [Builder.breakLine, if_neg (by simpa using hd)]
  rw [hline hb, hline hc]
  have hpush := h.pushText "\n"
  exact ⟨hpush.frames.mapTop (g := fun x => { x with hasBlocks := true })
    ⟨hpush.frames.top.kind, hpush.children, rfl⟩, hpush.memory, hpush.table⟩

theorem append (h : Alike k t b c) (n : Node) : Alike k t (b.append n) (c.append n) := by
  have hblock : b.isBlock n = c.isBlock n := by
    cases n with
    | raw s => exact h.inHtmlBlock
    | text s | element tag p children => rfl
  have hline : Alike k t (if b.isBlock n then b.breakLine else b)
      (if c.isBlock n then c.breakLine else c) := by
    rw [← hblock]
    split
    · exact h.breakLine
    · exact h
  unfold Builder.append
  cases n with
  | text s => exact hline.pushText s
  | raw s => exact hline.mapChildren _
  | element tag p children => exact hline.mapChildren _

theorem openElement (h : Alike k t b c) (e : Element) :
    Alike (k + 1) t (b.openElement e) (c.openElement e) :=
  ⟨.inner _ h.frames, h.memory, h.table⟩

theorem close (h : Alike (k + 1) t b c) : Alike k t b.close c.close := by
  obtain ⟨htop, hbelow⟩ := h.frames.tail
  cases hb : b.below with
  | nil => exact absurd hb hbelow.ne_nil.1
  | cons outer below =>
    cases hc : c.below with
    | nil => exact absurd hc hbelow.ne_nil.2
    | cons outer' below' =>
      rw [hb, hc] at hbelow
      have hrest : Alike k t { b with top := outer, below := below }
          { c with top := outer', below := below' } := ⟨hbelow, h.memory, h.table⟩
      rw [close_of_below hb, close_of_below hc, ← htop]
      exact hrest.append _

theorem footnoteNumber (h : Alike k t b c) (label : String) :
    Alike k t (b.footnoteNumber label).1 (c.footnoteNumber label).1 ∧
      (b.footnoteNumber label).2 = (c.footnoteNumber label).2 := by
  unfold Builder.footnoteNumber
  rw [← h.footnotes]
  split
  · exact ⟨h, rfl⟩
  · exact ⟨⟨h.frames, congrArg (Memory.mk · _) h.inHtmlBlock, h.table⟩, rfl⟩

theorem pushHtml (h : Alike k t b c) (markup : String) :
    Alike k t (b.pushHtml markup) (c.pushHtml markup) := by
  unfold Builder.pushHtml
  rw [← h.inHtmlBlock, ← h.children]
  split
  · exact h.mapChildren _
  · exact h.append _

theorem taskMarker (h : Alike k t b c) (checked : Bool) :
    Alike k t (b.taskMarker checked) (c.taskMarker checked) := by
  obtain ⟨p, hp⟩ := taskMarker_eq checked
  have hmark : Alike k t (b.marked true) (c.marked true) := by
    refine ⟨?_, h.memory, h.table⟩
    rw [marked_frames, marked_frames]
    exact h.frames.markTask
  rw [hp, hp]
  exact (hmark.append _).pushText " "

theorem event (h : Alike k t b c) {e : Event} (hs : ∀ tag, e ≠ .enter tag)
    (hl : ∀ kind, e ≠ .leave kind) : Alike k t (b.pushElementEvent e) (c.pushElementEvent e) := by
  cases e with
  | enter tag => exact absurd rfl (hs tag)
  | leave kind => exact absurd rfl (hl kind)
  | text s => exact h.pushText s
  | softBreak => exact h.pushText "\n"
  | hardBreak => exact (h.append (.element "br" {} [])).pushText "\n"
  | code s => exact h.append (.element "code" {} [.text s])
  | inlineMath s => exact h.append (mathElement "math-inline" s)
  | displayMath s => exact h.append (.element "pre" {} [mathElement "math-display" s])
  | inlineHtml markup => exact h.append (.raw markup)
  | rule => exact h.append (.element "hr" {} [])
  | html markup => exact h.pushHtml markup
  | taskMarker checked => exact h.taskMarker checked
  | footnoteReference label =>
    obtain ⟨hnote, hnumber⟩ := h.footnoteNumber label
    unfold Builder.pushElementEvent Builder.footnoteReference
    dsimp only
    rw [hnumber]
    exact hnote.append _

end Alike

end Builder

namespace Nest

open Builder

/-- Builders that agree still do behind the stretch. -/
def KeepsAlike (n : Nest) : Prop :=
  ∀ {k t} {b c : Builder}, Alike k t b c → b.top.kind = .element →
    Alike k t (n.build b) (n.build c)

section Spans

variable {tag : Tag} {content : Nest} {k : Nat}
  {t : List Markdown.Alignment × Nat × Bool × Bool} {b c : Builder}

theorem kind_build {n : Nest} (h : n.fits .cell = true) (hb : b.top.kind = .element) :
    (n.build b).top.kind = .element :=
  (does_of_fits h false b hb).1.kind.trans hb

theorem alike_buildSpan (hf : content.fits .cell = true) (hc : content.KeepsAlike)
    (h : Alike k t b c) (hb : b.top.kind = .element) {j : Nat}
    (ho : Alike j t (b.enter tag) (c.enter tag)) (hk : (b.enter tag).top.kind = .element)
    (hl : ∀ {b c : Builder}, Alike j t b c → Alike k t (b.leave tag.kind) (c.leave tag.kind)) :
    Alike k t (content.buildSpan tag b) (content.buildSpan tag c) := by
  have hk' : (c.enter tag).top.kind = .element := ho.frames.top.kind ▸ hk
  rw [buildSpan_of_element hb (kind_build hf hk),
    buildSpan_of_element (h.frames.top.kind ▸ hb) (kind_build hf hk')]
  exact hl (hc ho hk)

theorem alike_footnoteDefinition (h : Alike k t b c) (label : String) :
    Alike (k + 1) t (b.footnoteDefinition label) (c.footnoteDefinition label) := by
  obtain ⟨hnote, hnumber⟩ := h.footnoteNumber label
  unfold footnoteDefinition
  dsimp only
  rw [hnumber]
  exact (hnote.openElement _).append _

theorem alike_span (hs : Standing content .cell tag)
    (hc : content.fits .cell = true → content.KeepsAlike) (h : Alike k t b c)
    (hb : b.top.kind = .element) :
    Alike k t (content.buildSpan tag b) (content.buildSpan tag c) := by
  have hb' : c.top.kind = .element := h.frames.top.kind ▸ hb
  cases hs with
  | @plain _ e hp hf =>
    refine alike_buildSpan hf (hc hf) h hb (j := k + 1) ?_ ?_ ?_
    · rw [hp.enter, hp.enter]
      exact h.openElement e
    · rw [hp.enter]
      rfl
    · intro b c h
      rw [hp.leave, hp.leave]
      exact h.close
  | code ho hk _ hf =>
    refine alike_buildSpan hf (hc hf) h hb (j := k + 2) ?_ ?_ ?_
    · rw [ho, ho]
      exact (h.openElement _).openElement _
    · rw [ho]
      rfl
    · intro b c h
      rw [hk]
      exact h.close.close
  | htmlBlock hf =>
    refine alike_buildSpan hf (hc hf) h hb (j := k) ?_ hb ?_
    · exact ⟨h.frames, congrArg (Memory.mk true) h.footnotes, h.table⟩
    · exact fun h => ⟨h.frames, congrArg (Memory.mk false) h.footnotes, h.table⟩
  | footnote label hf =>
    exact alike_buildSpan hf (hc hf) h hb (alike_footnoteDefinition h label)
      (grown_append _ rfl).kind fun h => h.close
  | image url title hf =>
    rw [buildSpan_image hf hb, buildSpan_image hf hb']
    exact h.append _
  | table alignments hne hf => exact absurd rfl hne
  | metadata hf =>
    rw [buildSpan_metadata hf hb, buildSpan_metadata hf hb']
    exact h

end Spans

theorem keepsAlike_of_fits {n : Nest} (h : n.fits .cell = true) : n.KeepsAlike := by
  -- By induction on the stretch; inside a part the builders agree in one or two elements more.
  induction n with
  | done => exact fun h _ => h
  | event e rest ih =>
    intro k t b c hbc hb
    rw [fits, Bool.and_eq_true] at h
    obtain ⟨hs, hl⟩ := not_enter_leave_of_admits h.1
    have hevent := hbc.event hs hl
    rw [build_event, build_event, push_of_element hb,
      push_of_element (hbc.frames.top.kind ▸ hb)]
    exact ih h.2 hevent ((grown_event hs hl b).1.kind.trans hb)
  | span tag content rest ihc ihr =>
    intro k t b c hbc hb
    obtain ⟨hs, hfr⟩ := standing_of_fits (.inr rfl) h
    have hkind := (spanAdds_of_standing (.inr rfl) hs does_of_fits false b hb).1.kind
    rw [build_span, build_span]
    exact ihr hfr (alike_span hs ihc hbc hb) (hkind.trans hb)

/-- What is open while the stretch stands alone in a cell, with what has been remembered before. -/
def page (n : Nest) (memory : Memory) : Builder :=
  n.build (({} : Builder).remember memory |>.openElement ⟨"td", {}, []⟩)

/-- The content that the stretch gives to the cell around it. -/
def content (n : Nest) (memory : Memory) : List Node :=
  (n.page memory).top.closed.children

/-- What is remembered behind the stretch. -/
def after (n : Nest) (memory : Memory) : Memory :=
  (n.page memory).memory

theorem outline_content {n : Nest} (h : n.fits .cell = true) (memory : Memory) :
    Folio.outline (n.content memory) = n.outline false := by
  obtain ⟨hgrown, -⟩ := does_of_fits h false
    (({} : Builder).remember memory |>.openElement ⟨"td", {}, []⟩) rfl
  rw [content, Frame.outline_closed]
  exact hgrown.outline

theorem alike_page {n : Nest} (h : n.fits .cell = true) (b : Builder) {e : Element}
    (he : e.children = []) :
    Alike 0 b.tableMemory (n.build (b.openElement e)) (n.page b.memory) :=
  keepsAlike_of_fits h ⟨.base ⟨rfl, he, rfl⟩ nofun nofun, rfl, rfl⟩ rfl

/-- Around whatever it stands, the stretch ends with the same content in the element around it. -/
theorem close_build_openElement {n : Nest} (h : n.fits .cell = true) (b : Builder) {e : Element}
    (he : e.children = []) (hli : e.tag ≠ "li") :
    (n.build (b.openElement e)).close =
      ((b.marked n.marks).remember (n.after b.memory)).append
        (.element e.tag e.properties (n.content b.memory)) := by
  -- Tag, properties and what is below come from the growth, the content from the single cell.
  have halike := alike_page h b he
  obtain ⟨hgrown, -⟩ := does_of_fits h false (b.openElement e) rfl
  have hbelow : (n.build (b.openElement e)).below =
      (b.marked n.marks).top :: (b.marked n.marks).below := by
    rw [hgrown.below, marked_frames]
    simp [openElement, openFrame, hli]
  have hclosed : (n.build (b.openElement e)).top.closed.toNode =
      .element e.tag e.properties (n.content b.memory) := by
    have hp : (n.build (b.openElement e)).top.element.properties = e.properties := by
      rw [hgrown.properties, if_neg fun hm => hli hm.2]
      rfl
    rw [Frame.toNode_closed, hgrown.tag, hp, halike.frames.top.closed]
    rfl
  rw [close_of_below hbelow, hclosed]
  exact congrArg (append · _) (eq_of_parts rfl rfl halike.memory halike.table)

end Nest

end Folio
