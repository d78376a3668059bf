import Folio.Processor
import Folio.Proofs.CalloutSettled
import Folio.Proofs.CodeApart

/-! What is only presentation. Highlighting, links at headings and callouts change what a document
looks like and leave alone what is known about it. -/

namespace Folio

theorem Callout.transform_yields_of_ends {c : Callout.Config} {d : Document}
    (h : (Callout.transform c).Ends d) : ∃ ns, (Callout.transform c).Yields d ⟨ns, d.metadata⟩ := by
  obtain ⟨m, ns, ht⟩ := Transform.ofVisitor_ends_iff.mp h
  obtain rfl : m = d.metadata := ht.state_kept id fun _ _ => rfl
  exact ⟨ns, Transform.ofVisitor_yields ht⟩

namespace Processor

open Transform (YieldsAll)

/-- The settings differ in nothing but the presentation of documents. -/
structure SameContent (s s' : Settings) : Prop where
  extensions : s.extensions = s'.extensions
  smartPunctuation : s.smartPunctuation = s'.smartPunctuation
  keepHyphens : s.keepHyphens = s'.keepHyphens
  subtext : s.subtext = s'.subtext
  images : s.images = s'.images

/-- The rewriting of callouts ends on what the transforms before it make of the document. -/
def CalloutsEnd (l : Code.Library) (s : Settings) (highlighter : Option Code.Highlighter)
    (d : Document) : Prop :=
  ∀ o before, s.callouts = some o →
    YieldsAll (assemble l { s with callouts := none } highlighter []).transforms d before →
    (Callout.transform o.resolve).Ends before

/-- The transforms in front of all that presentation decides on. -/
def contentPasses (s : Settings) : List Transform :=
  (if s.subtext then [Folio.subtext] else []) ++ [Image.collect s.images]

variable {l l' : Code.Library} {s s' : Settings} {d : Document}

theorem contentPasses_yields (s : Settings) (hc : CodeApart d.nodes) :
    ∃ d₁, YieldsAll (contentPasses s) d d₁ ∧ CodeApart d₁.nodes := by
  have hcollect := fun d => (Image.collect_yields_stateAfter s.images d).all
  rw [contentPasses]
  split
  · obtain ⟨ns, hy, hns⟩ := subtext_yields hc
    exact ⟨_, hy.all.append (hcollect ⟨ns, d.metadata⟩), hns⟩
  · exact ⟨_, hcollect d, hc⟩

theorem highlighting_yields (highlighter : Option Code.Highlighter) (excluded : List String)
    (hc : CodeApart d.nodes) :
    ∃ ns, YieldsAll (highlighter.map fun h => Code.highlight h excluded).toList d ⟨ns, d.metadata⟩ ∧
      outlineKeys ns = outlineKeys d.nodes := by
  cases highlighter with
  | none => exact ⟨d.nodes, .nil d, rfl⟩
  | some h =>
    obtain ⟨ns, hy, hkeys⟩ := highlight_yields h excluded hc
    exact ⟨ns, hy.all, hkeys⟩

theorem outline_yields (keepHyphen : Bool) (d : Document) :
    ∃ ns, YieldsAll [Image.foldProperties, headingIds keepHyphen] d
      ⟨ns, outlined keepHyphen d.metadata d.nodes⟩ := by
  obtain ⟨folded, hfold, hkeys⟩ := Image.foldProperties_yields_keys d
  obtain ⟨ns, hids⟩ := headingIds_yields_outlined keepHyphen ⟨folded, d.metadata⟩
  rw [outlined_congr keepHyphen d.metadata hkeys] at hids
  exact ⟨ns, hfold.cons hids.all⟩

theorem anchors_yields (wanted : Bool) (d : Document) :
    ∃ ns, YieldsAll (if wanted then [Folio.headingAnchors] else []) d ⟨ns, d.metadata⟩ := by
  split
  · exact ⟨_, (headingAnchors_yields d).all⟩
  · exact ⟨d.nodes, .nil d⟩

/-- Without callouts the chain always ends. The metadata is what the outline of the tree in front of
highlighting adds to that of the tree. -/
theorem assemble_yields_of_no_callouts {s : Settings} (highlighter : Option Code.Highlighter)
    {d₁ : Document} (hcallouts : s.callouts = none) (hcontent : YieldsAll (contentPasses s) d d₁)
    (hc : CodeApart d₁.nodes) :
    ∃ ns, YieldsAll (assemble l s highlighter []).transforms d
      ⟨ns, outlined s.keepHyphens d₁.metadata d₁.nodes⟩ := by
  obtain ⟨code, hcode, hkeys⟩ := highlighting_yields (highlighter <|> highlighter? l s)
    s.excludedLanguages hc
  obtain ⟨ids, hids⟩ := outline_yields s.keepHyphens ⟨code, d₁.metadata⟩
  rw [outlined_congr s.keepHyphens d₁.metadata hkeys] at hids
  obtain ⟨ns, hanchors⟩ := anchors_yields s.headingAnchors
    ⟨ids, outlined s.keepHyphens d₁.metadata d₁.nodes⟩
  refine ⟨ns, ?_⟩
  have h := (((hcontent.append hcode).append (.nil _)).append hids).append hanchors
  have h' := h.append (.nil _)
  rw [assemble, hcallouts]
  exact h'

theorem transforms_eq_append (s : Settings) (highlighter : Option Code.Highlighter)
    (user : List Transform) : (assemble l s highlighter user).transforms =
      (assemble l { s with callouts := none } highlighter user).transforms ++
        (s.callouts.map fun o => Callout.transform o.resolve).toList := by
  simp [assemble, highlighter?]

theorem assemble_yields (highlighter : Option Code.Highlighter) {d₁ : Document}
    (hcontent : YieldsAll (contentPasses s) d d₁) (hc : CodeApart d₁.nodes)
    (he : CalloutsEnd l s highlighter d) :
    ∃ ns, YieldsAll (assemble l s highlighter []).transforms d
      ⟨ns, outlined s.keepHyphens d₁.metadata d₁.nodes⟩ := by
  obtain ⟨before, hbefore⟩ := assemble_yields_of_no_callouts (l := l)
    (s := { s with callouts := none }) highlighter rfl hcontent hc
  rw [transforms_eq_append]
  cases hcallouts : s.callouts with
  | none => exact ⟨before, hbefore.append (.nil _)⟩
  | some o =>
    obtain ⟨ns, hy⟩ := Callout.transform_yields_of_ends (he o _ hcallouts hbefore)
    exact ⟨ns, hbefore.append hy.all⟩

theorem contentPasses_congr (h : SameContent s s') : contentPasses s = contentPasses s' := by
  rw [contentPasses, contentPasses, h.subtext, h.images]

/-- Where headings and code blocks stand apart, settings that differ only in presentation, any two
highlighters and any two libraries leave the same metadata of a document. -/
theorem metadata_of_sameContent (hs : SameContent s s')
    (highlighter highlighter' : Option Code.Highlighter) (hc : CodeApart d.nodes)
    (he : CalloutsEnd l s highlighter d) (he' : CalloutsEnd l' s' highlighter' d) :
    ∃ d₁ d₂, YieldsAll (assemble l s highlighter []).transforms d d₁ ∧
      YieldsAll (assemble l' s' highlighter' []).transforms d d₂ ∧
      d₁.metadata = d₂.metadata := by
  obtain ⟨d₀, hcontent, hc₀⟩ := contentPasses_yields s hc
  obtain ⟨ns, hy⟩ := assemble_yields highlighter hcontent hc₀ he
  rw [contentPasses_congr hs] at hcontent
  obtain ⟨ns', hy'⟩ := assemble_yields highlighter' hcontent hc₀ he'
  rw [← hs.keepHyphens] at hy'
  exact ⟨_, _, hy, hy', rfl⟩

def remark : Document :=
  ⟨[.element "h2" {} [.text "Install"],
    .element "pre" {} [.element "code" ⟨[("class", .tokens ["language-txt"])]⟩ [.text "make\n"]],
    .element "blockquote" {} [.element "p" {} [.text "[!note] Mind "],
      .element "p" {} [.element "img" ⟨[("src", .text "gap.png")]⟩ []]]], {}⟩

/-- Callouts in the theme without icons, and a link at every heading. -/
def linked : Settings :=
  { callouts := some { theme := some .vitepress } }

def bare : Settings :=
  { highlighting := .classed, excludedLanguages := [], headingAnchors := false, callouts := none }

theorem quoteFree_vitepress :
    Callout.QuoteFree (Callout.Options.resolve { theme := some .vitepress }) where
  container := by decide
  title := by decide
  content := by decide
  foldedContent := by decide
  icon := by decide
  titleInner := by decide
  indicators := by
    have hnone : ∀ entry ∈ (Callout.Options.resolve { theme := some .vitepress }).entries,
        entry.2.indicator = none := by decide +kernel
    intro entry he markup parts hm
    rw [hnone entry he] at hm
    cases hm

theorem calloutsEnd_linked (l : Code.Library) (highlighter : Option Code.Highlighter)
    (d : Document) : CalloutsEnd l linked highlighter d := by
  intro o before ho _
  obtain rfl := Option.some.inj ho
  exact Callout.transform_ends_iff.mpr fun e _ => Callout.acc_of_quoteFree quoteFree_vitepress e

/-- A library that takes all code for plain text. -/
def plainLibrary : Code.Library where
  Grammar := Unit
  Palette := Unit
  byToken? _ := none
  byExtension? _ := none
  plainText := ()
  palette? name := if name = Code.defaultPalette then some () else none
  default_isSome := rfl
  colored _ _ code := .ok ("<pre><span>" ++ Html.escapeText code ++ "</span></pre>\n")
  classed _ lines :=
    .ok ("<span class=\"text plain\">" ++ Html.escapeText (.join lines) ++ "</span>")

theorem metadata_of_sameContent_remark :
    SameContent linked bare ∧ CodeApart remark.nodes ∧
      CalloutsEnd plainLibrary linked (some fun _ _ => .error "down") remark ∧
      CalloutsEnd plainLibrary bare none remark ∧
      ∃ d₁ d₂,
        YieldsAll (assemble plainLibrary linked (some fun _ _ => .error "down") []).transforms
          remark d₁ ∧
        YieldsAll (assemble plainLibrary bare none []).transforms remark d₂ ∧
        d₁.metadata = d₂.metadata := by
  have hs : SameContent linked bare := ⟨rfl, rfl, rfl, rfl, rfl⟩
  have hc : CodeApart remark.nodes := by decide
  have he := calloutsEnd_linked plainLibrary (some fun _ _ => .error "down") remark
  have he' : CalloutsEnd plainLibrary bare none remark := fun o _ ho => by cases ho
  exact ⟨hs, hc, he, he', metadata_of_sameContent hs _ _ hc he he'⟩

end Processor

end Folio
