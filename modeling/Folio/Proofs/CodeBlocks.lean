import Mathlib.Data.List.Forall2
import Folio.Proofs.CodeApart

/-! Highlighting block by block. What becomes of a block depends on its own source and language
alone, and outside the blocks the tree keeps its nodes and their order. -/

namespace Folio.Code

/-- The first class with the prefix names the language; without one it is the default. -/
def NamesLanguage (code : Element) (language : String) : Prop :=
  (∃ before after, code.properties.classes = before ++ ("language-" ++ language) :: after ∧
    ∀ cls ∈ before, ¬ "language-".toList <+: cls.toList) ∨
  (language = "plaintext" ∧ ∀ cls ∈ code.properties.classes, ¬ "language-".toList <+: cls.toList)

/-- One newline at the end is not part of the source. -/
def HasSource (code : Element) (source : String) : Prop :=
  code.textContent = source ++ "\n" ∨
    (code.textContent = source ∧ ∀ s, code.textContent ≠ s ++ "\n")

/-- A `pre` with one element right inside, which is a `code`; texts and markup may stand around it. -/
structure IsBlock (pre code : Element) (source language : String) : Prop where
  pre_tag : pre.tag = "pre"
  code_tag : code.tag = "code"
  only_element : ∃ before after, pre.children = before ++ code.toNode :: after ∧
    (∀ n ∈ before, n.element? = none) ∧ ∀ n ∈ after, n.element? = none
  language : NamesLanguage code language
  source : HasSource code source

/-- What becomes of a node. No block inside a block is looked at. -/
inductive HighlightsTo (h : Highlighter) (excluded : List String) : Node → Node → Prop
  | text (s : String) : HighlightsTo h excluded (.text s) (.text s)
  | raw (s : String) : HighlightsTo h excluded (.raw s) (.raw s)
  | replaced {tag : String} {p : Properties} {children : List Node} {code : Element}
      {source language markup : String} (hb : IsBlock ⟨tag, p, children⟩ code source language)
      (hl : language ∉ excluded) (hm : h source language = .ok markup) :
      HighlightsTo h excluded (.element tag p children) (.raw markup)
  | excluded {tag : String} {p : Properties} {children : List Node} {code : Element}
      {source language : String} (hb : IsBlock ⟨tag, p, children⟩ code source language)
      (hl : language ∈ excluded) :
      HighlightsTo h excluded (.element tag p children) (.element tag p children)
  | failed {tag : String} {p : Properties} {children : List Node} {code : Element}
      {source language err : String} (hb : IsBlock ⟨tag, p, children⟩ code source language)
      (hl : language ∉ excluded) (hm : h source language = .error err) :
      HighlightsTo h excluded (.element tag p children) (.element tag p children)
  | entered {tag : String} {p : Properties} {children inner : List Node}
      (hb : ∀ code source language, ¬ IsBlock ⟨tag, p, children⟩ code source language)
      (hi : List.Forall₂ (HighlightsTo h excluded) children inner) :
      HighlightsTo h excluded (.element tag p children) (.element tag p inner)

/-! ### Blocks -/

theorem element?_eq_some_iff {n : Node} {e : Element} : n.element? = some e ↔ n = e.toNode := by
  cases n with
  | text s => simp [Node.element?, Element.toNode]
  | raw s => simp [Node.element?, Element.toNode]
  | element tag p children =>
    rw [show Node.element tag p children = (Element.mk tag p children).toNode from rfl, toNode_inj]
    exact Option.some_inj

theorem codeOf?_eq_some_iff {pre code : Element} :
    codeOf? pre = some code ↔ code.tag = "code" ∧
      ∃ before after, pre.children = before ++ code.toNode :: after ∧
        (∀ n ∈ before, n.element? = none) ∧ ∀ n ∈ after, n.element? = none := by
  have honly : codeOf? pre = some code ↔
      code.tag = "code" ∧ pre.children.filterMap Node.element? = [code] := by
    rw [codeOf?]
    split
    · rename_i only hone
      rw [hone]
      grind
    · rename_i hnone
      exact ⟨nofun, fun hcode => absurd hcode.2 (hnone code)⟩
  rw [honly, List.filterMap_eq_cons_iff]
  refine and_congr_right fun _ => ⟨?_, ?_⟩
  · rintro ⟨before, n, after, hpre, hbefore, hn, hafter⟩
    obtain rfl := element?_eq_some_iff.mp hn
    exact ⟨before, after, hpre, hbefore, List.filterMap_eq_nil_iff.mp hafter⟩
  · rintro ⟨before, after, hpre, hbefore, hafter⟩
    exact ⟨before, _, after, hpre, hbefore, rfl, List.filterMap_eq_nil_iff.mpr hafter⟩

theorem classLanguage_eq_some_iff {cls language : String} :
    (Text.dropPrefix? "language-".toList cls.toList).map .ofList = some language ↔
      cls = "language-" ++ language := by
  rw [Option.map_eq_some_iff]
  constructor
  · rintro ⟨s, hs, rfl⟩
    rw [← String.toList_inj, eq_append_of_dropPrefix? hs, String.toList_append]
    exact congrArg _ String.toList_ofList.symm
  · rintro rfl
    refine ⟨language.toList, ?_, String.ofList_toList⟩
    rw [String.toList_append, dropPrefix?_append]

theorem classLanguage_eq_none_iff {cls : String} :
    (Text.dropPrefix? "language-".toList cls.toList).map String.ofList = none ↔
      ¬ "language-".toList <+: cls.toList := by
  rw [Option.map_eq_none_iff, dropPrefix?_eq_none_iff]

theorem languageOf_eq_iff {code : Element} {language : String} :
    languageOf code = language ↔ NamesLanguage code language := by
  rw [languageOf, Option.getD_eq_iff, List.findSome?_eq_some_iff, List.findSome?_eq_none_iff]
  simp only [classLanguage_eq_some_iff, classLanguage_eq_none_iff, NamesLanguage]
  constructor
  · rintro (⟨before, _, after, hcls, rfl, hbefore⟩ | ⟨hnone, rfl⟩)
    · exact .inl ⟨before, after, hcls, hbefore⟩
    · exact .inr ⟨rfl, hnone⟩
  · rintro (⟨before, after, hcls, hbefore⟩ | ⟨rfl, hnone⟩)
    · exact .inl ⟨before, _, after, hcls, rfl, hbefore⟩
    · exact .inr ⟨hnone, rfl⟩

theorem sourceOf_eq_iff {code : Element} {source : String} :
    sourceOf code = source ↔ HasSource code source := by
  have hline : ∀ s : String, code.textContent = s ++ "\n" ↔
      code.textContent.toList = s.toList ++ ['\n'] := by
    intro s
    rw [← String.toList_inj, String.toList_append]
    rfl
  rw [HasSource, sourceOf]
  by_cases hlast : code.textContent.toList.getLast? = some '\n'
  · obtain ⟨s, hs⟩ := List.getLast?_eq_some_iff.mp hlast
    have htext : code.textContent = .ofList s ++ "\n" := by
      rw [hline, hs, String.toList_ofList]
    rw [if_pos hlast, hs, List.dropLast_concat]
    constructor
    · rintro rfl
      exact .inl htext
    · rintro (hsource | ⟨-, hno⟩)
      · rw [hline, hs, List.append_left_inj] at hsource
        rw [hsource, String.ofList_toList]
      · exact absurd htext (hno _)
  · have hno : ∀ s, code.textContent ≠ s ++ "\n" := by
      intro s hs
      rw [(hline s).mp hs] at hlast
      exact hlast List.getLast?_concat
    rw [if_neg hlast, String.ofList_toList]
    constructor
    · rintro rfl
      exact .inr ⟨rfl, hno⟩
    · rintro (hsource | ⟨hsource, -⟩)
      · exact absurd hsource (hno source)
      · exact hsource

theorem isBlock_iff {pre code : Element} {source language : String} :
    IsBlock pre code source language ↔ pre.tag = "pre" ∧ codeOf? pre = some code ∧
      sourceOf code = source ∧ languageOf code = language := by
  rw [codeOf?_eq_some_iff, sourceOf_eq_iff, languageOf_eq_iff]
  constructor
  · intro hb
    exact ⟨hb.pre_tag, ⟨hb.code_tag, hb.only_element⟩, hb.source, hb.language⟩
  · rintro ⟨hpre, ⟨hcode, honly⟩, hsource, hlanguage⟩
    exact ⟨hpre, hcode, honly, hlanguage, hsource⟩

/-! ### The pass -/

theorem highlightVisitor_block (h : Highlighter) (excluded : List String) (m : Metadata)
    {pre code : Element} {source language : String} (hb : IsBlock pre code source language) :
    highlightVisitor h excluded m pre =
      if language ∈ excluded then (m, pre, .skip)
      else
        match h source language with
        | .ok markup => (m, pre, .replace [.raw markup])
        | .error _ => (m, pre, .skip) := by
  obtain ⟨htag, hcode, rfl, rfl⟩ := isBlock_iff.mp hb
  rw [highlightVisitor, if_pos htag, hcode]
  by_cases hl : languageOf code ∈ excluded
  · rw [if_pos hl]
    exact if_pos (List.contains_iff_mem.mpr hl)
  · rw [if_neg hl]
    exact if_neg (mt List.contains_iff_mem.mp hl)

variable {h : Highlighter} {excluded : List String}

theorem highlightVisitor_other (m : Metadata) {e : Element}
    (hb : ∀ code source language, ¬ IsBlock e code source language) :
    highlightVisitor h excluded m e = (m, e, .enter) := by
  rw [highlightVisitor]
  split
  · rename_i htag
    cases hcode : codeOf? e with
    | none => rfl
    | some code => exact absurd (isBlock_iff.mpr ⟨htag, hcode, rfl, rfl⟩) (hb _ _ _)
  · rfl

theorem traversal_of_forall₂ (m : Metadata) {ns ns' : List Node}
    (hf : List.Forall₂ (HighlightsTo h excluded) ns ns') :
    Traversal (highlightVisitor h excluded) m ns m ns' := by
  induction ns using nodes_induction generalizing ns' with
  | nil =>
    cases hf
    exact .nil m
  | text s ns ih =>
    obtain _ | ⟨hn, hf⟩ := hf
    cases hn
    exact .pass (.text s) (ih hf)
  | raw s ns ih =>
    obtain _ | ⟨hn, hf⟩ := hf
    cases hn
    exact .pass (.raw s) (ih hf)
  | element tag p children ns ihi ih =>
    obtain _ | ⟨hn, hf⟩ := hf
    cases hn with
    | replaced hb hl hm =>
      have hv := highlightVisitor_block h excluded m hb
      rw [if_neg hl, hm] at hv
      exact .pass (.replace hv) (ih hf)
    | excluded hb hl =>
      have hv := highlightVisitor_block h excluded m hb
      rw [if_pos hl] at hv
      exact .pass (.skip hv) (ih hf)
    | failed hb hl hm =>
      have hv := highlightVisitor_block h excluded m hb
      rw [if_neg hl, hm] at hv
      exact .pass (.skip hv) (ih hf)
    | entered hb hi => exact .enter (highlightVisitor_other m hb) (ihi hi) (ih hf)

theorem exists_isBlock {m : Metadata} {e : Element}
    (hv : highlightVisitor h excluded m e ≠ (m, e, .enter)) :
    ∃ code source language, IsBlock e code source language := by
  by_contra hno
  refine hv (highlightVisitor_other m fun code source language hb => ?_)
  exact hno ⟨code, source, language, hb⟩

theorem highlightsTo_of_passes {m m₁ : Metadata} {n : Node} {new : List Node}
    (hp : Passes (highlightVisitor h excluded) m n m₁ new) :
    ∃ n', new = [n'] ∧ HighlightsTo h excluded n n' := by
  cases hp with
  | text s => exact ⟨_, rfl, .text s⟩
  | raw s => exact ⟨_, rfl, .raw s⟩
  | skip hv =>
    obtain ⟨code, source, language, hb⟩ := exists_isBlock (by rw [hv]; simp)
    rw [highlightVisitor_block h excluded m hb] at hv
    split at hv
    · rename_i hl
      cases hv
      exact ⟨_, rfl, .excluded hb hl⟩
    · rename_i hl
      split at hv
      · cases hv
      · rename_i hm
        cases hv
        exact ⟨_, rfl, .failed hb hl hm⟩
  | replace hv =>
    obtain ⟨code, source, language, hb⟩ := exists_isBlock (by rw [hv]; simp)
    rw [highlightVisitor_block h excluded m hb] at hv
    split at hv
    · cases hv
    · rename_i hl
      split at hv
      · rename_i hm
        cases hv
        exact ⟨_, rfl, .replaced hb hl hm⟩
      · cases hv

theorem forall₂_of_traversal {m m' : Metadata} {ns ns' : List Node}
    (ht : Traversal (highlightVisitor h excluded) m ns m' ns') :
    List.Forall₂ (HighlightsTo h excluded) ns ns' := by
  induction ht with
  | nil => exact .nil
  | pass hp _ ih =>
    obtain ⟨n', rfl, hn⟩ := highlightsTo_of_passes hp
    exact .cons hn ih
  | @enter m _ _ _ tag p children e inner ns ns' hv _ _ ihi ih =>
    obtain rfl := highlightVisitor_enter hv
    refine .cons (.entered (fun code source language hb => ?_) ihi) ih
    rw [highlightVisitor_block h excluded m hb] at hv
    split at hv
    · cases hv
    · split at hv
      · cases hv
      · cases hv

/-- Every block that the pass comes to is replaced by its markup if its language is not excluded and
the highlighter succeeds, and stays whole otherwise, whatever becomes of the others; all else stays
as and where it was. -/
theorem highlight_block_by_block (h : Highlighter) (excluded : List String) (d : Document) :
    ∃ ns, (highlight h excluded).Yields d ⟨ns, d.metadata⟩ ∧
      ∀ ns', List.Forall₂ (HighlightsTo h excluded) d.nodes ns' ↔ ns' = ns := by
  have ht := traversal_preorder (highlightVisitor_descends h excluded) d.metadata d.nodes
  have hspec := forall₂_of_traversal ht
  have hrun := traversal_of_forall₂ d.metadata hspec
  refine ⟨_, Transform.ofVisitor_yields hrun, fun ns' => ?_⟩
  constructor
  · intro hf
    exact ((traversal_of_forall₂ d.metadata hf).unique hrun).2
  · rintro rfl
    exact hspec

end Folio.Code
