import Mathlib.Data.List.Forall2
import Mathlib.Data.List.ModifyLast
import Folio.Proofs.MarkupNodes

/-! What becomes of the HTML blocks of a document. The builder joins the lines of a block by what
stands last in the open element, and so a block is no node of its own right behind other markup. -/

namespace Folio

open Markdown (Event Tag TagKind)
open Builder (Quiet isMarkup isNothing)

inductive Fate
  /-- A node of its own. -/
  | own
  /-- More text in the node of markup right before it. -/
  | joined
  /-- Nothing: an image takes in no markup. -/
  | dropped
  deriving DecidableEq, Repr

/-- An HTML block with all its lines, or markup between other text. -/
structure Piece where
  block : Bool
  fate : Fate
  markup : String
  deriving DecidableEq, Repr

def Piece.into (ps : List Piece) (p : Piece) : List Piece :=
  match p.fate with
  | .own => ps ++ [p]
  | .joined => ps.modifyLast fun q => { q with markup := q.markup ++ p.markup }
  | .dropped => ps

/-- The pieces that get a node, each with what is joined to it. -/
def gathered (ps : List Piece) : List Piece :=
  ps.foldl Piece.into []

/-- The node has the text of the piece. A block has a new line for itself, unless nothing comes
before it. -/
structure StandsFor (p : Piece) (r : RawSite) : Prop where
  markup : r.markup = p.markup
  line : p.block = true → ∀ n, r.before = some n → ∃ s, n = .text (s ++ "\n")

namespace Nest

def isLines : Nest → Bool
  | done => true
  | event (.html _) rest => rest.isLines
  | _ => false

/-- The text of the lines of an HTML block. -/
def markup : Nest → String
  | event (.html s) rest => s ++ rest.markup
  | _ => ""

/-- Whether every HTML block is one line of markup or more. -/
def plainHtml : Nest → Bool
  | done => true
  | event _ rest => rest.plainHtml
  | span .htmlBlock content rest => content.isLines && !content.events.isEmpty && rest.plainHtml
  | span _ content rest => content.plainHtml && rest.plainHtml

def eventPieces : Event → List Piece
  | .html s | .inlineHtml s => [⟨false, .own, s⟩]
  | _ => []

def blockFate (inImage behind : Bool) : Fate :=
  if inImage then .dropped else if behind then .joined else .own

/-- The markup of a stretch in document order. It is known whether the stretch is inside an image,
and whether it starts right behind markup. -/
def pieces (inImage behind : Bool) : Nest → List Piece
  | done => []
  | event e rest =>
    (if inImage then [] else eventPieces e) ++
      rest.pieces inImage (isMarkup e || behind && isNothing e)
  | span .htmlBlock content rest =>
    ⟨true, blockFate inImage behind, content.markup⟩ :: rest.pieces inImage true
  | span .metadata _ rest => rest.pieces inImage behind
  | span (.image _ _) content rest => content.pieces true false ++ rest.pieces inImage false
  | span _ content rest => content.pieces inImage false ++ rest.pieces inImage false

end Nest

section Gathering

variable {p q : Piece} {ps qs : List Piece}

theorem fate_of_mem_imagePieces {n : Nest} {behind : Bool} (h : p ∈ n.pieces true behind) :
    p.fate = .dropped := by
  induction n generalizing behind with
  | done => cases h
  | event e rest ih => exact ih (by simpa [Nest.pieces] using h)
  | span tag content rest ihc ihr =>
    cases tag with
    | htmlBlock =>
      rcases List.mem_cons.mp h with rfl | h
      · rfl
      · exact ihr h
    | metadata => exact ihr h
    | _ => exact (List.mem_append.mp h).elim ihc ihr

theorem foldl_into_dropped (h : ∀ p ∈ ps, p.fate = .dropped) (qs : List Piece) :
    ps.foldl Piece.into qs = qs := by
  induction ps with
  | nil => rfl
  | cons p ps ih =>
    have hp : Piece.into qs p = qs := by rw [Piece.into, h p List.mem_cons_self]
    rw [List.foldl_cons, hp]
    exact ih fun q hq => h q (List.mem_cons_of_mem _ hq)

theorem foldl_into_own (h : ∀ p ∈ ps, p.fate = .own) (qs : List Piece) :
    ps.foldl Piece.into qs = qs ++ ps := by
  induction ps generalizing qs with
  | nil => simp
  | cons p ps ih =>
    have hp : Piece.into qs p = qs ++ [p] := by rw [Piece.into, h p List.mem_cons_self]
    rw [List.foldl_cons, hp, ih fun q hq => h q (List.mem_cons_of_mem _ hq)]
    simp

theorem length_foldl_into (ps qs : List Piece) :
    (ps.foldl Piece.into qs).length = qs.length + ps.countP (·.fate = .own) := by
  have hmodify : ∀ (f : Piece → Piece) (qs : List Piece), (qs.modifyLast f).length = qs.length := by
    intro f qs
    rcases List.eq_nil_or_concat qs with rfl | ⟨init, q, rfl⟩
    · rfl
    · simp [List.modifyLast_concat]
  induction ps generalizing qs with
  | nil => simp
  | cons p ps ih =>
    rw [List.foldl_cons, ih, List.countP_cons]
    cases hp : p.fate <;> simp [Piece.into, hp, hmodify]
    omega

theorem forall₂_append {rs : List RawSite} (h : List.Forall₂ StandsFor qs rs) {r : RawSite}
    (hr : StandsFor p r) : List.Forall₂ StandsFor (qs ++ [p]) (rs ++ [r]) :=
  List.rel_append h (.cons hr .nil)

theorem forall₂_modifyLast {rs : List RawSite} {r : RawSite}
    (h : List.Forall₂ StandsFor qs (rs ++ [r])) (s : String) :
    List.Forall₂ StandsFor (qs.modifyLast fun q => { q with markup := q.markup ++ s })
      (rs ++ [{ r with markup := r.markup ++ s }]) := by
  rcases List.eq_nil_or_concat qs with rfl | ⟨init, q, rfl⟩
  · simpa using h.length_eq
  · rw [List.concat_eq_append] at h ⊢
    have hlength : rs.length = init.length := by simpa using h.length_eq.symm
    have hinit := List.forall₂_take_append _ _ _ h
    have hlast := List.forall₂_drop_append _ _ _ h
    rw [hlength, List.take_left] at hinit
    rw [hlength, List.drop_left] at hlast
    obtain ⟨hq, -⟩ := List.forall₂_cons.mp hlast
    rw [List.modifyLast_concat]
    exact forall₂_append hinit ⟨congrArg (· ++ s) hq.markup, hq.line⟩

end Gathering

/-- What the builder goes through brings the pieces into its tree. -/
structure Gains (ps : List Piece) (b c : Builder) : Prop where
  ready : b.Ready → c.Ready
  raws : ∀ qs, List.Forall₂ StandsFor qs b.raws →
    List.Forall₂ StandsFor (ps.foldl Piece.into qs) c.raws

section Runs

variable {ps qs : List Piece} {b c d : Builder}

theorem Gains.trans (h : Gains ps b c) (h' : Gains qs c d) : Gains (ps ++ qs) b d where
  ready := h'.ready ∘ h.ready
  raws rs hrs := by
    rw [List.foldl_append]
    exact h'.raws _ (h.raws rs hrs)

theorem gains_of_quiet (h : Quiet b c) : Gains [] b c :=
  ⟨h.ready, fun _ hqs => h.raws ▸ hqs⟩

end Runs

namespace Nest

open Builder

variable {tag : Tag} {content rest : Nest} {pl : Place} {b c : Builder} {ps : List Piece}

theorem gains_event {e : Event} (hs : ∀ tag, e ≠ .enter tag) (hl : ∀ kind, e ≠ .leave kind)
    (hb : b.Ready) : Gains (eventPieces e) b (b.push e) ∧
      (b.push e).endsInMarkup = (isMarkup e || b.endsInMarkup && isNothing e) := by
  rw [push_of_element hb.kind]
  have hraw : ∀ s, Gains [⟨false, .own, s⟩] b (b.append (.raw s)) ∧
      (b.append (.raw s)).endsInMarkup = true := by
    intro s
    have happend : b.append (.raw s) = b.mapChildren (· ++ [.raw s]) := by
      simp [append, isBlock, hb.outside]
    rw [happend]
    refine ⟨⟨fun h => h.congr rfl rfl, fun qs hqs => ?_⟩, by simp [endsInMarkup, mapChildren]⟩
    rw [raws_mapChildren_concat]
    exact forall₂_append hqs ⟨rfl, fun h => absurd h Bool.false_ne_true⟩
  by_cases hm : isMarkup e = true
  · cases e with
    | html s =>
      have hpush : b.pushElementEvent (.html s) = b.append (.raw s) := by
        simp [pushElementEvent, pushHtml, hb.outside]
      rw [hpush]
      exact hraw s
    | inlineHtml s => exact hraw s
    | _ => cases hm
  · obtain ⟨hq, hend⟩ := quiet_event hs hl (Bool.eq_false_iff.mpr hm) b
    have hnone : eventPieces e = [] := by
      cases e with
      | html s | inlineHtml s => exact absurd rfl hm
      | _ => rfl
    rw [hnone, hend, Bool.eq_false_iff.mpr hm]
    exact ⟨gains_of_quiet hq, rfl⟩

theorem build_lines {n : Nest} (h : n.isLines = true) (hk : b.top.kind = .element)
    (hin : b.inHtmlBlock = true) {init : List Node} {s : String}
    (hc : b.top.element.children = init ++ [.raw s]) :
    n.build b = b.mapChildren fun _ => init ++ [.raw (s ++ n.markup)] := by
  induction n generalizing b s with
  | done =>
    have hempty : done.markup = "" := rfl
    rw [hempty, String.append_empty, ← hc]
    rfl
  | event e rest ih =>
    cases e with
    | html t =>
      have hp : b.push (.html t) = b.mapChildren fun _ => init ++ [.raw (s ++ t)] := by
        rw [push_of_element hk]
        simp [pushElementEvent, pushHtml, hin, hc, mapChildren]
      rw [build_event, hp, markup, ← String.append_assoc]
      exact ih (b := b.mapChildren fun _ => init ++ [.raw (s ++ t)]) h hk hin rfl
    | _ => cases h
  | span tag content rest => cases h

/-- A block that is not right behind markup gets a line and a node for itself. -/
theorem build_block (h : rest.isLines = true) (hk : b.top.kind = .element)
    (hin : b.inHtmlBlock = true) (he : b.endsInMarkup = false) (s : String) :
    (event (.html s) rest).build b =
      b.breakLine.mapChildren (· ++ [.raw (s ++ rest.markup)]) := by
  have hp : b.push (.html s) = b.breakLine.mapChildren (· ++ [.raw s]) := by
    have happend : b.append (.raw s) = b.breakLine.mapChildren (· ++ [.raw s]) := by
      simp [append, isBlock, hin]
    rw [push_of_element hk, pushElementEvent, pushHtml, ← happend]
    split
    · rename_i t _ ht
      rw [endsInMarkup, ht] at he
      cases he
    · rfl
  rw [build_event, hp]
  exact build_lines (b := b.breakLine.mapChildren (· ++ [.raw s])) h
    ((grown_breakLine b).kind.trans hk) ((inHtmlBlock_breakLine b).trans hin) rfl

theorem buildSpan_htmlBlock (hb : b.Ready)
    (hk : (content.build { b with inHtmlBlock := true }).top.kind = .element) :
    content.buildSpan .htmlBlock b =
      { content.build { b with inHtmlBlock := true } with inHtmlBlock := false } :=
  buildSpan_of_element hb.kind hk

theorem gains_block_behind (hb : b.Ready) (hl : content.isLines = true)
    (he : b.endsInMarkup = true) :
    Gains [⟨true, .joined, content.markup⟩] b (content.buildSpan .htmlBlock b) ∧
      (content.buildSpan .htmlBlock b).endsInMarkup = true := by
  obtain ⟨init, s, hc⟩ : ∃ init s, b.top.element.children = init ++ [.raw s] := by
    unfold endsInMarkup at he
    split at he
    · rename_i s hs
      obtain ⟨init, hinit⟩ := List.getLast?_eq_some_iff.mp hs
      exact ⟨init, s, hinit⟩
    · cases he
  have hbuild := build_lines (b := { b with inHtmlBlock := true }) hl hb.kind rfl hc
  rw [buildSpan_htmlBlock hb (by rw [hbuild]; exact hb.kind), hbuild]
  refine ⟨⟨fun h => h.congr rfl h.outside.symm, fun qs hqs => ?_⟩,
    by simp [endsInMarkup, mapChildren]⟩
  rw [raws_of_children hc] at hqs
  rw [raws_of_children (l := init) rfl]
  exact forall₂_modifyLast hqs content.markup

theorem gains_block_fresh (hb : b.Ready) (hl : content.isLines = true)
    (hne : content.events.isEmpty = false) (he : b.endsInMarkup = false) :
    Gains [⟨true, .own, content.markup⟩] b (content.buildSpan .htmlBlock b) ∧
      (content.buildSpan .htmlBlock b).endsInMarkup = true := by
  obtain ⟨s, lines, rfl, hlines⟩ : ∃ s lines, content = event (.html s) lines ∧
      lines.isLines = true := by
    cases content with
    | done => cases hne
    | event e lines =>
      cases e with
      | html s => exact ⟨s, lines, rfl, hl⟩
      | _ => cases hl
    | span tag content rest => cases hl
  have hbuild := build_block (b := { b with inHtmlBlock := true }) hlines hb.kind rfl he s
  have hgrown := grown_breakLine { b with inHtmlBlock := true }
  rw [buildSpan_htmlBlock hb (by rw [hbuild]; exact hgrown.kind.trans hb.kind), hbuild]
  refine ⟨⟨fun h => h.congr ?_ h.outside.symm, fun qs hqs => ?_⟩,
    by simp [endsInMarkup, mapChildren]⟩
  · simp [mapChildren, hgrown.kind, hgrown.below]
  · have hraws := raws_mapChildren_concat { b with inHtmlBlock := true }.breakLine
      (.raw (s ++ lines.markup))
    rw [(quiet_breakLine _).raws] at hraws
    refine hraws ▸ forall₂_append hqs ⟨rfl, fun _ n hn => ?_⟩
    exact getLast?_breakLine hn

theorem gains_htmlBlock (hb : b.Ready) (hl : content.isLines = true)
    (hne : content.events.isEmpty = false) :
    Gains [⟨true, blockFate false b.endsInMarkup, content.markup⟩] b
      (content.buildSpan .htmlBlock b) ∧
    (content.buildSpan .htmlBlock b).endsInMarkup = true := by
  cases he : b.endsInMarkup with
  | true => exact gains_block_behind hb hl he
  | false => exact gains_block_fresh hb hl hne he

theorem gains_image (hf : content.fits pl = true) (hb : b.Ready) (url title : String) :
    Gains (content.pieces true false) b (content.buildSpan (.image url title) b) ∧
      (content.buildSpan (.image url title) b).endsInMarkup = false := by
  obtain ⟨p, he⟩ := imageElement_eq url title content.alt
  have hquiet : Quiet b (b.append (imageElement url title content.alt).toNode) :=
    quiet_append (by rw [he]; rfl)
  rw [buildSpan_image hf hb.kind]
  refine ⟨⟨hquiet.ready, fun qs hqs => ?_⟩, endsInMarkup_append _ _ _ _⟩
  rw [foldl_into_dropped fun p hp => fate_of_mem_imagePieces hp]
  exact (gains_of_quiet hquiet).raws qs hqs

theorem build_below_length (h : content.fits pl = true) (hpl : pl = .flow ∨ pl = .cell ∨ pl = .row)
    (hb : b.top.kind = .element) : (content.build b).below.length = b.below.length := by
  have hdoes := does_of_fits h
  rcases hpl with rfl | rfl | rfl
  · exact (hdoes false b hb).1.below_length
  · exact (hdoes false b hb).1.below_length
  · exact (hdoes b hb).1.below_length

theorem inside?_place {kind : TagKind} {inner next : Place}
    (hi : pl.inside? kind = some (inner, next)) (ht : kind ≠ .table) (hm : kind ≠ .metadata) :
    inner = .flow ∨ inner = .cell ∨ inner = .row := by
  cases pl <;> cases kind <;> simp_all [Place.inside?, standsAnywhere]

/-- The end of a part puts its element last, so no markup is right before what follows. -/
theorem endsInMarkup_end (h : (span tag content rest).fits pl = true)
    (ht : isElement tag.kind = true) (hb : b.Ready) :
    ((content.build (b.enter tag)).leave tag.kind).endsInMarkup = false := by
  obtain ⟨inner, next, hi, hfc, -⟩ := inside?_of_fits h
  obtain ⟨⟨-, hready⟩, -, hdepth⟩ := opens_enter b ht
  have hk := (hready hb).kind
  by_cases htable : tag.kind = .table
  · cases tag with
    | table alignments =>
      have hinner : inner = .table := by
        cases pl <;> cases hi
        rfl
      subst hinner
      obtain ⟨-, hgrown⟩ := does_of_fits hfc false (b.enter (.table alignments)) rfl rfl
      refine endsInMarkup_leave_table ?_
      rw [hgrown.below_length]
      exact Nat.succ_pos _
    | fencedCode | indentedCode => cases htable
    | _ => cases htable
  · have hmeta : tag.kind ≠ .metadata := by
      intro hm
      rw [hm] at ht
      cases ht
    refine endsInMarkup_leave ht htable ?_
    rw [build_below_length hfc (inside?_place hi htable hmeta) hk]
    exact hdepth

theorem pieces_span (ht : isElement tag.kind = true) (inImage behind : Bool) :
    (span tag content rest).pieces inImage behind =
      content.pieces inImage false ++ rest.pieces inImage false := by
  cases tag with
  | htmlBlock | image | metadata => cases ht
  | _ => rfl

theorem plainHtml_span (ht : isElement tag.kind = true) :
    (span tag content rest).plainHtml = (content.plainHtml && rest.plainHtml) := by
  cases tag with
  | htmlBlock => cases ht
  | _ => rfl

theorem gains_element (h : (span tag content rest).fits pl = true)
    (ht : isElement tag.kind = true) (hb : b.Ready)
    (hc : ∀ {c : Builder}, c.Ready →
      Gains (content.pieces false c.endsInMarkup) c (content.build c)) :
    Gains (content.pieces false false) b (content.buildSpan tag b) ∧
      (content.buildSpan tag b).endsInMarkup = false := by
  have hopens := opens_enter b ht
  have hcontent := hc (hopens.ready hb)
  rw [hopens.endsInMarkup] at hcontent
  have hk := (hcontent.ready (hopens.ready hb)).kind
  rw [buildSpan_of_element hb.kind hk]
  refine ⟨?_, endsInMarkup_end h ht hb⟩
  have hall := ((gains_of_quiet hopens.toQuiet).trans hcontent).trans
    (gains_of_quiet (quiet_leave _ ht))
  simpa using hall

theorem gains_of_fits {n : Nest} (h : n.fits pl = true) (hp : n.plainHtml = true) (hb : b.Ready) :
    Gains (n.pieces false b.endsInMarkup) b (n.build b) := by
  -- By induction on the stretch; a part needs its place only for the end of its element.
  induction n generalizing pl b with
  | done => exact gains_of_quiet (.refl b)
  | event e rest ih =>
    rw [fits, Bool.and_eq_true] at h
    obtain ⟨hs, hl⟩ := not_enter_leave_of_admits h.1
    obtain ⟨hg, hend⟩ := gains_event hs hl hb
    rw [build_event]
    have hrest := ih h.2 hp (hg.ready hb)
    rw [hend] at hrest
    exact hg.trans hrest
  | span tag content rest ihc ihr =>
    obtain ⟨inner, next, hi, hfc, hfr⟩ := inside?_of_fits h
    -- What is left is what the part itself brings, and what stands right before the rest.
    have hstep : ∀ {ps : List Piece} {behind : Bool}, rest.plainHtml = true →
        Gains ps b (content.buildSpan tag b) ∧
          (content.buildSpan tag b).endsInMarkup = behind →
        Gains (ps ++ rest.pieces false behind) b (rest.build (content.buildSpan tag b)) := by
      rintro ps behind hpr ⟨hg, rfl⟩
      exact hg.trans (ihr hfr hpr (hg.ready hb))
    rw [build_span]
    by_cases ht : isElement tag.kind = true
    · rw [plainHtml_span ht, Bool.and_eq_true] at hp
      rw [pieces_span ht]
      exact hstep hp.2 (gains_element h ht hb (ihc hfc hp.1))
    · cases tag with
      | htmlBlock =>
        obtain ⟨⟨hl, hne⟩, hpr⟩ := by
          simpa only [plainHtml, Bool.and_eq_true, Bool.not_eq_true'] using hp
        exact hstep hpr (gains_htmlBlock hb hl hne)
      | image url title =>
        exact hstep (Bool.and_eq_true .. ▸ hp).2 (gains_image hfc hb url title)
      | metadata =>
        have hmeta : inner = .metadata := by
          cases pl <;> cases hi <;> rfl
        subst hmeta
        have hnone : Gains [] b (content.buildSpan .metadata b) ∧
            (content.buildSpan .metadata b).endsInMarkup = b.endsInMarkup := by
          rw [buildSpan_metadata hfc hb.kind]
          exact ⟨gains_of_quiet (.refl b), rfl⟩
        exact hstep (Bool.and_eq_true .. ▸ hp).2 hnone
      | _ => exact absurd rfl ht

/-- The nodes of markup in a document are the gathered pieces, in their order. So every HTML block
has a node of its own, on a line of its own, exactly if none stands right behind other markup and
none is inside an image. -/
theorem htmlBlocks_kept_iff {n : Nest} (hf : n.fits .flow = true) (hp : n.plainHtml = true) :
    List.Forall₂ StandsFor (gathered (n.pieces false false)) (raws none (buildTree n.events)) ∧
    (List.Forall₂ StandsFor (n.pieces false false) (raws none (buildTree n.events)) ↔
      ∀ p ∈ n.pieces false false, p.fate = .own) := by
  have hready : Ready {} := ⟨by simp, rfl⟩
  have hall : List.Forall₂ StandsFor (gathered (n.pieces false false))
      (raws none (buildTree n.events)) := by
    have hbuilt := (gains_of_fits hf hp hready).raws [] .nil
    have hbelow : (n.build {}).below = [] :=
      List.eq_nil_of_length_eq_zero (build_below_length hf (.inl rfl) rfl)
    have hraws : (n.build {}).raws = Folio.raws none (buildTree n.events) := by
      show _ = Folio.raws none (n.build {}).finish
      rw [Builder.raws, finish, hbelow]
      rfl
    rw [hraws] at hbuilt
    exact hbuilt
  refine ⟨hall, fun h p hp => ?_, fun h => ?_⟩
  · -- A piece without a node of its own would leave fewer nodes than pieces.
    have hlength : (n.pieces false false).countP (·.fate = .own) =
        (n.pieces false false).length := by
      rw [h.length_eq, ← hall.length_eq, gathered, length_foldl_into]
      simp
    simpa using List.countP_eq_length.mp hlength p hp
  · have hsame : gathered (n.pieces false false) = n.pieces false false := by
      rw [gathered, foldl_into_own h]
      rfl
    rw [hsame] at hall
    exact hall

/-- A block inside a quote, behind a paragraph, and one behind the quote. -/
def quotedBlock : Nest :=
  .span .blockquote
    (.span .paragraph (.event (.text "a") .done)
      (.span .htmlBlock (.event (.html "<b>\n") .done) .done))
    (.span .htmlBlock (.event (.html "<c>\n") (.event (.html "<d>\n") .done)) .done)

theorem htmlBlocks_kept_quotedBlock :
    quotedBlock.fits .flow = true ∧ quotedBlock.plainHtml = true ∧
    List.Forall₂ StandsFor [⟨true, .own, "<b>\n"⟩, ⟨true, .own, "<c>\n<d>\n"⟩]
      (raws none (buildTree quotedBlock.events)) := by
  have hf : quotedBlock.fits .flow = true := by decide
  have hp : quotedBlock.plainHtml = true := by decide
  exact ⟨hf, hp, (htmlBlocks_kept_iff hf hp).2.mpr (by decide)⟩

/-- Two blocks with nothing but empty lines between them. -/
def twoBlocks : Nest :=
  .span .htmlBlock (.event (.html "<div>\n") (.event (.html "</div>\n") .done))
    (.span .htmlBlock (.event (.html "<p>\n") .done) .done)

theorem twoBlocks_share_node :
    twoBlocks.fits .flow = true ∧ twoBlocks.plainHtml = true ∧
    twoBlocks.pieces false false =
      [⟨true, .own, "<div>\n</div>\n"⟩, ⟨true, .joined, "<p>\n"⟩] ∧
    raws none (buildTree twoBlocks.events) = [⟨none, "<div>\n</div>\n<p>\n"⟩] ∧
    ¬ List.Forall₂ StandsFor (twoBlocks.pieces false false)
      (raws none (buildTree twoBlocks.events)) :=
  ⟨by decide, by decide, by decide, rfl, fun h => absurd h.length_eq (by decide)⟩

end Nest

end Folio
