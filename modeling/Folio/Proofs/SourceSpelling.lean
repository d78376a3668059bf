import Folio.Proofs.ImageFolding

/-! Spellings of image sources. Whatever characters of a source are percent-encoded, the source that
is recorded is the same. -/

namespace Folio.Image

open Text (Resolves Spelled)

/-- The elements have the same source, or two spellings of one. -/
def SameSource (a b : Element) : Prop :=
  a.properties.getText? "src" = b.properties.getText? "src" ∨
    ∃ source x y : String, a.properties.getText? "src" = some x ∧
      b.properties.getText? "src" = some y ∧
      Spelled source.toList x.toList ∧ Spelled source.toList y.toList

theorem SameSource.decoded_eq {a b : Element} (h : SameSource a b) :
    (a.properties.getText? "src").map decodeSource =
      (b.properties.getText? "src").map decodeSource := by
  rcases h with h | ⟨source, x, y, hx, hy, hsx, hsy⟩
  · rw [h]
  · have hdx : decodeSource x = source := Text.percentDecode_of_spelled hsx
    have hdy : decodeSource y = source := Text.percentDecode_of_spelled hsy
    rw [hx, hy, Option.map_some, Option.map_some, hdx, hdy]

theorem decodeSource_eq_empty_iff {src : String} : decodeSource src = "" ↔ src = "" := by
  constructor
  · exact Text.eq_empty_of_percentDecode
  · rintro rfl
    decide +kernel

/-- The first pass looks at nothing of an image but its decoded source. -/
theorem collectVisitor_state {policy : Policy} {m : Metadata} {e : Element}
    (hk : isImage e.tag = true) :
    (collectVisitor policy m e).1 =
      ((e.properties.getText? "src").map decodeSource).elim m fun source =>
        if source = "" then m else recordSource policy m source := by
  have htag : e.tag = "img" := by simpa [isImage] using hk
  rw [collectVisitor, if_pos htag]
  cases hs : e.properties.getText? "src" with
  | none => rfl
  | some src => simp only [Option.map_some, Option.elim_some, decodeSource_eq_empty_iff]

theorem stateAfter_of_sameSource (policy : Policy) {es ds : List Element}
    (h : List.Forall₂ SameSource es ds) (he : ∀ e ∈ es, isImage e.tag = true)
    (hd : ∀ d ∈ ds, isImage d.tag = true) (m : Metadata) :
    stateAfter (skipped (collectVisitor policy)) m es =
      stateAfter (skipped (collectVisitor policy)) m ds := by
  induction h generalizing m with
  | nil => rfl
  | @cons e d es ds hsame _ ih =>
    obtain ⟨hke, hes⟩ := List.forall_mem_cons.mp he
    obtain ⟨hkd, hds⟩ := List.forall_mem_cons.mp hd
    have hone : (collectVisitor policy m e).1 = (collectVisitor policy m d).1 := by
      rw [collectVisitor_state hke, collectVisitor_state hkd, hsame.decoded_eq]
    have hrest := ih hes hds (collectVisitor policy m e).1
    calc stateAfter (skipped (collectVisitor policy)) m (e :: es)
        = stateAfter (skipped (collectVisitor policy)) (collectVisitor policy m e).1 es := rfl
      _ = stateAfter (skipped (collectVisitor policy)) (collectVisitor policy m d).1 ds := by
        rw [hrest, hone]
      _ = stateAfter (skipped (collectVisitor policy)) m (d :: ds) := rfl

/-- Decoding gives the source that any spelling spells. Bytes are resolved in one way only, and a
source whose bytes resolve to no UTF-8 stays as it is. So images that stand in no other image may have
their sources respelled and the first pass records the same. -/
theorem decodeSource_undoes_escapes :
    (∀ s e : String, Spelled s.toList e.toList → decodeSource e = s) ∧
    (∀ s : String, ∃ bytes, (∀ t, Resolves s.toByteArray.toList t ↔ t = bytes) ∧
      (∀ t : String, t.toByteArray.toList = bytes → decodeSource s = t) ∧
      (¬ bytes.toByteArray.IsValidUTF8 → decodeSource s = s)) ∧
    ∀ (policy : Policy) (m : Metadata) (ns ns' : List Node),
      List.Forall₂ SameSource (outermost isImage ns) (outermost isImage ns') →
        ∃ m', (collect policy).Yields ⟨ns, m⟩ ⟨ns, m'⟩ ∧
          (collect policy).Yields ⟨ns', m⟩ ⟨ns', m'⟩ := by
  refine ⟨fun s e h => Text.percentDecode_of_spelled h, fun s => ?_, fun policy m ns ns' h => ?_⟩
  · refine ⟨Text.percentBytes s.toByteArray.toList, fun t => ?_, fun t h => ?_, fun h => ?_⟩
    · constructor
      · exact Resolves.eq_percentBytes
      · rintro rfl
        exact Text.resolves_percentBytes _
    · exact Text.percentDecode_of_valid h.symm
    · exact Text.percentDecode_of_not_valid h
  · have hy := collect_yields_stateAfter policy ⟨ns, m⟩
    have hy' := collect_yields_stateAfter policy ⟨ns', m⟩
    have hsame := stateAfter_of_sameSource policy h (fun _ => kind_of_mem_outermost)
      (fun _ => kind_of_mem_outermost) m
    rw [← hsame] at hy'
    exact ⟨_, hy, hy'⟩

/-- One source, once with its percent sign escaped and once with a letter outside of ASCII, a blank
and a plain letter too. -/
def plainSpelling : List Node :=
  [.element "p" {} [.element "img" ⟨[("src", .text "é 5%25")]⟩ []]]

def denseSpelling : List Node :=
  [.element "img" ⟨[("alt", .text "g"), ("src", .text "%c3%A9%20%35%25")]⟩ []]

theorem spelled_plainly : Spelled "é 5%".toList "é 5%25".toList :=
  .plain (by decide) <| .plain (by decide) <| .plain (by decide) <|
    @Spelled.escaped '%' [] [] [('2', '5')] (by decide) .nil

theorem spelled_densely : Spelled "é 5%".toList "%c3%A9%20%35%25".toList :=
  @Spelled.escaped 'é' [' ', '5', '%'] "%20%35%25".toList [('c', '3'), ('A', '9')] (by decide) <|
    @Spelled.escaped ' ' ['5', '%'] "%35%25".toList [('2', '0')] (by decide) <|
    @Spelled.escaped '5' ['%'] "%25".toList [('3', '5')] (by decide) <|
    @Spelled.escaped '%' [] [] [('2', '5')] (by decide) .nil

theorem decodeSource_undoes_escapes_twice :
    Spelled "é 5%".toList "%c3%A9%20%35%25".toList ∧ decodeSource "%c3%A9%20%35%25" = "é 5%" ∧
      ¬ ([255, 37, 50] : List UInt8).toByteArray.IsValidUTF8 ∧ decodeSource "%ff%2" = "%ff%2" ∧
      List.Forall₂ SameSource (outermost isImage plainSpelling) (outermost isImage denseSpelling) ∧
      ∃ m', (collect {}).Yields ⟨plainSpelling, {}⟩ ⟨plainSpelling, m'⟩ ∧
        (collect {}).Yields ⟨denseSpelling, {}⟩ ⟨denseSpelling, m'⟩ := by
  have hinvalid : ¬ ([255, 37, 50] : List UInt8).toByteArray.IsValidUTF8 := by decide +kernel
  have hsame : List.Forall₂ SameSource (outermost isImage plainSpelling)
      (outermost isImage denseSpelling) :=
    .cons (.inr ⟨_, _, _, rfl, rfl, spelled_plainly, spelled_densely⟩) .nil
  have hkept : decodeSource "%ff%2" = "%ff%2" := by
    obtain ⟨bytes, hunique, -, hkept⟩ := decodeSource_undoes_escapes.2.1 "%ff%2"
    have hbytes : [255, 37, 50] = bytes := by
      rw [← (hunique _).mp (Text.resolves_percentBytes _)]
      decide +kernel
    exact hkept (hbytes ▸ hinvalid)
  exact ⟨spelled_densely, decodeSource_undoes_escapes.1 _ _ spelled_densely, hinvalid, hkept, hsame,
    decodeSource_undoes_escapes.2.2 {} {} _ _ hsame⟩

end Folio.Image
