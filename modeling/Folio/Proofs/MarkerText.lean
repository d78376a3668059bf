import Folio.Callout.Marker
import Folio.Callout.Theme
import Folio.Proofs.LowerCase
import Folio.Proofs.Runs
import Folio.Proofs.Search

/-! Reading a marker. The kind it yields is a text that could itself stand in a marker and is read
back from there unchanged; the title it yields is shorter than the text it was read from. -/

namespace Folio.Callout

theorem isKindChar_lt {c : Char} (h : isKindChar c) : c.toNat < 128 := by
  simp only [isKindChar, Bool.or_eq_true, Bool.and_eq_true, decide_eq_true_eq, Char.le_def,
    UInt32.le_iff_toNat_le] at h
  have hc : c.toNat = c.val.toNat := rfl
  have hz : 'z'.val.toNat = 122 := rfl
  have hZ : 'Z'.val.toNat = 90 := rfl
  have h9 : '9'.val.toNat = 57 := rfl
  rcases h with ((h | h) | h) | rfl
  · omega
  · omega
  · omega
  · decide

theorem isKindChar_toLower {c : Char} (h : isKindChar c) : isKindChar c.toLower :=
  (CaseBlind.of_ascii (by decide) c).trans h

theorem lowerAfter_of_isKindChar {s : List Char} (h : ∀ c ∈ s, isKindChar c)
    (before : List Char) : Text.lowerAfter before s = s.map Char.toLower := by
  induction s generalizing before with
  | nil => rfl
  | cons c s ih =>
    have hc := isKindChar_lt (h c List.mem_cons_self)
    have hs : c ≠ 'Σ' := by
      rintro rfl
      exact absurd hc (by decide)
    simp [Text.lowerAfter, Text.lowerChar, hs, hc, ih fun d hd => h d (List.mem_cons_of_mem c hd)]

/-- What a marker can yield as a kind: lower-case letters, digits and underscores. -/
def IsKind (kind : String) : Prop :=
  kind ≠ "" ∧ (∀ c ∈ kind.toList, isKindChar c) ∧ Text.lower kind.toList = kind.toList

theorem foldSign_length_le (s : List Char) : (foldSign s).2.length ≤ s.length := by
  unfold foldSign
  split <;> simp

theorem marker?_eq_some {known : String → Bool} {text : String} {m : Marker}
    (h : marker? known text = some m) :
    ∃ s r, Text.trimLeft text.toList = '[' :: '!' :: s ∧ s.dropWhile isKindChar = ']' :: r ∧
      m.kind = .ofList (Text.lower (s.takeWhile isKindChar)) ∧ m.kind ≠ "" ∧
      known m.kind = true ∧
      m.title = .ofList (((foldSign r).2.dropWhile fun c => c = ' ' || c = '\t').takeWhile
        (· ≠ '\n')) := by
  simp only [marker?, Option.bind_eq_bind, Option.bind_eq_some_iff] at h
  obtain ⟨s, hs, r, hr, hm⟩ := h
  split at hm
  · rename_i hk
    obtain rfl := Option.some.inj hm
    exact ⟨s, r, eq_append_of_dropPrefix? hs, eq_append_of_dropPrefix? hr, rfl, hk.1, hk.2, rfl⟩
  · simp at hm

theorem known_of_marker? {known : String → Bool} {text : String} {m : Marker}
    (h : marker? known text = some m) : known m.kind = true := by
  obtain ⟨s, r, -, -, -, -, hk, -⟩ := marker?_eq_some h
  exact hk

theorem isKind_of_marker? {known : String → Bool} {text : String} {m : Marker}
    (h : marker? known text = some m) : IsKind m.kind := by
  obtain ⟨s, r, -, -, hk, hne, -, -⟩ := marker?_eq_some h
  have hall : ∀ c ∈ s.takeWhile isKindChar, isKindChar c := fun c hc => List.mem_takeWhile_imp hc
  have hl : m.kind.toList = (s.takeWhile isKindChar).map Char.toLower := by
    rw [hk, String.toList_ofList]
    exact lowerAfter_of_isKindChar hall []
  have hlow : ∀ c ∈ m.kind.toList, isKindChar c := by
    intro c hc
    rw [hl] at hc
    obtain ⟨d, hd, rfl⟩ := List.mem_map.mp hc
    exact isKindChar_toLower (hall d hd)
  refine ⟨hne, hlow, (lowerAfter_of_isKindChar hlow []).trans ?_⟩
  rw [hl]
  exact map_toLower_map_toLower _

theorem title_length_lt_of_marker? {known : String → Bool} {text : String} {m : Marker}
    (h : marker? known text = some m) : m.title.toList.length < text.toList.length := by
  obtain ⟨s, r, hs, hr, -, -, -, ht⟩ := marker?_eq_some h
  have h₁ : (Text.trimLeft text.toList).length ≤ text.toList.length :=
    (List.dropWhile_sublist _).length_le
  have h₂ : (s.dropWhile isKindChar).length ≤ s.length := (List.dropWhile_sublist _).length_le
  have h₃ := foldSign_length_le r
  have h₄ : m.title.toList.length ≤ (foldSign r).2.length := by
    rw [ht, String.toList_ofList]
    exact ((List.takeWhile_sublist _).trans (List.dropWhile_sublist _)).length_le
  rw [hs] at h₁
  rw [hr] at h₂
  simp only [List.length_cons] at h₁ h₂
  omega

/-- What can be written for a kind in a marker, in any case. -/
def IsWrittenKind (kind : String) : Prop :=
  kind ≠ "" ∧ ∀ c ∈ kind.toList, isKindChar c

def markedText (blanks : List Char) (kind : String) (rest : List Char) : String :=
  .ofList (blanks ++ '[' :: '!' :: (kind.toList ++ ']' :: rest))

def titleText (rest : List Char) : String :=
  .ofList (((foldSign rest).2.dropWhile fun c => c = ' ' || c = '\t').takeWhile (· ≠ '\n'))

theorem exists_markedText_of_marker? {known : String → Bool} {text : String} {m : Marker}
    (h : marker? known text = some m) :
    ∃ blanks kind rest, (∀ c ∈ blanks, Text.isBlank c = true) ∧ IsWrittenKind kind ∧
      text = markedText blanks kind rest := by
  obtain ⟨s, r, hs, hr, hkind, hne, -, -⟩ := marker?_eq_some h
  have hall : ∀ c ∈ s.takeWhile isKindChar, isKindChar c = true :=
    fun c hc => List.mem_takeWhile_imp hc
  have hwritten : s.takeWhile isKindChar ≠ [] := by
    intro hempty
    rw [hempty] at hkind
    exact hne hkind
  refine ⟨text.toList.takeWhile Text.isBlank, .ofList (s.takeWhile isKindChar), r,
    fun c hc => List.mem_takeWhile_imp hc, ⟨?_, ?_⟩, ?_⟩
  · exact fun he => hwritten (String.ofList_eq_empty_iff.mp he)
  · rwa [String.toList_ofList]
  · rw [markedText, String.toList_ofList, ← hr, List.takeWhile_append_dropWhile, ← hs,
      Text.trimLeft, List.takeWhile_append_dropWhile, String.ofList_toList]

theorem toList_lowerCase {kind : String} (h : IsWrittenKind kind) :
    (lowerCase kind).toList = kind.toList.map Char.toLower := by
  rw [lowerCase, String.toList_ofList]
  exact lowerAfter_of_isKindChar h.2 []

theorem lowerCase_ne_empty {kind : String} (h : IsWrittenKind kind) : lowerCase kind ≠ "" := by
  intro he
  have hl := toList_lowerCase h
  rw [he] at hl
  have hnil : kind.toList = [] := List.map_eq_nil_iff.mp hl.symm
  exact h.1 (String.toList_eq_nil_iff.mp hnil)

/-- A marker is read from behind blanks, whatever follows it. -/
theorem marker?_markedText {known : String → Bool} {blanks : List Char} {kind : String}
    (hb : ∀ c ∈ blanks, Text.isBlank c) (h : IsWrittenKind kind) (rest : List Char) :
    marker? known (markedText blanks kind rest) =
      if known (lowerCase kind) then some ⟨lowerCase kind, (foldSign rest).1, titleText rest⟩
      else none := by
  have ht : Text.trimLeft (markedText blanks kind rest).toList =
      ['[', '!'] ++ (kind.toList ++ ([']'] ++ rest)) := by
    rw [markedText, String.toList_ofList, Text.trimLeft, List.dropWhile_append_of_pos hb]
    rfl
  obtain ⟨hkind, hbehind⟩ := span_append (b := [']'] ++ rest) h.2 (by simp [isKindChar])
  rw [marker?, ht, dropPrefix?_append]
  simp only [Option.bind_eq_bind, Option.bind_some, hkind, hbehind, dropPrefix?_append]
  rw [show String.ofList (Text.lower kind.toList) = lowerCase kind from rfl]
  by_cases hk : known (lowerCase kind) = true
  · rw [if_pos ⟨lowerCase_ne_empty h, hk⟩, if_pos hk]
    rfl
  · rw [if_neg fun hh => hk hh.2, if_neg hk]

def markerText (kind sign : String) : String :=
  "[!" ++ kind ++ "]" ++ sign

theorem marker?_markerText {known : String → Bool} {kind : String} (h : IsKind kind)
    (hk : known kind = true) {sign : String} (hs : sign = "" ∨ sign = "+") :
    marker? known (markerText kind sign) = some ⟨kind, (foldSign sign.toList).1, ""⟩ := by
  obtain ⟨hne, hall, hlow⟩ := h
  have hlower : lowerCase kind = kind := by
    rw [lowerCase, hlow, String.ofList_toList]
  have htext : markerText kind sign = markedText [] kind sign.toList := by
    rw [← String.toList_inj]
    simp [markerText, markedText]
  have hblanks : ∀ c ∈ ([] : List Char), Text.isBlank c := fun _ hc => absurd hc List.not_mem_nil
  rw [htext, marker?_markedText hblanks ⟨hne, hall⟩, hlower, if_pos hk]
  rcases hs with rfl | rfl
  · rfl
  · rfl

end Folio.Callout
