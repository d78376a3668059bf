import Folio.Proofs.LowerCase
import Folio.Proofs.UrlAuthority

/-! The case of the letters of a URL. It counts in the path and nowhere else. -/

namespace Folio

theorem Text.trim_map_toLower (s : List Char) :
    trim (s.map Char.toLower) = (trim s).map Char.toLower := by
  have hblank : CaseBlind isBlank := .of_ascii (by decide)
  simp only [trim, trimRight, trimLeft, dropRightWhile, hblank.dropWhile_map, ← List.map_reverse]

namespace Image

variable (s : List Char)

theorem scheme?_map_toLower :
    scheme? (s.map Char.toLower) =
      (scheme? s).map (Prod.map (List.map Char.toLower) (List.map Char.toLower)) := by
  have hchars : CaseBlind isSchemeChar := .of_ascii (by decide)
  have halpha : CaseBlind Char.isAlpha := .of_ascii (by decide)
  cases s with
  | nil => rfl
  | cons c l =>
    have htake := hchars.takeWhile_map (s := c :: l)
    have hdrop := hchars.dropWhile_map (s := c :: l)
    rw [List.map_cons] at htake hdrop ⊢
    rw [scheme?, scheme?, halpha c, htake, hdrop]
    cases c.isAlpha with
    | false => rfl
    | true =>
      cases (c :: l).dropWhile isSchemeChar with
      | nil => rfl
      | cons d r =>
        have hcolon : d.toLower = ':' ↔ d = ':' := toLower_eq_iff rfl
        by_cases hd : d = ':'
        · subst hd
          rfl
        · simp [hd, hcolon]

theorem dropUserInfo_map_toLower :
    dropUserInfo (s.map Char.toLower) = (dropUserInfo s).map Char.toLower := by
  have hstop : CaseBlind fun c => c ≠ '@' && c ≠ '/' && c ≠ '?' && c ≠ '#' :=
    .of_ascii (by decide)
  rw [dropUserInfo, dropUserInfo, hstop.dropWhile_map]
  cases s.dropWhile fun c => c ≠ '@' && c ≠ '/' && c ≠ '?' && c ≠ '#' with
  | nil => rfl
  | cons c r =>
    have hat : c.toLower = '@' ↔ c = '@' := toLower_eq_iff rfl
    by_cases hc : c = '@'
    · subst hc
      rfl
    · simp [hc, hat]

theorem host_map_toLower :
    host (s.map Char.toLower) =
      Prod.map (List.map Char.toLower) (List.map Char.toLower) (host s) := by
  have hname : CaseBlind isHostChar := .of_ascii (by decide)
  have hplain := congrArg₂ Prod.mk (hname.takeWhile_map (s := s)) (hname.dropWhile_map (s := s))
  by_cases hs : ∃ l, s = '[' :: l
  · obtain ⟨l, rfl⟩ := hs
    have hinner : CaseBlind (· ≠ ']') := .of_ascii (by decide)
    have htake := hinner.takeWhile_map (s := l)
    have hdrop := hinner.dropWhile_map (s := l)
    have hbracket : ('[' :: l).map Char.toLower = '[' :: l.map Char.toLower := rfl
    rw [hbracket] at hplain ⊢
    rw [host, host, htake, hdrop]
    cases l.dropWhile (· ≠ ']') with
    | nil => exact hplain
    | cons c r =>
      simp only [List.map_cons, Prod.map_apply, List.map_append, List.map_nil]
      rfl
  · have hne : ∀ r, s ≠ '[' :: r := fun r hr => hs ⟨r, hr⟩
    have hne' : ∀ r, s.map Char.toLower ≠ '[' :: r := by
      intro r hr
      obtain ⟨c, l, rfl, hc, -⟩ := List.map_eq_cons_iff.mp hr
      exact hne l (by rw [(toLower_eq_iff rfl).mp hc])
    rw [host_of_ne_bracket hne, host_of_ne_bracket hne', hplain]
    rfl

theorem port_map_toLower :
    port (s.map Char.toLower) = Prod.map id (List.map Char.toLower) (port s) := by
  have hdigit : CaseBlind Char.isDigit := .of_ascii (by decide)
  cases s with
  | nil => rfl
  | cons c l =>
    have hcolon : c.toLower = ':' ↔ c = ':' := toLower_eq_iff rfl
    by_cases hc : c = ':'
    · subst hc
      have hdigits : (l.takeWhile Char.isDigit).map Char.toLower = l.takeWhile Char.isDigit := by
        refine (List.map_congr_left fun d hd => ?_).trans (List.map_id _)
        exact toLower_of_isDigit (List.mem_takeWhile_imp hd)
      exact congrArg₂ Prod.mk (hdigit.takeWhile_map.trans hdigits) hdigit.dropWhile_map
    · simp [port, hc, hcolon]

theorem authority_map_toLower :
    authority (s.map Char.toLower) =
      Prod.map (List.map Char.toLower) (Prod.map id (List.map Char.toLower)) (authority s) := by
  by_cases hs : ∃ l, s = '/' :: '/' :: l
  · obtain ⟨l, rfl⟩ := hs
    have hslashes : ('/' :: '/' :: l).map Char.toLower = '/' :: '/' :: l.map Char.toLower := rfl
    simp only [hslashes, authority, dropUserInfo_map_toLower, host_map_toLower, Prod.map_fst,
      Prod.map_snd, port_map_toLower]
    rfl
  · have hplain : ∀ t : List Char, (¬ ∃ l, t = '/' :: '/' :: l) → authority t = ([], [], t) := by
      intro t ht
      unfold authority
      split
      · rename_i l
        exact absurd ⟨l, rfl⟩ ht
      · rfl
    have hs' : ¬ ∃ l, s.map Char.toLower = '/' :: '/' :: l := by
      rintro ⟨l, hl⟩
      obtain ⟨c, t, rfl, hc, ht⟩ := List.map_eq_cons_iff.mp hl
      obtain ⟨d, r, rfl, hd, -⟩ := List.map_eq_cons_iff.mp ht
      exact hs ⟨r, by rw [(toLower_eq_iff rfl).mp hc, (toLower_eq_iff rfl).mp hd]⟩
    rw [hplain _ hs, hplain _ hs']
    rfl

/-- Reading a URL in lower case gives what reading it gives, with the path in lower case. -/
theorem parse?_map_toLower :
    Url.parse? (s.map Char.toLower) =
      (Url.parse? s).map fun url => { url with path := url.path.map Char.toLower } := by
  have htail : CaseBlind fun c => c ≠ '?' && c ≠ '#' := .of_ascii (by decide)
  rw [Url.parse?, Url.parse?, Text.trim_map_toLower, scheme?_map_toLower]
  cases scheme? (Text.trim s) with
  | none => rfl
  | some found =>
    obtain ⟨scheme, rest⟩ := found
    simp only [Option.map_some, Prod.map_apply, authority_map_toLower, map_toLower_map_toLower,
      htail.takeWhile_map, Prod.map_fst, Prod.map_snd, id, List.isEmpty_map]
    rw [apply_ite (List.map Char.toLower)]
    rfl

variable {s}

/-- Two texts that are the same but for case and have the same path are the same URL. -/
theorem parse?_eq_of_map_toLower_eq {t : List Char} (h : s.map Char.toLower = t.map Char.toLower)
    (hpath : (Url.parse? s).map Url.path = (Url.parse? t).map Url.path) :
    Url.parse? s = Url.parse? t := by
  have hlower := parse?_map_toLower s
  rw [h, parse?_map_toLower t] at hlower
  cases hs : Url.parse? s with
  | none =>
    cases ht : Url.parse? t with
    | none => rfl
    | some v =>
      rw [hs, ht] at hpath
      cases hpath
  | some u =>
    cases ht : Url.parse? t with
    | none =>
      rw [hs, ht] at hpath
      cases hpath
    | some v =>
      rw [hs, ht] at hpath hlower
      obtain ⟨scheme, host, port, path⟩ := u
      obtain ⟨scheme', host', port', path'⟩ := v
      simp only [Option.map_some, Option.some.injEq, Url.mk.injEq] at hpath hlower ⊢
      obtain ⟨rfl, rfl, rfl, -⟩ := hlower
      exact ⟨rfl, rfl, rfl, hpath⟩

/-- The host of a URL is in lower case however it is written. -/
theorem host_of_parse? {url : Url} (h : Url.parse? s = some url) :
    url.host.map Char.toLower = url.host := by
  rw [Url.parse?, Option.map_eq_some_iff] at h
  obtain ⟨found, -, rfl⟩ := h
  exact map_toLower_map_toLower _

end Image

end Folio
