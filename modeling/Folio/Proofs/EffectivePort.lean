import Folio.Proofs.Patterns
import Folio.Proofs.UrlParts

/-! Ports in patterns. A URL on the port that its scheme has by default counts as one without a
port, whether the port is written or not, and no pattern that asks for a port meets it. -/

namespace Folio.Image

namespace Site

variable {a : Site} {p t : List Char}

def withoutPort (a : Site) : Site :=
  { a with port := none, port_digits := by simp }

theorem effectivePort_withoutPort (a : Site) : a.withoutPort.effectivePort = [] :=
  ite_self []

theorem effectivePort_eq_iff (hp : a.port = some p) :
    p = a.effectivePort ↔ ¬ IsDefaultPort (a.scheme.map Char.toLower) p := by
  simp only [effectivePort, hp, Option.getD_some]
  split_ifs with hdefault
  · refine iff_of_false ?_ (not_not_intro hdefault)
    rintro rfl
    revert hdefault
    simp [IsDefaultPort]
  · exact iff_of_true rfl hdefault

theorem allows_port_iff (a : Site) (q : List Char) (ht : IsTail t) :
    ({ port := some (String.ofList q) } : RemotePattern).allows
        (String.ofList (a.text ++ t)) = true ↔
      q = [] ∨ q = a.effectivePort := by
  rw [RemotePattern.allows_iff, String.toList_ofList, a.parse?_text_append ht]
  simp [RemotePattern.accepts, partMatches, portMatches, url]

theorem allows_withoutPort (policy : Policy) (hp : a.port = some p)
    (hdefault : IsDefaultPort (a.scheme.map Char.toLower) p) (ht : IsTail t) :
    policy.allows (String.ofList (a.text ++ t)) =
      policy.allows (String.ofList (a.withoutPort.text ++ t)) := by
  have hport : a.effectivePort = [] := by
    rw [effectivePort, hp]
    exact if_pos hdefault
  rw [Policy.allows, Policy.allows, String.toList_ofList, String.toList_ofList,
    a.parse?_text_append ht, a.withoutPort.parse?_text_append ht, url, url, hport,
    effectivePort_withoutPort]
  rfl

end Site

/-- A pattern that asks for the port in a URL allows it, unless that is the port which the scheme
has by default; and where it is, writing it or leaving it out is all the same to every policy. -/
theorem RemotePattern.allows_effectivePort (a : Site) (p t : List Char) (hp : a.port = some p)
    (ht : IsTail t) :
    (({ port := some (String.ofList p) } : RemotePattern).allows
        (String.ofList (a.text ++ t)) = true ↔
      ¬ IsDefaultPort (a.scheme.map Char.toLower) p) ∧
    (IsDefaultPort (a.scheme.map Char.toLower) p → ∀ policy : Policy,
      policy.allows (String.ofList (a.text ++ t)) =
        policy.allows (String.ofList (a.withoutPort.text ++ t))) := by
  refine ⟨?_, fun hdefault policy => Site.allows_withoutPort policy hp hdefault ht⟩
  rw [a.allows_port_iff p ht, Site.effectivePort_eq_iff hp, or_iff_right_iff_imp]
  rintro rfl
  simp [IsDefaultPort]

def exampleSite : Site where
  scheme := "HTTP".toList
  host := "img.example".toList
  port := some "80".toList
  isScheme := by decide +kernel
  userInfo_chars := by simp
  isHost := .name (by decide +kernel) (by decide +kernel)
  port_digits := by decide +kernel

theorem RemotePattern.allows_effectivePort_eighty :
    let policy : Policy := ⟨[], [{ port := some "80" }, { path := some "/a*" }]⟩
    let secure : Site :=
      { exampleSite with scheme := "https".toList, isScheme := by decide +kernel }
    let tail := "/a b.png?:81 ".toList
    exampleSite.port = some "80".toList ∧ secure.port = some "80".toList ∧ IsTail tail ∧
      IsDefaultPort (exampleSite.scheme.map Char.toLower) "80".toList ∧
      ({ port := some "80" } : RemotePattern).allows (String.ofList (secure.text ++ tail)) = true ∧
      policy.allows (String.ofList (exampleSite.text ++ tail)) =
        policy.allows (String.ofList (exampleSite.withoutPort.text ++ tail)) := by
  intro policy secure tail
  have ht : IsTail tail := by decide +kernel
  have hdefault : IsDefaultPort (exampleSite.scheme.map Char.toLower) "80".toList := by
    decide +kernel
  have hother : ¬ IsDefaultPort (secure.scheme.map Char.toLower) "80".toList := by decide +kernel
  exact ⟨rfl, rfl, ht, hdefault, (allows_effectivePort secure _ tail rfl ht).1.mpr hother,
    (allows_effectivePort exampleSite _ tail rfl ht).2 hdefault policy⟩

/-- The pattern names the very port that stands in the URL. -/
theorem RemotePattern.port_not_met :
    RemotePattern.allows { port := some "443" } "https://img.example:443/a.png" = false := by
  decide +kernel

end Folio.Image
