import Mathlib.Order.Bounds.Defs
import Folio.Proofs.FreshSlugs

/-! A slugger in use: slugs are asked for and the slugger is reset, in any order. What it hands out
depends on the slugs since the last reset only. -/

namespace Folio.Slugger

inductive Call
  | slug (text : String)
  | reset
  deriving DecidableEq, Repr

/-- A slugger together with the slugs it has handed out since its last reset, the last one first. -/
abbrev Session := Slugger × List String

def Session.call (c : Session) : Call → Session
  | .slug text => ((c.1.slug text).1, (c.1.slug text).2 :: c.2)
  | .reset => (c.1.reset, [])

/-- A new slugger after some calls. -/
def session (calls : List Call) : Session :=
  calls.foldl Session.call ({}, [])

/-- The taken slugs are those handed out since the last reset, all different, and no counter has
passed over a free one. -/
structure Session.Sound (c : Session) : Prop where
  counted : c.1.Counted
  taken : ∀ slug, c.1.isTaken slug = true ↔ slug ∈ c.2
  nodup : c.2.Nodup

theorem sound_new : Session.Sound ({}, []) where
  counted := fun base i hi => absurd hi (Nat.not_lt_zero i)
  taken := fun slug => by simp [isTaken]
  nodup := .nil

theorem slug_notMem {c : Session} (h : c.Sound) (text : String) : (c.1.slug text).2 ∉ c.2 := by
  intro hm
  have hfree := (slug_spec c.1 text).1
  rw [(h.taken _).mpr hm] at hfree
  cases hfree

theorem Session.Sound.call {c : Session} (h : c.Sound) (call : Call) : (c.call call).Sound := by
  cases call with
  | slug text =>
    obtain ⟨-, hcounted, htaken⟩ := slug_firstFree h.counted h.taken text
    exact ⟨hcounted, htaken, List.nodup_cons.mpr ⟨slug_notMem h text, h.nodup⟩⟩
  | reset => exact sound_new

theorem sound_session (calls : List Call) : (session calls).Sound :=
  List.foldlRecOn calls _ sound_new fun _ h call _ => h.call call

/-- The search for a free one of `base-n`, `base-(n+1)`, … without a limit, and where it ends. -/
inductive Search (s : Slugger) (base : String) : Nat → Nat → Prop
  | free {n : Nat} (h : s.isTaken (suffixed base n) = false) : Search s base n n
  | taken {n m : Nat} (h : s.isTaken (suffixed base n) = true) (hm : Search s base (n + 1) m) :
      Search s base n m

theorem search_of_taken {s : Slugger} {base : String} {n k : Nat}
    (h : ∀ i < k, s.isTaken (suffixed base (n + i)) = true)
    (hk : s.isTaken (suffixed base (n + k)) = false) : Search s base n (n + k) := by
  induction k generalizing n with
  | zero => exact .free hk
  | succ k ih =>
    have hnext : ∀ i, n + 1 + i = n + (i + 1) := fun i => by omega
    refine .taken (h 0 k.succ_pos) ?_
    rw [← hnext k] at hk ⊢
    refine ih (fun i hi => ?_) hk
    rw [hnext]
    exact h (i + 1) (Nat.succ_lt_succ hi)

/-- The limit of the search is never what ends it. -/
theorem search_firstFree (s : Slugger) (base : String) (n : Nat) :
    Search s base n (s.firstFree base n s.taken.length) := by
  have hfree := firstFree_isFree s base n
  obtain ⟨k, hk, htaken, -⟩ := exists_firstFree_eq s base n s.taken.length
  rw [hk] at hfree ⊢
  exact search_of_taken htaken hfree

theorem slug_of_isTaken {s : Slugger} {text : String} (h : s.isTaken (slugify text) = true) :
    (s.slug text).2 =
      suffixed (slugify text)
        (s.firstFree (slugify text) (s.counter (slugify text) + 1) s.taken.length) := by
  simp [slug, h]

/-- After any calls, the slugs since the last reset are all different, and the next one is none of
them. It is the text as a slug if that is free. Otherwise the search from the counter ends, with the
least number from 1 on that gives a free slug. -/
theorem slug_after_calls (calls : List Call) (text : String) :
    (session calls).2.Nodup ∧ ((session calls).1.slug text).2 ∉ (session calls).2 ∧
      if slugify text ∈ (session calls).2 then
        ∃ n, Search (session calls).1 (slugify text)
            ((session calls).1.counter (slugify text) + 1) n ∧
          IsLeast {m | 1 ≤ m ∧ suffixed (slugify text) m ∉ (session calls).2} n ∧
          ((session calls).1.slug text).2 = suffixed (slugify text) n
      else ((session calls).1.slug text).2 = slugify text := by
  have hs := sound_session calls
  generalize session calls = c at hs ⊢
  refine ⟨hs.nodup, slug_notMem hs text, ?_⟩
  obtain ⟨hfirst, -, -⟩ := slug_firstFree hs.counted hs.taken text
  generalize hr : (c.1.slug text).2 = slug at hfirst ⊢
  cases hfirst with
  | plain hb => rw [if_neg hb]
  | numbered n hb hpassed hfree =>
    rw [if_pos hb]
    have hn := slug_of_isTaken ((hs.taken _).mpr hb)
    rw [hr] at hn
    refine ⟨n + 1, ?_, ⟨⟨n.succ_pos, hfree⟩, ?_⟩, rfl⟩
    · rw [suffixed_injective _ hn]
      exact search_firstFree _ _ _
    · rintro m ⟨hm, hmfree⟩
      by_contra hlt
      obtain ⟨i, rfl⟩ : ∃ i, m = i + 1 := ⟨m - 1, by omega⟩
      exact hmfree (hpassed i (by omega))

/-- The last text reads as a slug that was handed out before. -/
example : (session [.slug "Intro", .reset, .slug "Intro", .slug "Intro", .slug "Intro 1"]).2 =
    ["intro-1-1", "intro-1", "intro"] := by
  decide +kernel

end Folio.Slugger
