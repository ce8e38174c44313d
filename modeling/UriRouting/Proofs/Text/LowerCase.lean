import Mathlib.Tactic
import UriRouting.Proofs.Text.Utf8
import UriRouting.Text.LetterCase

/-!
# Texts whose lower case is ASCII

The full lower-casing of a text knows all of Unicode.  Characters outside of ASCII could turn into
letters of ASCII, alone or with something else behind them, and then a text would be taken for a
name that it is not.

There are two such characters.  The Kelvin sign becomes a `k`, and the capital I with a dot becomes
an `i` with a dot above, which is still outside of ASCII (`lowerChar_cases`).  So a name in ASCII
without a `k` is the lower case of no other texts than this name with some of its letters as
capitals (`lowerText_eq_iff`).
-/

namespace UriRouting

/-! ## Letters of either case -/

/-- The text is the name, but some letters of ASCII may be capitals, which stand 32 code points
before the letters. -/
def IsCaseVariant (text name : String) : Prop :=
  List.Forall₂ (fun c letter => c = letter ∨ ('A' ≤ c ∧ c ≤ 'Z') ∧ c.toNat + 32 = letter.toNat)
    text.toList name.toList

instance (text name : String) : Decidable (IsCaseVariant text name) :=
  inferInstanceAs (Decidable (List.Forall₂ _ _ _))

lemma toNat_toLower (c : Char) :
    c.toLower.toNat = if 'A' ≤ c ∧ c ≤ 'Z' then c.toNat + 32 else c.toNat := by
  by_cases h : 'A' ≤ c ∧ c ≤ 'Z'
  · have hlower : c.toLower.val = c.val + 32 := congrArg Char.val (dif_pos h)
    have hlast : c.toNat ≤ 0x5A := h.2
    have hsmall : c.toNat + 32 < 2 ^ 32 := by omega
    rw [if_pos h, Char.toNat, hlower]
    exact Nat.mod_eq_of_lt hsmall
  · have hlower : c.toLower = c := dif_neg h
    rw [if_neg h, hlower]

lemma toLower_eq_iff {c letter : Char} (hletter : ¬ ('A' ≤ letter ∧ letter ≤ 'Z')) :
    c.toLower = letter ↔ c = letter ∨ ('A' ≤ c ∧ c ≤ 'Z') ∧ c.toNat + 32 = letter.toNat := by
  rw [← Char.toNat_inj, toNat_toLower]
  by_cases hcapital : 'A' ≤ c ∧ c ≤ 'Z'
  · have hne : c ≠ letter := by
      rintro rfl
      exact hletter hcapital
    simp [hcapital, hne]
  · simp [hcapital, Char.toNat_inj]

lemma isCaseVariant_iff {text name : String}
    (hname : ∀ letter ∈ name.toList, ¬ ('A' ≤ letter ∧ letter ≤ 'Z')) :
    IsCaseVariant text name ↔ text.toList.map Char.toLower = name.toList := by
  rw [IsCaseVariant]
  generalize name.toList = letters at hname
  generalize text.toList = chars
  induction letters generalizing chars with
  | nil => simp [List.forall₂_nil_right_iff]
  | cons letter letters ih =>
    obtain ⟨hletter, hletters⟩ := List.forall_mem_cons.mp hname
    cases chars with
    | nil => simp
    | cons c chars =>
      rw [List.forall₂_cons, ih hletters, ← toLower_eq_iff hletter, List.map_cons,
        List.cons_eq_cons]

/-! ## The lower case of a character -/

/-- The letters of a run are those of ASCII, the Kelvin sign, or neither they nor their images are
in ASCII. -/
lemma lowerRuns_cases : ∀ r ∈ lowerRuns,
    (r.first = 0x41 ∧ r.last = 0x5A ∧ r.shift = 32) ∨
    (r.first = 0x212A ∧ r.last = 0x212A ∧ r.shift = -8383) ∨
    0x80 ≤ r.first ∧ 0x80 ≤ r.first + r.shift ∧
      (r.last + r.shift < 0xD800 ∨ 0xDFFF < r.first + r.shift ∧ r.last + r.shift < 0x110000) := by
  decide +kernel

lemma image?_cases {r : CaseRun} (hr : r ∈ lowerRuns) {n m : Nat} (h : r.image? n = some m) :
    ((0x41 ≤ n ∧ n ≤ 0x5A) ∧ m = n + 32) ∨ (n = 0x212A ∧ m = 0x6B) ∨
      (0x80 ≤ n ∧ 0x80 ≤ m ∧ (m < 0xD800 ∨ 0xDFFF < m ∧ m < 0x110000)) := by
  rw [CaseRun.image?, Option.ite_none_right_eq_some, Option.some.injEq] at h
  obtain ⟨⟨hfirst, hlast, -⟩, hm⟩ := h
  rcases lowerRuns_cases r hr with ⟨ha, hz, hshift⟩ | ⟨hk, hk', hshift⟩ | ⟨hhigh, himage, hvalid⟩
  all_goals omega

lemma lowerChar_eq {c : Char} (hdotted : c ≠ '\u0130') :
    (∃ r ∈ lowerRuns, ∃ m, r.image? c.toNat = some m ∧ lowerChar c = [Char.ofNat m]) ∨
      (∀ r ∈ lowerRuns, r.image? c.toNat = none) ∧ lowerChar c = [c] := by
  rw [lowerChar, if_neg hdotted]
  cases h : lowerRuns.findSome? fun r => r.image? c.toNat with
  | some m =>
    obtain ⟨r, hr, hm⟩ := List.exists_of_findSome?_eq_some h
    exact .inl ⟨r, hr, m, hm, rfl⟩
  | none => exact .inr ⟨List.findSome?_eq_none_iff.mp h, rfl⟩

/-- In ASCII nothing but capitals changes.  Outside of ASCII only the Kelvin sign has a lower case
that is all ASCII. -/
lemma lowerChar_cases (c : Char) :
    (c.toNat < 0x80 ∧ lowerChar c = [c.toLower]) ∨ (c = '\u212A' ∧ lowerChar c = ['k']) ∨
      (0x80 ≤ c.toNat ∧ ∃ d ∈ lowerChar c, 0x80 ≤ d.toNat) := by
  have hcapital : ('A' ≤ c ∧ c ≤ 'Z') = (0x41 ≤ c.toNat ∧ c.toNat ≤ 0x5A) := rfl
  by_cases hdotted : c = '\u0130'
  · subst hdotted
    exact .inr (.inr ⟨by decide, '\u0307', by decide, by decide⟩)
  rcases lowerChar_eq hdotted with ⟨r, hr, m, hm, hlower⟩ | ⟨hnone, hlower⟩
  · rw [hlower]
    rcases image?_cases hr hm with ⟨hascii, rfl⟩ | ⟨hkelvin, rfl⟩ | ⟨hhigh, himage, hvalid⟩
    · have hsmall : Char.ofNat (c.toNat + 32) = c.toLower := by
        rw [← Char.toNat_inj, Utf8.toNat_ofNat (by omega), toNat_toLower,
          if_pos (hcapital.mpr hascii)]
      exact .inl ⟨by omega, by rw [hsmall]⟩
    · exact .inr (.inl ⟨Char.toNat_inj.mp hkelvin, rfl⟩)
    · refine .inr (.inr ⟨hhigh, _, List.mem_singleton_self _, ?_⟩)
      rwa [Utf8.toNat_ofNat hvalid]
  · rw [hlower]
    by_cases hlow : c.toNat < 0x80
    · -- the first run would have found a capital
      have hsame : ¬ ('A' ≤ c ∧ c ≤ 'Z') := by
        have hfirst := hnone ⟨0x41, 0x5A, 1, 32⟩ List.mem_cons_self
        intro h
        simp [CaseRun.image?, hcapital.mp h, Nat.mod_one] at hfirst
      have hlower : c.toLower = c := by
        rw [← Char.toNat_inj, toNat_toLower, if_neg hsame]
      exact .inl ⟨hlow, by rw [hlower]⟩
    · exact .inr (.inr ⟨by omega, c, List.mem_singleton_self c, by omega⟩)

/-! ## The lower case of a text -/

/-- A text in ASCII is lower-cased letter by letter. -/
lemma lowerAfter_of_ascii (before : List Char) {text : List Char} (h : ∀ c ∈ text, c.toNat < 0x80) :
    lowerAfter before text = text.map Char.toLower := by
  induction text generalizing before with
  | nil => rfl
  | cons c text ih =>
    obtain ⟨hc, htext⟩ := List.forall_mem_cons.mp h
    have hsigma : c ≠ '\u03A3' := by
      rintro rfl
      exact absurd hc (by decide)
    have hlower : lowerChar c = [c.toLower] := by
      rcases lowerChar_cases c with ⟨-, hlower⟩ | ⟨rfl, -⟩ | ⟨hhigh, -⟩
      · exact hlower
      · exact absurd hc (by decide)
      · omega
    rw [lowerAfter, if_neg hsigma, hlower, ih _ htext]
    rfl

/-- Only a text in ASCII has a lower case in ASCII without a `k`. -/
lemma ascii_of_lowerAfter (before : List Char) {text : List Char}
    (h : ∀ d ∈ lowerAfter before text, d.toNat < 0x80 ∧ d ≠ 'k') : ∀ c ∈ text, c.toNat < 0x80 := by
  induction text generalizing before with
  | nil => simp
  | cons c text ih =>
    rw [lowerAfter, List.forall_mem_append] at h
    obtain ⟨hc, htext⟩ := h
    refine List.forall_mem_cons.mpr ⟨?_, ih _ htext⟩
    by_cases hsigma : c = '\u03A3'
    · -- neither form of the small sigma is in ASCII
      rw [if_pos hsigma] at hc
      split at hc
      · exact absurd (hc _ (List.mem_singleton_self _)).1 (by decide)
      · exact absurd (hc _ (List.mem_singleton_self _)).1 (by decide)
    · rw [if_neg hsigma] at hc
      rcases lowerChar_cases c with ⟨hlow, -⟩ | ⟨-, hkelvin⟩ | ⟨-, d, hd, hhigh⟩
      · exact hlow
      · rw [hkelvin] at hc
        exact absurd rfl (hc 'k' (List.mem_singleton_self _)).2
      · have hlow := (hc d hd).1
        omega

/-- A name in small letters and other characters of ASCII, but without a `k`, is the lower case of
its case variants and of nothing else. -/
theorem lowerText_eq_iff {name : String}
    (hname : ∀ d ∈ name.toList, d.toNat < 0x80 ∧ d ≠ 'k' ∧ ¬ ('A' ≤ d ∧ d ≤ 'Z')) {text : String} :
    lowerText text = name ↔ IsCaseVariant text name := by
  have hlower (h : ∀ c ∈ text.toList, c.toNat < 0x80) :
      (lowerText text).toList = text.toList.map Char.toLower := by
    rw [lowerText, String.toList_ofList, lowerAfter_of_ascii [] h]
  rw [isCaseVariant_iff fun d hd => (hname d hd).2.2]
  constructor
  · intro h
    have hascii : ∀ c ∈ text.toList, c.toNat < 0x80 := by
      apply ascii_of_lowerAfter []
      intro d hd
      have hmem : d ∈ name.toList := by rwa [← h, lowerText, String.toList_ofList]
      exact ⟨(hname d hmem).1, (hname d hmem).2.1⟩
    rw [← hlower hascii, h]
  · intro h
    have hascii : ∀ c ∈ text.toList, c.toNat < 0x80 := by
      intro c hc
      have hmem : c.toLower ∈ name.toList := h ▸ List.mem_map_of_mem hc
      have hlow := (hname _ hmem).1
      rw [toNat_toLower] at hlow
      split at hlow <;> omega
    rw [← String.toList_inj, hlower hascii, h]

/-- The Kelvin sign is why a name must not have a `k` in it. -/
example : lowerText "\u212A" = "k" := by decide +kernel

end UriRouting
