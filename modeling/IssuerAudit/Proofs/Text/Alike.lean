import Mathlib.Data.List.TakeWhile
import IssuerAudit.Proofs.Text.Normal
/-!
Texts that are alike up to their normal form, told without it.  Two addresses trim
to the same text just if one text with blanks around it makes both, and two
fingerprints have the same normal form just if they differ in blanks and in the
case of letters only: `trim_eq_iff_sameAddress` and
`normalize_eq_iff_sameFingerprint`.
-/

namespace IssuerAudit

namespace Text

/-- Holds of a text with nothing but blanks put around it. -/
def Padded (core padded : List Char) : Prop :=
  ∃ front back : List Char, (∀ c ∈ front, isBlank c = true) ∧
    (∀ c ∈ back, isBlank c = true) ∧ padded = front ++ core ++ back

/-- Trimming takes off what a text is padded with. -/
theorem Padded.trimChars_eq {core padded : List Char} (h : Padded core padded) :
    trimChars padded = trimChars core := by
  obtain ⟨front, back, hfront, hback, rfl⟩ := h
  have behind : ∀ c ∈ back.reverse, isBlank c = true := by
    intro c hc
    exact hback c (List.mem_reverse.mp hc)
  unfold trimChars
  rw [List.append_assoc, List.dropWhile_append_of_pos hfront,
    List.dropWhile_append]
  split
  · next empty =>
    have none : core.dropWhile isBlank = [] := by simpa using empty
    rw [List.dropWhile_eq_nil_iff.mpr hback, none]
  · rw [List.reverse_append, List.dropWhile_append_of_pos behind]

theorem padded_trimChars (cs : List Char) : Padded (trimChars cs) cs := by
  refine ⟨cs.takeWhile isBlank,
    ((cs.dropWhile isBlank).reverse.takeWhile isBlank).reverse, ?_, ?_, ?_⟩
  · intro c hc
    exact List.mem_takeWhile_imp hc
  · intro c hc
    exact List.mem_takeWhile_imp (List.mem_reverse.mp hc)
  · rw [trimChars, List.append_assoc, ← List.reverse_append,
      List.takeWhile_append_dropWhile, List.reverse_reverse,
      List.takeWhile_append_dropWhile]

/-- Holds of two addresses that differ only in the blanks around them. -/
def SameAddress (s t : List Char) : Prop :=
  ∃ core, Padded core s ∧ Padded core t

/-- Trimming takes just the blanks around two addresses away. -/
theorem trim_eq_iff_sameAddress {s t : String} :
    trim s = trim t ↔ SameAddress s.toList t.toList := by
  rw [trim, trim, String.ofList_inj]
  constructor
  · intro same
    refine ⟨trimChars s.toList, padded_trimChars s.toList, ?_⟩
    rw [same]
    exact padded_trimChars t.toList
  · rintro ⟨core, left, right⟩
    rw [left.trimChars_eq, right.trimChars_eq]

/-- No letter is blank. -/
theorem isBlank_eq_false_of_isLower {c : Char} (small : c.isLower = true) :
    isBlank c = false := by
  have range : 97 ≤ c.toNat ∧ c.toNat ≤ 122 := isLower_iff.mp small
  simp only [isBlank, Bool.or_eq_false_iff, Bool.and_eq_false_iff,
    decide_eq_false_iff_not, beq_eq_false_iff_ne]
  omega

/-- Whether a character is blank does not depend on its case. -/
theorem isBlank_toUpper (c : Char) : isBlank c.toUpper = isBlank c := by
  by_cases blank : isBlank c = true
  · have capital : ¬ c.isLower = true := by
      intro small
      rw [isBlank_eq_false_of_isLower small] at blank
      cases blank
    rw [toUpper_of_not_small (isLower_eq_false_iff.mp (by simpa using capital))]
  · have plain : isBlank c = false := by simpa using blank
    rw [plain, (plain_toUpper plain).1]

/-- The characters of the normal form of a fingerprint. -/
def capitals (cs : List Char) : List Char :=
  upperChars (squeezeChars cs)

theorem capitals_of_blank {c : Char} (blank : isBlank c = true)
    (cs : List Char) : capitals (c :: cs) = capitals cs := by
  simp [capitals, squeezeChars, blank]

theorem capitals_of_not_blank {c : Char} (plain : isBlank c = false)
    (cs : List Char) : capitals (c :: cs) = c.toUpper :: capitals cs := by
  simp [capitals, squeezeChars, upperChars, plain]

end Text

namespace Fingerprint

open Text (isBlank capitals)

/-- Holds of two fingerprints that differ only in blanks anywhere and in the case
of letters. -/
inductive SameFingerprint : List Char → List Char → Prop
  | nil : SameFingerprint [] []
  | blankLeft {c : Char} {s t : List Char} (blank : isBlank c = true)
      (rest : SameFingerprint s t) : SameFingerprint (c :: s) t
  | blankRight {c : Char} {s t : List Char} (blank : isBlank c = true)
      (rest : SameFingerprint s t) : SameFingerprint s (c :: t)
  | letter {c d : Char} {s t : List Char} (same : c.toUpper = d.toUpper)
      (rest : SameFingerprint s t) : SameFingerprint (c :: s) (d :: t)

theorem SameFingerprint.capitals_eq {s t : List Char}
    (h : SameFingerprint s t) : capitals s = capitals t := by
  induction h with
  | nil => rfl
  | blankLeft blank rest ih => rw [Text.capitals_of_blank blank, ih]
  | blankRight blank rest ih => rw [Text.capitals_of_blank blank, ih]
  | @letter c d s t same rest ih =>
      have both : isBlank c = isBlank d := by
        rw [← Text.isBlank_toUpper c, same, Text.isBlank_toUpper]
      by_cases blank : isBlank c = true
      · rw [Text.capitals_of_blank blank,
          Text.capitals_of_blank (both ▸ blank), ih]
      · have plain : isBlank c = false := by simpa using blank
        rw [Text.capitals_of_not_blank plain,
          Text.capitals_of_not_blank (both ▸ plain), same, ih]

/-- Blanks in front of the second text are passed over, up to the character that
the first one starts with. -/
theorem SameFingerprint.of_capitals {s t : List Char}
    (h : capitals s = capitals t) : SameFingerprint s t := by
  induction s generalizing t with
  | nil =>
      induction t with
      | nil => exact .nil
      | cons d t ih =>
          by_cases blank : isBlank d = true
          · rw [Text.capitals_of_blank blank] at h
            exact .blankRight blank (ih h)
          · rw [Text.capitals_of_not_blank (by simpa using blank)] at h
            cases h
  | cons c s ih =>
      by_cases blank : isBlank c = true
      · rw [Text.capitals_of_blank blank] at h
        exact .blankLeft blank (ih h)
      have plain : isBlank c = false := by simpa using blank
      rw [Text.capitals_of_not_blank plain] at h
      induction t with
      | nil => cases h
      | cons d t inner =>
          by_cases next : isBlank d = true
          · rw [Text.capitals_of_blank next] at h
            exact .blankRight next (inner h)
          · rw [Text.capitals_of_not_blank (by simpa using next)] at h
            obtain ⟨same, rest⟩ := List.cons.inj h
            exact .letter same (ih rest)

/-- The normal form takes just the blanks and the case of letters away. -/
theorem normalize_eq_iff_sameFingerprint {s t : String} :
    normalize s = normalize t ↔ SameFingerprint s.toList t.toList := by
  have form : ∀ u : String, normalize u = String.ofList (capitals u.toList) := by
    intro u
    rw [normalize, Text.upper, Text.squeeze, String.toList_ofList, capitals]
  rw [form, form, String.ofList_inj]
  exact ⟨.of_capitals, SameFingerprint.capitals_eq⟩

end Fingerprint

end IssuerAudit
