import Mathlib.Data.List.Basic
import IssuerAudit.Fingerprint
/-!
The two normal forms of texts.  Trimming leaves just those texts that have no
blanks at their ends, and a fingerprint is left as it is if it has neither blanks
nor small letters: `trim_eq_self_iff` and `normalize_eq_self_iff`.  Either is done
once and for all.
-/

namespace IssuerAudit

namespace Text

/-- Holds of a text without blanks at its ends. -/
def Trimmed (cs : List Char) : Prop :=
  (∀ c ∈ cs.head?, isBlank c = false) ∧ ∀ c ∈ cs.getLast?, isBlank c = false

theorem head_dropWhile {p : Char → Bool} (cs : List Char) :
    ∀ c ∈ (cs.dropWhile p).head?, p c = false := by
  induction cs with
  | nil => simp
  | cons c cs ih =>
      by_cases h : p c = true
      · rwa [List.dropWhile_cons_of_pos h]
      · rw [List.dropWhile_cons_of_neg h]
        simpa using h

theorem dropWhile_of_head {p : Char → Bool} {cs : List Char}
    (h : ∀ c ∈ cs.head?, p c = false) : cs.dropWhile p = cs := by
  cases cs with
  | nil => rfl
  | cons c cs =>
      have first : p c = false := h c rfl
      exact List.dropWhile_cons_of_neg (by simp [first])

theorem trimmed_trimChars (cs : List Char) : Trimmed (trimChars cs) := by
  have head := head_dropWhile (p := isBlank) cs
  have last := head_dropWhile (p := isBlank) (cs.dropWhile isBlank).reverse
  constructor
  · have front : trimChars cs <+: cs.dropWhile isBlank := by
      rw [← List.reverse_suffix, trimChars, List.reverse_reverse]
      exact List.dropWhile_suffix isBlank
    obtain ⟨behind, whole⟩ := front
    intro c hc
    apply head c
    rw [← whole]
    exact List.mem_head?_append_of_mem_head? hc
  · rwa [trimChars, List.getLast?_reverse]

theorem trimChars_eq_self_iff {cs : List Char} :
    trimChars cs = cs ↔ Trimmed cs := by
  constructor
  · intro h
    rw [← h]
    exact trimmed_trimChars cs
  · rintro ⟨head, last⟩
    rw [← List.head?_reverse] at last
    rw [trimChars, dropWhile_of_head head, dropWhile_of_head last,
      List.reverse_reverse]

theorem trim_eq_self_iff {s : String} : trim s = s ↔ Trimmed s.toList := by
  rw [← trimChars_eq_self_iff, ← String.toList_inj, trim, String.toList_ofList]

theorem trim_trim (s : String) : trim (trim s) = trim s := by
  rw [trim_eq_self_iff, trim, String.toList_ofList]
  exact trimmed_trimChars s.toList

theorem isLower_iff {c : Char} : c.isLower = true ↔ 'a' ≤ c ∧ c ≤ 'z' := by
  change (decide ('a' ≤ c) && decide (c ≤ 'z')) = true ↔ _
  rw [Bool.and_eq_true, decide_eq_true_eq, decide_eq_true_eq]

theorem isLower_eq_false_iff {c : Char} :
    c.isLower = false ↔ ¬ ('a' ≤ c ∧ c ≤ 'z') := by
  rw [← Bool.not_eq_true, isLower_iff]

/-- A capital letter is neither blank nor small. -/
theorem plain_toUpper {c : Char} (h : isBlank c = false) :
    isBlank c.toUpper = false ∧ c.toUpper.isLower = false := by
  have capital : ∀ k : Fin 26, isBlank (Char.ofNat ('A'.toNat + k)) = false ∧
      (Char.ofNat ('A'.toNat + k)).isLower = false := by decide
  by_cases small : 'a' ≤ c ∧ c ≤ 'z'
  · have high : c.toNat ≤ 'z'.toNat := small.2
    have span : 'z'.toNat < 'a'.toNat + 26 := by decide
    rw [toUpper_of_small small]
    exact capital ⟨c.toNat - 'a'.toNat, by omega⟩
  · rw [toUpper_of_not_small small]
    exact ⟨h, isLower_eq_false_iff.mpr small⟩

end Text

namespace Fingerprint

open Text (isBlank)

/-- Holds of a text in which there are neither blanks nor small letters. -/
def Plain (cs : List Char) : Prop :=
  ∀ c ∈ cs, isBlank c = false ∧ c.isLower = false

theorem plain_normalize (s : String) : Plain (normalize s).toList := by
  intro c hc
  simp only [normalize, Text.upper, Text.squeeze, String.toList_ofList,
    Text.upperChars, List.mem_map] at hc
  obtain ⟨d, hd, rfl⟩ := hc
  exact Text.plain_toUpper (Text.isBlank_eq_false_of_mem_squeezeChars hd)

theorem normalize_eq_self_iff {s : String} :
    normalize s = s ↔ Plain s.toList := by
  constructor
  · intro h
    rw [← h]
    exact plain_normalize s
  · intro plain
    have squeezed : Text.squeezeChars s.toList = s.toList := by
      rw [Text.squeezeChars, List.filter_eq_self]
      intro c hc
      simp [(plain c hc).1]
    have upper : Text.upperChars s.toList = s.toList := by
      have each : ∀ c ∈ s.toList, c.toUpper = id c := fun c hc =>
        Text.toUpper_of_not_small (Text.isLower_eq_false_iff.mp (plain c hc).2)
      rw [Text.upperChars, List.map_congr_left each, List.map_id]
    rw [normalize, Text.upper, Text.squeeze, String.toList_ofList, squeezed,
      upper, String.ofList_toList]

theorem normalize_normalize (s : String) :
    normalize (normalize s) = normalize s :=
  normalize_eq_self_iff.mpr (plain_normalize s)

end Fingerprint

end IssuerAudit
