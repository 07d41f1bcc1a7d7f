/-!
Letter case.  Case is changed for the letters of ASCII alone, so a text keeps its length
and every other character stays as it is.
-/

namespace IssuerAudit.Text

/-- Writes the letters `a` to `z` as capitals. -/
def upperChars (cs : List Char) : List Char :=
  cs.map Char.toUpper

def upper (s : String) : String :=
  String.ofList (upperChars s.toList)

/-- Writes the letters `A` to `Z` of a text as small letters. -/
def lower (s : String) : String :=
  String.ofList (s.toList.map Char.toLower)

/-- A small letter becomes the capital at its place in the alphabet. -/
theorem toUpper_of_small {c : Char} (h : 'a' ≤ c ∧ c ≤ 'z') :
    c.toUpper = Char.ofNat ('A'.toNat + (c.toNat - 'a'.toNat)) := by
  have each : ∀ k : Fin 26, (Char.ofNat ('a'.toNat + k.val)).toUpper =
      Char.ofNat ('A'.toNat + k.val) := by decide
  have low : 'a'.toNat ≤ c.toNat := h.1
  have high : c.toNat ≤ 'z'.toNat := h.2
  have span : 'z'.toNat < 'a'.toNat + 26 := by decide
  have this := each ⟨c.toNat - 'a'.toNat, by omega⟩
  rwa [Nat.add_sub_cancel' low, Char.ofNat_toNat] at this

/-- Every other character stays. -/
theorem toUpper_of_not_small {c : Char} (h : ¬ ('a' ≤ c ∧ c ≤ 'z')) : c.toUpper = c :=
  dif_neg h

/-- What becomes of each character of a text in capitals. -/
theorem upperChars_eq_map (cs : List Char) :
    upperChars cs = cs.map fun c =>
      if 'a' ≤ c ∧ c ≤ 'z' then Char.ofNat ('A'.toNat + (c.toNat - 'a'.toNat))
      else c := by
  apply List.map_congr_left
  intro c _
  split
  · next small => exact toUpper_of_small small
  · next other => exact toUpper_of_not_small other

theorem length_upperChars (cs : List Char) : (upperChars cs).length = cs.length := by
  simp [upperChars]

theorem upperChars_append (xs ys : List Char) :
    upperChars (xs ++ ys) = upperChars xs ++ upperChars ys := by
  simp [upperChars]

end IssuerAudit.Text
