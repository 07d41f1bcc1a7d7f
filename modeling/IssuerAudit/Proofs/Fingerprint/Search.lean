import Mathlib.Data.List.Infix
import IssuerAudit.Fingerprint
/-!
The search for a fingerprint in one line.  `occursIn` is the infix relation, so a
line that lacks a character of the marker reports nothing; a run of digits is
found behind any text that is broken often enough by other characters.
-/

namespace IssuerAudit.Fingerprint

/-- The search for a block finds it just if it is there. -/
theorem occursIn_iff {part cs : List Char} :
    occursIn part cs = true ↔ part <:+: cs := by
  induction cs with
  | nil => simp [occursIn]
  | cons c rest ih =>
      rw [occursIn, Bool.or_eq_true, List.isPrefixOf_iff_prefix, ih]
      exact List.infix_cons_iff.symm

/-- A line that lacks a character of the marker reports nothing. -/
theorem ofLine?_of_lacks {line : List Char} {c : Char} (hc : c ∈ marker)
    (h : c ∉ line) : ofLine? line = none := by
  have absent : occursIn marker line = false := by
    rw [Bool.eq_false_iff, ne_eq, occursIn_iff]
    intro inside
    exact h (inside.subset hc)
  rw [ofLine?, absent]
  rfl

/-- Behind the one `v` of a line that holds the marker there is the number of the
version. -/
theorem ofLine?_of_other_version {before behind : List Char}
    (hbefore : 'v' ∉ before) (hbehind : 'v' ∉ behind)
    (h : behind.head? ≠ some '4') :
    ofLine? (before ++ 'v' :: behind) = none := by
  have absent : occursIn marker (before ++ 'v' :: behind) = false := by
    rw [Bool.eq_false_iff, ne_eq, occursIn_iff]
    rintro ⟨front, back, split⟩
    have marked : marker = "issuer fpr ".toList ++ ['v', '4'] := by decide
    rw [marked, List.append_assoc, List.append_assoc, ← List.append_assoc]
      at split
    obtain ⟨-, -, same⟩ :=
      (List.append_cons_inj_of_notMem hbefore hbehind).mp split.symm
    exact h (congrArg List.head? same)
  rw [ofLine?, absent]
  rfl

/-- A block that starts before a character that is no digit, and is long enough
to reach it, is no run. -/
theorem firstRun?_skip {n : Nat} {before rest : List Char} {c : Char}
    (hc : isCapitalHex c = false) (h : before.length < n) :
    firstRun? n (before ++ c :: rest) = firstRun? n rest := by
  induction before with
  | nil =>
      obtain ⟨n, rfl⟩ := Nat.exists_eq_succ_of_ne_zero (Nat.ne_of_gt h)
      rw [List.nil_append, firstRun?]
      simp [hc]
  | cons d before ih =>
      have shorter : before.length < n :=
        Nat.lt_of_succ_lt h
      -- the block from `d` on is longer than what is left before `c`
      have reached : ((d :: before ++ c :: rest).take n).all isCapitalHex =
          false := by
        have mem : c ∈ (d :: before ++ c :: rest).take n := by
          rw [List.take_append]
          obtain ⟨k, hk⟩ := Nat.exists_eq_succ_of_ne_zero
            (Nat.sub_ne_zero_of_lt h)
          rw [hk]
          exact List.mem_append_right _ List.mem_cons_self
        rw [List.all_eq_false]
        exact ⟨c, mem, by simp [hc]⟩
      rw [List.cons_append] at reached ⊢
      rw [firstRun?, reached, Bool.and_false, if_neg Bool.false_ne_true,
        ih shorter]

/-- A run at the front is the first one. -/
theorem firstRun?_append {run : List Char} (h : run.all isCapitalHex = true)
    (rest : List Char) : firstRun? run.length (run ++ rest) = some run := by
  have window : (run ++ rest).take run.length = run := List.take_left
  cases hrun : run ++ rest with
  | nil =>
      obtain ⟨rfl, -⟩ := List.append_eq_nil_iff.mp hrun
      rfl
  | cons c more =>
      rw [hrun] at window
      simp [firstRun?, window, h]

/-- A line with a short opening, the marker and a fingerprint reports it. -/
theorem ofLine?_of_marked {before run : List Char}
    (short : before.length < digits) (long : run.length = digits)
    (capital : run.all isCapitalHex = true) (rest : List Char) :
    ofLine? (before ++ '(' :: (marker ++ ' ' :: (run ++ rest))) =
      some run := by
  have marked : occursIn marker
      (before ++ '(' :: (marker ++ ' ' :: (run ++ rest))) = true := by
    rw [occursIn_iff]
    exact ⟨before ++ ['('], ' ' :: (run ++ rest), by simp⟩
  have upper : Text.upperChars
      (before ++ '(' :: (marker ++ ' ' :: (run ++ rest))) =
        Text.upperChars before ++ '(' :: (Text.upperChars marker ++
          ' ' :: (run ++ Text.upperChars rest)) := by
    have same := upperChars_of_isCapitalHex capital
    rw [Text.upperChars] at same
    simp [Text.upperChars, same]
  rw [ofLine?, if_pos marked, upper, firstRun?_skip (by decide),
    firstRun?_skip (by decide) (by decide), ← long]
  · exact firstRun?_append capital _
  · rw [Text.length_upperChars]
    exact short

end IssuerAudit.Fingerprint
