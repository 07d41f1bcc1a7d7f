import IssuerAudit.Json.Grammar
/-!
Numerals are read just as the grammar spells them: `readNumeral_eq_ok_iff`.
-/

namespace IssuerAudit

/-- Two readers one behind the other end well just if both do. -/
theorem bind_eq_ok_iff {ε α β : Type} {x : Except ε α} {f : α → Except ε β}
    {y : β} : (x >>= f) = .ok y ↔ ∃ a, x = .ok a ∧ f a = .ok y := by
  cases x with
  | error e => simp [bind, Except.bind]
  | ok a => simp [bind, Except.bind]

namespace Json

theorem takeWhile_of_ends {row rest : List Char}
    (digits : ∀ c ∈ row, isDigit c = true)
    (ends : ∀ c ∈ rest.head?, isDigit c = false) :
    (row ++ rest).takeWhile isDigit = row ∧
      (row ++ rest).dropWhile isDigit = rest := by
  rw [List.takeWhile_append_of_pos digits, List.dropWhile_append_of_pos digits]
  cases rest with
  | nil => simp
  | cons c rest =>
      have none : isDigit c = false := ends c rfl
      simp [none]

/-- The digits at the front of a text are its longest row of them. -/
theorem spellsDigits_iff {cs row rest : List Char} :
    SpellsDigits cs row rest ↔
      cs.takeWhile isDigit = row ∧ cs.dropWhile isDigit = rest ∧ row ≠ [] := by
  constructor
  · rintro ⟨rfl, some, digits, ends⟩
    obtain ⟨front, behind⟩ := takeWhile_of_ends digits ends
    exact ⟨front, behind, some⟩
  · rintro ⟨rfl, rfl, some⟩
    refine ⟨List.takeWhile_append_dropWhile.symm, some, ?_, ?_⟩
    · exact List.all_eq_true.mp List.all_takeWhile
    · intro c hc
      have first := List.head?_dropWhile_not isDigit cs
      rw [Option.mem_def.mp hc] at first
      exact first

theorem readDigits_eq_ok_iff {cs row rest : List Char} :
    readDigits cs = .ok (row, rest) ↔ SpellsDigits cs row rest := by
  rw [spellsDigits_iff]
  constructor
  · intro h
    unfold readDigits at h
    split at h
    · cases h
    · cases h
    · next some _ =>
      obtain ⟨rfl, rfl⟩ := Prod.mk.inj (Except.ok.inj h)
      exact ⟨rfl, rfl, some⟩
  · rintro ⟨rfl, rfl, some⟩
    unfold readDigits
    split
    · exact absurd rfl some
    · next none => exact absurd none some
    · rfl

theorem SpellsDigits.head {c : Char} {cs row rest : List Char}
    (h : SpellsDigits (c :: cs) row rest) : isDigit c = true := by
  obtain ⟨text, some, digits, -⟩ := h
  cases row with
  | nil => exact absurd rfl some
  | cons d row =>
      obtain ⟨rfl, -⟩ := List.cons.inj text
      exact digits c List.mem_cons_self

theorem readFraction_eq_ok_iff {cs rest : List Char}
    {fraction : Option (List Char)} :
    readFraction cs = .ok (fraction, rest) ↔
      SpellsFraction cs fraction rest := by
  constructor
  · intro h
    unfold readFraction at h
    split at h
    · obtain ⟨⟨row, behind⟩, hrow, same⟩ := bind_eq_ok_iff.mp h
      obtain ⟨rfl, rfl⟩ := Prod.mk.inj (Except.ok.inj same)
      exact .digits (readDigits_eq_ok_iff.mp hrow)
    · next other =>
      obtain ⟨rfl, rfl⟩ := Prod.mk.inj (Except.ok.inj h)
      apply SpellsFraction.missing
      intro point
      obtain ⟨more, rfl⟩ := List.head?_eq_some_iff.mp point
      exact other more rfl
  · intro h
    cases h with
    | missing h =>
        unfold readFraction
        split
        · exact absurd rfl h
        · rfl
    | digits row =>
        rw [readFraction, readDigits_eq_ok_iff.mpr row]
        rfl

theorem readPower_eq_ok_iff {cs rest : List Char}
    {power : Option (Bool × List Char)} :
    readPower cs = .ok (power, rest) ↔ SpellsPower cs power rest := by
  constructor
  · intro h
    unfold readPower at h
    split at h
    · next c more =>
      split at h
      · next letter =>
        obtain ⟨⟨row, behind⟩, hrow, same⟩ := bind_eq_ok_iff.mp h
        obtain ⟨rfl, rfl⟩ := Prod.mk.inj (Except.ok.inj same)
        have digits := readDigits_eq_ok_iff.mp hrow
        split at digits
        · exact .plus letter digits
        · exact .minus letter digits
        · exact .plain letter digits
      · next letter =>
        obtain ⟨rfl, rfl⟩ := Prod.mk.inj (Except.ok.inj h)
        rw [not_or] at letter
        apply SpellsPower.missing
        · simpa using letter.1
        · simpa using letter.2
    · obtain ⟨rfl, rfl⟩ := Prod.mk.inj (Except.ok.inj h)
      exact .missing (by simp) (by simp)
  · intro h
    cases h with
    | missing small capital =>
        cases cs with
        | nil => rfl
        | cons c cs =>
            have letter : ¬ (c = 'e' ∨ c = 'E') := by
              simpa using And.intro small capital
            unfold readPower
            simp only [if_neg letter]
    | plain letter digits =>
        unfold readPower
        simp only [if_pos letter]
        split
        · exact absurd digits.head (by decide)
        · exact absurd digits.head (by decide)
        · rw [readDigits_eq_ok_iff.mpr digits]
          rfl
    | plus letter digits =>
        rw [readPower, if_pos letter]
        simp only [readDigits_eq_ok_iff.mpr digits]
        rfl
    | minus letter digits =>
        rw [readPower, if_pos letter]
        simp only [readDigits_eq_ok_iff.mpr digits]
        rfl

/-- A leading zero stands alone if no digit follows it. -/
theorem takeWhile_zero_iff {cs row rest : List Char}
    (h : SpellsDigits ('0' :: cs) row rest) :
    row = ['0'] ↔ cs.head?.any isDigit = false := by
  obtain ⟨rfl, -, -⟩ := spellsDigits_iff.mp h
  rw [List.takeWhile_cons_of_pos (by decide)]
  cases cs with
  | nil => simp
  | cons d cs =>
      by_cases hd : isDigit d = true
      · simp [hd]
      · simp [hd]

/-- A numeral is read just if the text spells it. -/
theorem readNumeral_eq_ok_iff {negative : Bool} {cs rest : List Char}
    {n : Numeral} : readNumeral negative cs = .ok (n, rest) ↔
      SpellsNumeral negative cs n rest := by
  constructor
  · intro h
    unfold readNumeral at h
    split at h
    · cases h
    next c more =>
    split at h
    · cases h
    next digit =>
    split at h
    · cases h
    next zero =>
    obtain ⟨⟨fraction, a⟩, hfraction, h⟩ := bind_eq_ok_iff.mp h
    obtain ⟨⟨power, b⟩, hpower, h⟩ := bind_eq_ok_iff.mp h
    obtain ⟨rfl, rfl⟩ := Prod.mk.inj (Except.ok.inj h)
    have hc : isDigit c = true := by simpa using digit
    have digits : SpellsDigits (c :: more) ((c :: more).takeWhile isDigit)
        ((c :: more).dropWhile isDigit) :=
      spellsDigits_iff.mpr ⟨rfl, rfl, by simp [hc]⟩
    refine .mk digits ?_ (readFraction_eq_ok_iff.mp hfraction)
      (readPower_eq_ok_iff.mp hpower)
    intro first
    rw [List.takeWhile_cons_of_pos hc] at first
    obtain rfl : c = '0' := Option.some.inj first
    exact (takeWhile_zero_iff digits).mpr (by simpa using zero)
  · intro h
    obtain ⟨digits, zero, places, exponent⟩ := h
    cases cs with
    | nil =>
        obtain ⟨rfl, -, some⟩ := spellsDigits_iff.mp digits
        exact absurd rfl some
    | cons c more =>
        have digit : ¬ (!isDigit c) = true := by simp [digits.head]
        have alone : ¬ (c = '0' ∧ more.head?.any isDigit = true) := by
          rintro ⟨rfl, more⟩
          obtain ⟨rfl, -, -⟩ := spellsDigits_iff.mp digits
          rw [(takeWhile_zero_iff digits).mp (zero rfl)] at more
          cases more
        obtain ⟨rfl, rfl, -⟩ := spellsDigits_iff.mp digits
        rw [readNumeral, if_neg digit, if_neg alone,
          readFraction_eq_ok_iff.mpr places]
        simp only [bind, Except.bind, readPower_eq_ok_iff.mpr exponent]
        rfl

/-- A number is read just if the text spells a numeral that is not too great. -/
theorem readNumber_eq_ok_iff {negative : Bool} {cs rest : List Char}
    {v : Value} : readNumber negative cs = .ok (v, rest) ↔
      ∃ n, SpellsNumeral negative cs n rest ∧ n.value? = some v := by
  constructor
  · intro h
    obtain ⟨⟨n, behind⟩, hn, h⟩ := bind_eq_ok_iff.mp h
    simp only at h
    split at h
    · next value hvalue =>
      obtain ⟨rfl, rfl⟩ := Prod.mk.inj (Except.ok.inj h)
      exact ⟨n, readNumeral_eq_ok_iff.mp hn, hvalue⟩
    · cases h
  · rintro ⟨n, hn, hvalue⟩
    rw [readNumber, readNumeral_eq_ok_iff.mpr hn]
    simp only [bind, Except.bind, hvalue]
    rfl

/-- A numeral starts with a digit and takes it off the text. -/
theorem SpellsNumeral.head {negative : Bool} {cs rest : List Char}
    {n : Numeral} (h : SpellsNumeral negative cs n rest) :
    ∃ c more, cs = c :: more ∧ isDigit c = true := by
  obtain ⟨digits, -, -, -⟩ := h
  cases cs with
  | nil =>
      obtain ⟨rfl, -, some⟩ := spellsDigits_iff.mp digits
      exact absurd rfl some
  | cons c more => exact ⟨c, more, rfl, digits.head⟩

theorem SpellsDigits.shorter {cs row rest : List Char}
    (h : SpellsDigits cs row rest) : rest.length < cs.length := by
  obtain ⟨rfl, some, -, -⟩ := h
  have long := List.length_pos_iff.mpr some
  rw [List.length_append]
  omega

theorem SpellsFraction.length_le {cs rest : List Char}
    {fraction : Option (List Char)} (h : SpellsFraction cs fraction rest) :
    rest.length ≤ cs.length := by
  cases h with
  | missing h => exact Nat.le_refl _
  | digits row => exact Nat.le_succ_of_le (Nat.le_of_lt row.shorter)

theorem SpellsPower.length_le {cs rest : List Char}
    {power : Option (Bool × List Char)} (h : SpellsPower cs power rest) :
    rest.length ≤ cs.length := by
  cases h with
  | missing small capital => exact Nat.le_refl _
  | plain letter row =>
      have shorter := row.shorter
      simp only [List.length_cons]
      omega
  | plus letter row =>
      have shorter := row.shorter
      simp only [List.length_cons]
      omega
  | minus letter row =>
      have shorter := row.shorter
      simp only [List.length_cons]
      omega

theorem SpellsNumeral.shorter {negative : Bool} {cs rest : List Char}
    {n : Numeral} (h : SpellsNumeral negative cs n rest) :
    rest.length < cs.length := by
  obtain ⟨digits, -, places, exponent⟩ := h
  exact Nat.lt_of_le_of_lt (Nat.le_trans exponent.length_le places.length_le)
    digits.shorter

/-- A number is kept as a whole number or as one with a point. -/
theorem Numeral.value?_cases (n : Numeral) {v : Value} (h : n.value? = some v) :
    (∃ i, v = .whole i) ∨ ∃ negative x, v = .float negative x := by
  have float : ∀ x : Option Number.Binary64,
      x.map (Value.float n.negative) = some v →
        ∃ negative x, v = .float negative x := by
    intro x hx
    obtain ⟨y, -, rfl⟩ := Option.map_eq_some_iff.mp hx
    exact ⟨n.negative, y, rfl⟩
  unfold Numeral.value? at h
  simp only at h
  split at h
  · split at h
    · exact Or.inl ⟨_, (Option.some.inj h).symm⟩
    · split at h
      · exact Or.inl ⟨_, (Option.some.inj h).symm⟩
      · exact Or.inr (float _ h)
  · split at h
    · exact Or.inr (float _ h)
    · split at h
      · exact Or.inr (float _ h)
      · split at h
        · exact Or.inr ⟨_, _, (Option.some.inj h).symm⟩
        · cases h

theorem Numeral.value?_ne (n : Numeral) {v : Value} (h : n.value? = some v) :
    v ≠ .null ∧ (∀ items, v ≠ .list items) ∧ ∀ fields, v ≠ .object fields := by
  rcases n.value?_cases h with ⟨i, rfl⟩ | ⟨negative, x, rfl⟩ <;> simp

end Json

end IssuerAudit
