import IssuerAudit.Json.Grammar
/-!
Strings are read just as the grammar spells them: `readString_eq_ok_iff`.  The
machine is followed from one character of the string to the next, over all the
spots that it passes in between.
-/

namespace IssuerAudit.Json

theorem escaped?_u : escaped? 'u' = none := by
  decide

/-- One digit of a code unit. -/
theorem readString_digit {first : Option Nat} {count value : Nat}
    {read cs : List Char} {x : List Char × List Char}
    (h : readString (.code first count value) read cs = .ok x) :
    ∃ c d rest, cs = c :: rest ∧ Text.hexValue? c = some d := by
  cases cs with
  | nil =>
      rw [readString] at h
      cases h
  | cons c rest =>
      rw [readString] at h
      split at h
      · cases h
      · next d hd => exact ⟨c, d, rest, rfl, hd⟩

theorem readString_digit_eq {first : Option Nat} {count value d : Nat}
    {read rest : List Char} {c : Char} (hd : Text.hexValue? c = some d)
    (hcount : count < 3) :
    readString (.code first count value) read (c :: rest) =
      readString (.code first (count + 1) (value * 16 + d)) read rest := by
  rw [readString]
  simp [hd, hcount]

/-- Where the machine reads a code unit the text spells one. -/
theorem spellsUnit_of_readString {first : Option Nat} {read cs : List Char}
    {x : List Char × List Char}
    (h : readString (.code first 0 0) read cs = .ok x) :
    ∃ n a, SpellsUnit cs n a := by
  obtain ⟨a, w, rest, rfl, hw⟩ := readString_digit h
  rw [readString_digit_eq hw (by decide)] at h
  obtain ⟨b, x, rest, rfl, hx⟩ := readString_digit h
  rw [readString_digit_eq hx (by decide)] at h
  obtain ⟨c, y, rest, rfl, hy⟩ := readString_digit h
  rw [readString_digit_eq hy (by decide)] at h
  obtain ⟨d, z, rest, rfl, hz⟩ := readString_digit h
  exact ⟨_, rest, .mk hw hx hy hz⟩

/-- A code unit is read to its end, and what it is decides how to go on. -/
theorem readString_unit {cs a : List Char} {n : Nat} (h : SpellsUnit cs n a)
    (first : Option Nat) (read : List Char) :
    readString (.code first 0 0) read cs =
      match finishCode first n with
      | .ok (.inl c) => readString .plain (c :: read) a
      | .ok (.inr first) => readString (.pair first) read a
      | .error cause => .error (.here cause a) := by
  obtain ⟨hw, hx, hy, hz⟩ := h
  rw [readString_digit_eq hw (by decide), readString_digit_eq hx (by decide),
    readString_digit_eq hy (by decide), readString]
  rcases finished : finishCode first _ with cause | c | half <;>
    simp [hz, finished]

/-- What a code unit that does not follow half of a pair may be. -/
theorem finishCode_none_eq_ok {n : Nat} {r : Sum Char Nat}
    (h : finishCode none n = .ok r) :
    isSecondHalf n = false ∧
      (isFirstHalf n = false ∧ r = .inl (Char.ofNat n) ∨
        isFirstHalf n = true ∧ r = .inr n) := by
  unfold finishCode at h
  cases second : isSecondHalf n with
  | true => simp [second] at h
  | false =>
      cases first : isFirstHalf n with
      | true => simp_all
      | false => simp_all

theorem finishCode_some_eq_ok {m n : Nat} {r : Sum Char Nat}
    (h : finishCode (some m) n = .ok r) :
    isSecondHalf n = true ∧ r = .inl (ofPair m n) := by
  unfold finishCode at h
  cases second : isSecondHalf n with
  | true => simp_all
  | false => simp [second] at h

/-- Behind the first half of a pair its second half is read. -/
theorem readString_pair {m : Nat} {read cs : List Char}
    {x : List Char × List Char} (h : readString (.pair m) read cs = .ok x) :
    ∃ a n b, cs = '\\' :: 'u' :: a ∧ SpellsUnit a n b ∧
      isSecondHalf n = true ∧
      readString .plain (ofPair m n :: read) b = .ok x := by
  cases cs with
  | nil =>
      rw [readString] at h
      · cases h
      · simp
  | cons c cs =>
      rw [readString] at h
      split at h
      · next slash =>
        cases cs with
        | nil =>
            rw [readString] at h
            · cases h
            · simp
        | cons d cs =>
            rw [readString] at h
            split at h
            · next letter =>
              subst slash letter
              obtain ⟨n, b, unit⟩ := spellsUnit_of_readString h
              rw [readString_unit unit] at h
              split at h
              · next hr =>
                obtain ⟨second, same⟩ := finishCode_some_eq_ok hr
                rw [Sum.inl.inj same] at h
                exact ⟨cs, n, b, rfl, unit, second, h⟩
              · next hr => cases (finishCode_some_eq_ok hr).2
              · cases h
            · cases h
      · cases h

theorem readString_pair_eq {m n : Nat} {a b : List Char}
    (unit : SpellsUnit a n b) (second : isSecondHalf n = true)
    (read : List Char) :
    readString (.pair m) read ('\\' :: 'u' :: a) =
      readString .plain (ofPair m n :: read) b := by
  rw [readString, if_pos rfl, readString, if_pos rfl, readString_unit unit,
    finishCode, if_pos second]

theorem readString_of_spells {cs s rest : List Char}
    (h : SpellsString cs s rest) (read : List Char) :
    readString .plain read cs = .ok (read.reverse ++ s, rest) := by
  induction h generalizing read with
  | close => simp [readString]
  | plain quote slash visible more ih =>
      rw [readString, if_neg quote, if_neg slash,
        if_neg (Nat.not_lt.mpr visible), ih]
      simp
  | @escape e c cs s rest letter more ih =>
      have other : e ≠ 'u' := by
        rintro rfl
        cases escaped?_u.symm.trans letter
      rw [readString, if_neg (by decide), if_pos rfl, readString,
        if_neg other]
      simp only [letter]
      rw [ih]
      simp
  | @unit n cs a s rest digits first second more ih =>
      have whole : finishCode none n = .ok (.inl (Char.ofNat n)) := by
        rw [finishCode, if_neg (by simp [second]), if_neg (by simp [first])]
      rw [readString, if_neg (by decide), if_pos rfl, readString, if_pos rfl,
        readString_unit digits, whole]
      simp only
      rw [ih]
      simp
  | @pair m n cs a b s rest front first back second more ih =>
      -- no code unit is both halves of a pair
      have single : isSecondHalf m = false := by
        simp only [isFirstHalf, isSecondHalf, Bool.and_eq_true,
          Bool.and_eq_false_iff, decide_eq_true_eq, decide_eq_false_iff_not]
          at first ⊢
        omega
      have half : finishCode none m = .ok (.inr m) := by
        rw [finishCode, if_neg (by simp [single]), if_pos first]
      rw [readString, if_neg (by decide), if_pos rfl, readString, if_pos rfl,
        readString_unit front, half]
      simp only
      rw [readString_pair_eq back second, ih]
      simp

theorem SpellsUnit.shorter {cs a : List Char} {n : Nat}
    (h : SpellsUnit cs n a) : a.length < cs.length := by
  obtain ⟨-, -, -, -⟩ := h
  simp only [List.length_cons]
  omega

theorem spells_of_readString {cs read s rest : List Char}
    (h : readString .plain read cs = .ok (s, rest)) :
    ∃ t, SpellsString cs t rest ∧ s = read.reverse ++ t := by
  -- the machine comes back to the spot it starts from with less of the text
  induction size : cs.length using Nat.strongRecOn
    generalizing cs read with
  | ind size ih =>
      subst size
      have step : ∀ {a : List Char} {d : Char}, a.length < cs.length →
          readString .plain (d :: read) a = .ok (s, rest) →
            ∃ t, SpellsString a t rest ∧ s = read.reverse ++ d :: t := by
        intro a d shorter hmore
        obtain ⟨t, spelled, rfl⟩ := ih a.length shorter hmore rfl
        exact ⟨t, spelled, by simp⟩
      cases cs with
      | nil =>
          rw [readString] at h
          · cases h
          · simp
      | cons c cs =>
          rw [readString] at h
          split at h
          · next quote =>
            subst quote
            obtain ⟨rfl, rfl⟩ := Prod.mk.inj (Except.ok.inj h)
            exact ⟨[], .close, by simp⟩
          next quote =>
          split at h
          · next slash =>
            subst slash
            cases cs with
            | nil =>
                rw [readString] at h
                · cases h
                · simp
            | cons e cs =>
                rw [readString] at h
                split at h
                · next letter =>
                  subst letter
                  obtain ⟨n, a, unit⟩ := spellsUnit_of_readString h
                  have shorter := unit.shorter
                  rw [readString_unit unit] at h
                  split at h
                  · next hr =>
                    obtain ⟨second, ⟨first, same⟩ | ⟨-, same⟩⟩ :=
                      finishCode_none_eq_ok hr
                    · obtain rfl := Sum.inl.inj same
                      obtain ⟨t, spelled, rfl⟩ :=
                        step (by simp only [List.length_cons]; omega) h
                      exact ⟨_, .unit unit first second spelled, rfl⟩
                    · cases same
                  · next hr =>
                    obtain ⟨-, ⟨-, same⟩ | ⟨first, same⟩⟩ :=
                      finishCode_none_eq_ok hr
                    · cases same
                    · obtain rfl := Sum.inr.inj same
                      obtain ⟨b, m, d, rfl, back, second, h⟩ :=
                        readString_pair h
                      have shorter' := back.shorter
                      simp only [List.length_cons] at shorter
                      obtain ⟨t, spelled, rfl⟩ :=
                        step (by simp only [List.length_cons]; omega) h
                      exact ⟨_, .pair unit first back second spelled, rfl⟩
                  · cases h
                · split at h
                  · next letter =>
                    obtain ⟨t, spelled, rfl⟩ :=
                      step (by simp only [List.length_cons]; omega) h
                    exact ⟨_, .escape letter spelled, rfl⟩
                  · cases h
          next slash =>
          split at h
          · cases h
          next visible =>
          obtain ⟨t, spelled, rfl⟩ :=
            step (by simp only [List.length_cons]; omega) h
          exact ⟨_, .plain quote slash (Nat.not_lt.mp visible) spelled, rfl⟩

/-- A string is read from behind its opening quote just if the text spells it. -/
theorem readString_eq_ok_iff {cs s rest : List Char} :
    readString .plain [] cs = .ok (s, rest) ↔ SpellsString cs s rest := by
  constructor
  · intro h
    obtain ⟨t, spelled, rfl⟩ := spells_of_readString h
    exact spelled
  · intro h
    exact readString_of_spells h []

theorem SpellsString.shorter {cs s rest : List Char}
    (h : SpellsString cs s rest) : rest.length < cs.length := by
  induction h with
  | close => exact Nat.lt_succ_self _
  | plain quote slash visible more ih => exact Nat.lt_succ_of_lt ih
  | escape letter more ih => exact Nat.lt_succ_of_lt (Nat.lt_succ_of_lt ih)
  | unit digits first second more ih =>
      have shorter := digits.shorter
      simp only [List.length_cons]
      omega
  | pair front first back second more ih =>
      have before := front.shorter
      have behind := back.shorter
      simp only [List.length_cons] at before ⊢
      omega

end IssuerAudit.Json
