import IssuerAudit.Proofs.Json.Reading
/-!
Passing over a value: a value is passed over just if it is well formed, however
deep it is nested, and whatever stands behind it is left: `skipOne_eq_ok_iff`.
The machine keeps the enclosures that are open, and what it reaches the end of is
a value with all that closes these.
-/

namespace IssuerAudit.Json

theorem skipString_digit {c : Char} {n : Nat} (digit : Text.hexValue? c = some n)
    {count : Nat} (few : count < 3) (first : Option Nat) (value : Nat)
    (rest : List Char) :
    skipString (.code first count value) (c :: rest) =
      skipString (.code first (count + 1) value) rest := by
  rw [skipString]
  simp [digit, few]

theorem skipString_unit {cs a : List Char} {n : Nat} (h : SpellsUnit cs n a) :
    skipString (.code none 0 0) cs = skipString .plain a := by
  obtain ⟨hw, hx, hy, hz⟩ := h
  rw [skipString_digit hw (by decide), skipString_digit hx (by decide),
    skipString_digit hy (by decide), skipString]
  simp [hz]

theorem skipString_of_passes {cs rest : List Char} (h : PassesString cs rest) :
    skipString .plain cs = .ok rest := by
  induction h with
  | close => simp [skipString]
  | plain quote slash visible more ih =>
      simp [skipString, quote, slash, Nat.not_lt.mpr visible, ih]
  | escape letter more ih =>
      rename_i e cs rest
      have other : e ≠ 'u' := by
        rintro rfl
        simp [escaped?_u] at letter
      simp [skipString, letter, other, ih]
  | unit digits more ih => simpa [skipString, skipString_unit digits] using ih

/-- One digit of a code unit. -/
theorem exists_digit_of_skipString {first : Option Nat} {count value : Nat}
    {cs rest : List Char} (h : skipString (.code first count value) cs = .ok rest) :
    ∃ c n more, cs = c :: more ∧ Text.hexValue? c = some n := by
  cases cs with
  | nil =>
      rw [skipString] at h
      cases h
  | cons c more =>
      rw [skipString] at h
      split at h
      · cases h
      next digit =>
      obtain ⟨n, digit⟩ := Option.ne_none_iff_exists'.mp
        (mt Option.isNone_iff_eq_none.mpr digit)
      exact ⟨c, n, more, rfl, digit⟩

/-- Where the machine passes over a code unit the text spells one. -/
theorem spellsUnit_of_skipString {cs rest : List Char}
    (h : skipString (.code none 0 0) cs = .ok rest) :
    ∃ n a, SpellsUnit cs n a := by
  obtain ⟨a, w, rest, rfl, hw⟩ := exists_digit_of_skipString h
  rw [skipString_digit hw (by decide)] at h
  obtain ⟨b, x, rest, rfl, hx⟩ := exists_digit_of_skipString h
  rw [skipString_digit hx (by decide)] at h
  obtain ⟨c, y, rest, rfl, hy⟩ := exists_digit_of_skipString h
  rw [skipString_digit hy (by decide)] at h
  obtain ⟨d, z, rest, rfl, hz⟩ := exists_digit_of_skipString h
  exact ⟨_, rest, .mk hw hx hy hz⟩

theorem passes_of_skipString {cs rest : List Char}
    (h : skipString .plain cs = .ok rest) : PassesString cs rest := by
  -- the machine comes back to the spot it starts from with less of the text
  induction size : cs.length using Nat.strongRecOn generalizing cs with
  | ind size ih =>
      subst size
      cases cs with
      | nil => cases h
      | cons c cs =>
          unfold skipString at h
          dsimp only at h
          split at h
          · next quote =>
            obtain rfl := Except.ok.inj h
            rw [quote]
            exact .close
          next quote =>
          split at h
          · next slash =>
            rw [slash]
            cases cs with
            | nil => cases h
            | cons e cs =>
                rw [skipString] at h
                split at h
                · next letter =>
                  rw [letter]
                  obtain ⟨n, a, digits⟩ := spellsUnit_of_skipString h
                  have shorter := digits.shorter
                  rw [skipString_unit digits] at h
                  exact .unit digits
                    (ih a.length (by simp only [List.length_cons]; omega) h rfl)
                split at h
                · next letter =>
                  exact .escape letter
                    (ih cs.length (by simp only [List.length_cons]; omega) h rfl)
                · cases h
          next slash =>
          split at h
          · cases h
          next visible =>
          exact .plain quote slash (Nat.not_lt.mp visible)
            (ih cs.length (by simp only [List.length_cons]; omega) h rfl)

/-- A string is passed over from behind its opening quote just if it is well
formed. -/
theorem skipString_eq_ok_iff {cs rest : List Char} :
    skipString .plain cs = .ok rest ↔ PassesString cs rest :=
  ⟨passes_of_skipString, skipString_of_passes⟩

theorem PassesString.shorter {cs rest : List Char} (h : PassesString cs rest) :
    rest.length < cs.length := by
  induction h with
  | close => exact Nat.lt_succ_self _
  | plain quote slash visible more ih => exact Nat.lt_succ_of_lt ih
  | escape letter more ih => exact Nat.lt_succ_of_lt (Nat.lt_succ_of_lt ih)
  | unit digits more ih =>
      have size := digits.shorter
      simp only [List.length_cons]
      omega

/-- Whatever is passed over takes something off the text. -/
theorem Passes.shorter {s : Stretch} {cs rest : List Char}
    (h : Passes s cs rest) : rest.length < cs.length := by
  induction h with
  | null h | true h | false h =>
      have size := lt_of_skipSpace h
      simp only [List.length_cons] at size
      omega
  | negative sign numeral =>
      exact Nat.lt_trans numeral.shorter (lt_of_skipSpace sign)
  | number numeral =>
      exact Nat.lt_of_lt_of_le numeral.shorter (length_skipSpace_le _)
  | string quote string =>
      exact Nat.lt_trans string.shorter (lt_of_skipSpace quote)
  | emptyList open_ close | emptyObject open_ close =>
      exact Nat.lt_trans (lt_of_skipSpace close) (lt_of_skipSpace open_)
  | list front here more ih more_ih | object front here more ih more_ih
  | nextItem front here more ih more_ih | nextField front here more ih more_ih =>
      exact Nat.lt_trans (Nat.lt_trans more_ih ih) (lt_of_skipSpace front)
  | field quote key colon value ih =>
      have behind := Nat.lt_trans ih (lt_of_skipSpace colon)
      exact Nat.lt_trans (Nat.lt_trans behind key.shorter) (lt_of_skipSpace quote)
  | listEnd close | objectEnd close => exact lt_of_skipSpace close

/-- Blanks in front of a stretch do not matter. -/
theorem Passes.of_skipSpace {s : Stretch} {cs rest : List Char}
    (h : Passes s (skipSpace cs) rest) : Passes s cs rest := by
  have same := skipSpace_skipSpace cs
  cases h with
  | null h => exact .null (same.symm.trans h)
  | true h => exact .true (same.symm.trans h)
  | false h => exact .false (same.symm.trans h)
  | negative sign numeral => exact .negative (same.symm.trans sign) numeral
  | number numeral => exact .number (same ▸ numeral)
  | string quote string => exact .string (same.symm.trans quote) string
  | emptyList bracket close => exact .emptyList (same.symm.trans bracket) close
  | list bracket item more => exact .list (same.symm.trans bracket) item more
  | emptyObject brace close => exact .emptyObject (same.symm.trans brace) close
  | object brace field more => exact .object (same.symm.trans brace) field more
  | field quote key colon value =>
      exact .field (same.symm.trans quote) key colon value
  | listEnd bracket => exact .listEnd (same.symm.trans bracket)
  | nextItem comma item more => exact .nextItem (same.symm.trans comma) item more
  | objectEnd brace => exact .objectEnd (same.symm.trans brace)
  | nextField comma field more =>
      exact .nextField (same.symm.trans comma) field more

/-- How a stretch is passed over. -/
def Stretch.skip (fuel : Nat) (around : List Enclosure) (cs : List Char) :
    Stretch → Except Fault (List Char)
  | .value => skipValue fuel around cs
  | .field => skipField fuel around cs
  | .listRest => skipRest fuel (.list :: around) cs
  | .objectRest => skipRest fuel (.object :: around) cs

/-- What an enclosure has between its commas. -/
def Enclosure.part : Enclosure → Stretch
  | .list => .value
  | .object => .field

/-- The stretch that is left of an enclosure behind one of its parts. -/
def Enclosure.rest : Enclosure → Stretch
  | .list => .listRest
  | .object => .objectRest

/-- Holds of a text that ends the enclosures, innermost first, and of what stands
behind the last one. -/
def Closes : List Enclosure → List Char → List Char → Prop
  | [], cs, rest => cs = rest
  | e :: around, cs, rest => ∃ b, Passes e.rest cs b ∧ Closes around b rest

/-- A value is passed over at once, or what is passed over is inside of it. -/
theorem skipValue_cases {fuel : Nat} {around : List Enclosure}
    {cs rest : List Char} (h : skipValue (fuel + 1) around cs = .ok rest) :
    (∃ b, Passes .value cs b ∧ skipRest fuel around b = .ok rest) ∨
      (∃ a, skipSpace cs = '[' :: a ∧
        skipValue fuel (.list :: around) (skipSpace a) = .ok rest) ∨
      ∃ a, skipSpace cs = '\x7b' :: a ∧
        skipField fuel (.object :: around) (skipSpace a) = .ok rest := by
  unfold skipValue at h
  split at h
  · cases h
  next c more text =>
  extract_lets next at h
  have one : ∀ after : Except Fault (List Char), next after = .ok rest →
      ∃ b, after = .ok b ∧ skipRest fuel around b = .ok rest := by
    intro after ha
    simp only [next] at ha
    split at ha
    · cases ha
    · exact ⟨_, rfl, ha⟩
  clear_value next
  split at h
  · next letter =>
    obtain ⟨b, word, behind⟩ := one _ h
    rw [letter, readWord_eq_ok_iff.mp word] at text
    exact Or.inl ⟨b, .null text, behind⟩
  split at h
  · next letter =>
    obtain ⟨b, word, behind⟩ := one _ h
    rw [letter, readWord_eq_ok_iff.mp word] at text
    exact Or.inl ⟨b, .true text, behind⟩
  split at h
  · next letter =>
    obtain ⟨b, word, behind⟩ := one _ h
    rw [letter, readWord_eq_ok_iff.mp word] at text
    exact Or.inl ⟨b, .false text, behind⟩
  split at h
  · next sign =>
    obtain ⟨b, read, behind⟩ := one _ h
    obtain ⟨⟨n, _⟩, numeral, rfl⟩ := map_eq_ok_iff.mp read
    rw [sign] at text
    exact Or.inl ⟨_, .negative text (readNumeral_eq_ok_iff.mp numeral), behind⟩
  split at h
  · obtain ⟨b, read, behind⟩ := one _ h
    obtain ⟨⟨n, _⟩, numeral, rfl⟩ := map_eq_ok_iff.mp read
    rw [← text] at numeral
    exact Or.inl ⟨_, .number (readNumeral_eq_ok_iff.mp numeral), behind⟩
  split at h
  · next quote =>
    obtain ⟨b, string, behind⟩ := one _ h
    rw [quote] at text
    exact Or.inl ⟨b, .string text (skipString_eq_ok_iff.mp string), behind⟩
  split at h
  · next bracket =>
    rw [bracket] at text
    split at h
    · cases h
    next d inner inside =>
    split at h
    · next close =>
      rw [close] at inside
      exact Or.inl ⟨inner, .emptyList text inside, h⟩
    · rw [← inside] at h
      exact Or.inr (Or.inl ⟨more, text, h⟩)
  split at h
  · next brace =>
    rw [brace] at text
    split at h
    · cases h
    next d inner inside =>
    split at h
    · next close =>
      rw [close] at inside
      exact Or.inl ⟨inner, .emptyObject text inside, h⟩
    · rw [← inside] at h
      exact Or.inr (Or.inr ⟨more, text, h⟩)
  · cases h

/-- A field is passed over behind its key. -/
theorem skipField_cases {fuel : Nat} {around : List Enclosure}
    {cs rest : List Char} (h : skipField (fuel + 1) around cs = .ok rest) :
    ∃ a b c, skipSpace cs = '"' :: a ∧ PassesString a b ∧
      skipSpace b = ':' :: c ∧ skipValue fuel around c = .ok rest := by
  rw [skipField] at h
  split at h
  · cases h
  next c more text =>
  split at h
  · next quote =>
    rw [quote] at text
    split at h
    · cases h
    next b key =>
    split at h
    · cases h
    next d behind colon =>
    split at h
    · next mark =>
      rw [mark] at colon
      exact ⟨more, b, behind, text, skipString_eq_ok_iff.mp key, colon, h⟩
    · cases h
  · cases h

/-- The innermost enclosure ends, or another part of it comes behind a comma. -/
theorem skipRest_cases {fuel : Nat} {e : Enclosure} {around : List Enclosure}
    {cs rest : List Char}
    (h : skipRest (fuel + 1) (e :: around) cs = .ok rest) :
    (∃ b, Passes e.rest cs b ∧ skipRest fuel around b = .ok rest) ∨
      ∃ a, skipSpace cs = ',' :: a ∧
        e.part.skip fuel (e :: around) a = .ok rest := by
  cases e with
  | list =>
      rw [skipRest] at h
      split at h
      · cases h
      next c more text =>
      split at h
      · next comma => exact Or.inr ⟨more, by rw [text, comma], h⟩
      split at h
      · next close => exact Or.inl ⟨more, .listEnd (by rw [text, close]), h⟩
      · cases h
  | object =>
      rw [skipRest] at h
      split at h
      · cases h
      next c more text =>
      split at h
      · next comma => exact Or.inr ⟨more, by rw [text, comma], h⟩
      split at h
      · next close => exact Or.inl ⟨more, .objectEnd (by rw [text, close]), h⟩
      · cases h

theorem Passes.next {e : Enclosure} {cs a b rest : List Char}
    (comma : skipSpace cs = ',' :: a) (here : Passes e.part a b)
    (more : Passes e.rest b rest) : Passes e.rest cs rest := by
  cases e with
  | list => exact .nextItem comma here more
  | object => exact .nextField comma here more

/-- Within any number of steps nothing is passed over but what is well formed. -/
theorem passes_of_skip (fuel : Nat) {s : Stretch} {around : List Enclosure}
    {cs rest : List Char} (h : s.skip fuel around cs = .ok rest) :
    ∃ b, Passes s cs b ∧ Closes around b rest := by
  induction fuel generalizing s around cs with
  | zero => cases s <;> cases h
  | succ fuel ih =>
      have closes : ∀ {around : List Enclosure} {b : List Char},
          skipRest fuel around b = .ok rest → Closes around b rest := by
        intro around b behind
        cases around with
        | nil =>
            rw [skipRest] at behind
            exact Except.ok.inj behind
        | cons e around =>
            have same : e.rest.skip fuel around b = .ok rest := by
              cases e <;> exact behind
            exact ih same
      have rests : ∀ {e : Enclosure},
          skipRest (fuel + 1) (e :: around) cs = .ok rest →
            ∃ b, Passes e.rest cs b ∧ Closes around b rest := by
        intro e h
        rcases skipRest_cases h with ⟨b, here, behind⟩ | ⟨a, comma, inside⟩
        · exact ⟨b, here, closes behind⟩
        · obtain ⟨b, here, c, more, out⟩ := ih inside
          exact ⟨c, .next comma here more, out⟩
      cases s with
      | value =>
          rcases skipValue_cases h with ⟨b, here, behind⟩ |
            ⟨a, bracket, inside⟩ | ⟨a, brace, inside⟩
          · exact ⟨b, here, closes behind⟩
          · obtain ⟨b, item, c, more, out⟩ := ih (s := .value) inside
            exact ⟨c, .list bracket item.of_skipSpace more, out⟩
          · obtain ⟨b, field, c, more, out⟩ := ih (s := .field) inside
            exact ⟨c, .object brace field.of_skipSpace more, out⟩
      | field =>
          obtain ⟨a, b, c, quote, key, colon, inside⟩ := skipField_cases h
          obtain ⟨d, value, out⟩ := ih (s := .value) inside
          exact ⟨d, .field quote key colon value, out⟩
      | listRest => exact rests (e := .list) h
      | objectRest => exact rests (e := .object) h

theorem skipValue_skipSpace (fuel : Nat) (around : List Enclosure)
    (cs : List Char) :
    skipValue (fuel + 1) around (skipSpace cs) =
      skipValue (fuel + 1) around cs := by
  rw [skipValue, skipValue, skipSpace_skipSpace]

theorem skipField_skipSpace (fuel : Nat) (around : List Enclosure)
    (cs : List Char) :
    skipField (fuel + 1) around (skipSpace cs) =
      skipField (fuel + 1) around cs := by
  rw [skipField, skipField, skipSpace_skipSpace]

/-- Neither a value nor a field starts with the word that ends an enclosure. -/
theorem Passes.exists_head {cs rest : List Char} (h : Passes .value cs rest) :
    ∃ c more, skipSpace cs = c :: more ∧ c ≠ ']' := by
  cases h with
  | null h | true h | false h => exact ⟨_, _, h, by decide⟩
  | negative sign numeral => exact ⟨_, _, sign, by decide⟩
  | number numeral =>
      obtain ⟨c, more, text, digit⟩ := numeral.head
      exact ⟨c, more, text, isDigit_ne digit (by decide)⟩
  | string quote string => exact ⟨_, _, quote, by decide⟩
  | emptyList front close | emptyObject front close | list front | object front =>
      exact ⟨_, _, front, by decide⟩

/-- Where passing over a stretch goes on: behind it, in the same enclosures, and
with at least as many steps left as there are characters. -/
def Stretch.Skipped (s : Stretch) (cs rest : List Char) : Prop :=
  ∀ (fuel : Nat) (around : List Enclosure), cs.length ≤ fuel →
    ∃ left, rest.length ≤ left ∧ s.skip fuel around cs = skipRest left around rest

theorem skipped_of_step {s : Stretch} {cs rest : List Char}
    (shorter : rest.length < cs.length)
    (h : ∀ (fuel : Nat) (around : List Enclosure),
      s.skip (fuel + 1) around cs = skipRest fuel around rest) :
    s.Skipped cs rest := by
  intro fuel around enough
  obtain ⟨left, rfl⟩ : ∃ left, fuel = left + 1 :=
    Nat.exists_eq_succ_of_ne_zero (by omega)
  exact ⟨left, by omega, h left around⟩

/-- A step into an enclosure, over one of its parts and over the rest of it. -/
theorem skipped_through {s part : Stretch} (e : Enclosure)
    {cs a b rest : List Char} (shorter : a.length < cs.length)
    (into : ∀ (fuel : Nat) (around : List Enclosure), a.length ≤ fuel →
      s.skip (fuel + 1) around cs = part.skip fuel (e :: around) a)
    (here : part.Skipped a b) (more : e.rest.Skipped b rest) :
    s.Skipped cs rest := by
  intro fuel around enough
  obtain ⟨left, rfl⟩ : ∃ left, fuel = left + 1 :=
    Nat.exists_eq_succ_of_ne_zero (by omega)
  obtain ⟨behind, more_enough, past⟩ := here left (e :: around) (by omega)
  obtain ⟨last, last_enough, out⟩ := more behind around more_enough
  have inside : e.rest.skip behind around b = skipRest behind (e :: around) b := by
    cases e <;> rfl
  refine ⟨last, last_enough, ?_⟩
  calc
    s.skip (left + 1) around cs = part.skip left (e :: around) a :=
      into left around (by omega)
    _ = skipRest behind (e :: around) b := past
    _ = skipRest last around rest := inside.symm.trans out

theorem skipValue_of_digit {cs more : List Char} {c : Char}
    (text : skipSpace cs = c :: more) (digit : isDigit c = true) {n : Numeral}
    {rest : List Char} (numeral : readNumeral false (c :: more) = .ok (n, rest))
    (fuel : Nat) (around : List Enclosure) :
    skipValue (fuel + 1) around cs = skipRest fuel around rest := by
  have n : c ≠ 'n' := isDigit_ne digit (by decide)
  have t : c ≠ 't' := isDigit_ne digit (by decide)
  have f : c ≠ 'f' := isDigit_ne digit (by decide)
  have sign : c ≠ '-' := isDigit_ne digit (by decide)
  rw [skipValue]
  simp only [text, n, t, f, sign, digit, numeral, if_false, if_true, Except.map]

/-- Into a list that has an item. -/
theorem skipValue_list {cs a b : List Char} (front : skipSpace cs = '[' :: a)
    (here : Passes .value a b) {fuel : Nat} (enough : a.length ≤ fuel)
    (around : List Enclosure) :
    skipValue (fuel + 1) around cs = skipValue fuel (.list :: around) a := by
  have size := here.shorter
  obtain ⟨left, rfl⟩ : ∃ left, fuel = left + 1 :=
    Nat.exists_eq_succ_of_ne_zero (by omega)
  obtain ⟨c, more, text, apart⟩ := here.exists_head
  rw [← skipValue_skipSpace left (.list :: around) a, text, skipValue]
  simp [front, text, apart, isDigit]

/-- Into an object that has a field. -/
theorem skipValue_object {cs a b : List Char}
    (front : skipSpace cs = '\x7b' :: a) (here : Passes .field a b) {fuel : Nat}
    (enough : a.length ≤ fuel) (around : List Enclosure) :
    skipValue (fuel + 1) around cs = skipField fuel (.object :: around) a := by
  have size := here.shorter
  obtain ⟨left, rfl⟩ : ∃ left, fuel = left + 1 :=
    Nat.exists_eq_succ_of_ne_zero (by omega)
  cases here with
  | field quote key colon value =>
      rw [← skipField_skipSpace left (.object :: around) a, quote, skipValue]
      simp [front, quote, isDigit]

/-- A well-formed stretch is passed over. -/
theorem Passes.skipped {s : Stretch} {cs rest : List Char}
    (h : Passes s cs rest) : s.Skipped cs rest := by
  induction h with
  | null h =>
      refine skipped_of_step (Passes.null h).shorter fun fuel around => ?_
      simp [Stretch.skip, skipValue, h, readWord]
  | true h =>
      refine skipped_of_step (Passes.true h).shorter fun fuel around => ?_
      simp [Stretch.skip, skipValue, h, readWord]
  | false h =>
      refine skipped_of_step (Passes.false h).shorter fun fuel around => ?_
      simp [Stretch.skip, skipValue, h, readWord]
  | negative sign numeral =>
      refine skipped_of_step (Passes.negative sign numeral).shorter
        fun fuel around => ?_
      have read := readNumeral_eq_ok_iff.mpr numeral
      simp [Stretch.skip, skipValue, sign, read, Except.map]
  | number numeral =>
      refine skipped_of_step (Passes.number numeral).shorter
        fun fuel around => ?_
      obtain ⟨c, more, text, digit⟩ := numeral.head
      rw [text] at numeral
      exact skipValue_of_digit text digit (readNumeral_eq_ok_iff.mpr numeral)
        fuel around
  | string quote string =>
      refine skipped_of_step (Passes.string quote string).shorter
        fun fuel around => ?_
      simp [Stretch.skip, skipValue, quote, skipString_eq_ok_iff.mpr string,
        isDigit]
  | emptyList front close =>
      refine skipped_of_step (Passes.emptyList front close).shorter
        fun fuel around => ?_
      simp [Stretch.skip, skipValue, front, close, isDigit]
  | emptyObject front close =>
      refine skipped_of_step (Passes.emptyObject front close).shorter
        fun fuel around => ?_
      simp [Stretch.skip, skipValue, front, close, isDigit]
  | list front here more ih more_ih =>
      refine skipped_through .list (lt_of_skipSpace front) ?_ ih more_ih
      intro fuel around enough
      exact skipValue_list front here enough around
  | object front here more ih more_ih =>
      refine skipped_through .object (lt_of_skipSpace front) ?_ ih more_ih
      intro fuel around enough
      exact skipValue_object front here enough around
  | @field cs a b c rest quote key colon value ih =>
      intro fuel around enough
      have size := lt_of_skipSpace quote
      have inner := key.shorter
      have behind := lt_of_skipSpace colon
      obtain ⟨left, rfl⟩ : ∃ left, fuel = left + 1 :=
        Nat.exists_eq_succ_of_ne_zero (by omega)
      have into : skipField (left + 1) around cs = skipValue left around c := by
        simp [skipField, quote, skipString_eq_ok_iff.mpr key, colon]
      obtain ⟨last, last_enough, whole⟩ := ih left around (by omega)
      exact ⟨last, last_enough, into.trans whole⟩
  | listEnd close =>
      refine skipped_of_step (lt_of_skipSpace close) fun fuel around => ?_
      simp [Stretch.skip, skipRest, close]
  | objectEnd close =>
      refine skipped_of_step (lt_of_skipSpace close) fun fuel around => ?_
      simp [Stretch.skip, skipRest, close]
  | nextItem comma here more ih more_ih =>
      refine skipped_through .list (lt_of_skipSpace comma) ?_ ih more_ih
      intro fuel around enough
      simp [Stretch.skip, skipRest, comma]
  | nextField comma here more ih more_ih =>
      refine skipped_through .object (lt_of_skipSpace comma) ?_ ih more_ih
      intro fuel around enough
      simp [Stretch.skip, skipRest, comma]

/-- A value is passed over just if it is well formed. -/
theorem skipOne_eq_ok_iff {cs rest : List Char} :
    skipOne cs = .ok rest ↔ Passes .value cs rest := by
  constructor
  · intro h
    obtain ⟨b, value, same⟩ := passes_of_skip (budget cs) (s := .value) h
    obtain rfl : b = rest := same
    exact value
  · intro h
    obtain ⟨left, -, past⟩ := h.skipped (budget cs) [] (by rw [budget]; omega)
    have out : skipRest left [] rest = .ok rest := by
      rw [skipRest]
    exact past.trans out

end IssuerAudit.Json
