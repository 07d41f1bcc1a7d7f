import IssuerAudit.Proofs.Json.Numerals
import IssuerAudit.Proofs.Json.Strings
/-!
Reading keeps exactly what the grammar spells: `readValue_eq_ok_iff` and
`readFields_eq_ok_iff`.  One direction follows the reader step by step, the other
one the derivation; the budget of the reader is enough for every derivation.
-/

namespace IssuerAudit

/-- What a reader with a function behind it gives. -/
theorem map_eq_ok_iff {ε α β : Type} {f : α → β} {x : Except ε α} {y : β} :
    x.map f = .ok y ↔ ∃ a, x = .ok a ∧ f a = y := by
  cases x with
  | error e => simp [Except.map]
  | ok a => simp [Except.map]

namespace Json

theorem skipSpace_skipSpace (cs : List Char) :
    skipSpace (skipSpace cs) = skipSpace cs := by
  unfold skipSpace
  induction cs with
  | nil => rfl
  | cons c cs ih =>
      by_cases h : isSpace c = true
      · rw [List.dropWhile_cons_of_pos h, ih]
      · rw [List.dropWhile_cons_of_neg h, List.dropWhile_cons_of_neg h]

theorem length_skipSpace_le (cs : List Char) :
    (skipSpace cs).length ≤ cs.length :=
  (List.dropWhile_suffix isSpace).length_le

/-- What stands behind the first word is shorter than the text. -/
theorem lt_of_skipSpace {cs rest : List Char} {c : Char}
    (h : skipSpace cs = c :: rest) : rest.length < cs.length := by
  have size := length_skipSpace_le cs
  rw [h, List.length_cons] at size
  exact size

theorem readWord_eq_ok_iff {word cs rest : List Char} :
    readWord word cs = .ok rest ↔ cs = word ++ rest := by
  induction word generalizing cs with
  | nil => simp [readWord]
  | cons e word ih =>
      cases cs with
      | nil => simp [readWord]
      | cons c cs =>
          rw [readWord]
          by_cases h : c = e
          · simp [h, ih]
          · simp [h]

theorem SpellsKey.shorter {first : Bool} {cs rest : List Char} {key : String}
    (h : SpellsKey first cs key rest) : rest.length < cs.length := by
  induction h with
  | first quote name colon =>
      have before := lt_of_skipSpace quote
      have inside := name.shorter
      have behind := lt_of_skipSpace colon
      omega
  | next comma field ih =>
      have before := lt_of_skipSpace comma
      omega

/-- Whatever is spelled takes something off the text. -/
theorem Spells.shorter {room : Nat} {part : Part} {cs rest : List Char}
    (h : Spells room part cs rest) : rest.length < cs.length := by
  induction h with
  | null h | true h | false h =>
      have size := lt_of_skipSpace h
      simp only [List.length_cons] at size
      omega
  | negative sign numeral fits =>
      exact Nat.lt_trans numeral.shorter (lt_of_skipSpace sign)
  | number numeral fits =>
      exact Nat.lt_of_lt_of_le numeral.shorter (length_skipSpace_le _)
  | string quote string =>
      exact Nat.lt_trans string.shorter (lt_of_skipSpace quote)
  | list bracket inside ih => exact Nat.lt_trans ih (lt_of_skipSpace bracket)
  | object brace inside ih => exact Nat.lt_trans ih (lt_of_skipSpace brace)
  | noItems bracket => exact lt_of_skipSpace bracket
  | firstItem value more value_ih more_ih => exact Nat.lt_trans more_ih value_ih
  | nextItem comma value more value_ih more_ih =>
      exact Nat.lt_trans (Nat.lt_trans more_ih value_ih) (lt_of_skipSpace comma)
  | noFields brace => exact lt_of_skipSpace brace
  | field name value more value_ih more_ih =>
      exact Nat.lt_trans (Nat.lt_trans more_ih value_ih) name.shorter

/-- Blanks in front of a value do not matter. -/
theorem Spells.of_skipSpace {room : Nat} {v : Value} {cs rest : List Char}
    (h : Spells room (.value v) (skipSpace cs) rest) :
    Spells room (.value v) cs rest := by
  cases h with
  | null h => exact .null (by rwa [skipSpace_skipSpace] at h)
  | true h => exact .true (by rwa [skipSpace_skipSpace] at h)
  | false h => exact .false (by rwa [skipSpace_skipSpace] at h)
  | negative sign numeral fits =>
      exact .negative (by rwa [skipSpace_skipSpace] at sign) numeral fits
  | number numeral fits =>
      exact .number (by rwa [skipSpace_skipSpace] at numeral) fits
  | string quote string =>
      exact .string (by rwa [skipSpace_skipSpace] at quote) string
  | list bracket inside =>
      exact .list (by rwa [skipSpace_skipSpace] at bracket) inside
  | object brace inside =>
      exact .object (by rwa [skipSpace_skipSpace] at brace) inside

theorem spells_null_iff {room : Nat} {cs rest : List Char} :
    Spells room (.value .null) cs rest ↔
      skipSpace cs = 'n' :: 'u' :: 'l' :: 'l' :: rest := by
  constructor
  · intro h
    cases h with
    | null h => exact h
    | negative sign numeral fits => exact absurd rfl (Numeral.value?_ne _ fits).1
    | number numeral fits => exact absurd rfl (Numeral.value?_ne _ fits).1
  · exact .null

theorem spells_list_iff {room : Nat} {cs rest : List Char} {items : List Value} :
    Spells (room + 1) (.value (.list items)) cs rest ↔
      ∃ a, skipSpace cs = '[' :: a ∧ Spells room (.items true items) a rest := by
  constructor
  · intro h
    cases h with
    | list bracket inside => exact ⟨_, bracket, inside⟩
    | negative sign numeral fits =>
        exact absurd rfl ((Numeral.value?_ne _ fits).2.1 _)
    | number numeral fits =>
        exact absurd rfl ((Numeral.value?_ne _ fits).2.1 _)
  · rintro ⟨a, bracket, inside⟩
    exact .list bracket inside

theorem spells_object_iff {room : Nat} {cs rest : List Char}
    {merged : List (String × Value)} :
    Spells (room + 1) (.value (.object merged)) cs rest ↔
      ∃ a fields, skipSpace cs = '\x7b' :: a ∧ merged = mergeFields fields ∧
        Spells room (.fields true fields) a rest := by
  constructor
  · intro h
    cases h with
    | object brace inside => exact ⟨_, _, brace, rfl, inside⟩
    | negative sign numeral fits =>
        exact absurd rfl ((Numeral.value?_ne _ fits).2.2 _)
    | number numeral fits =>
        exact absurd rfl ((Numeral.value?_ne _ fits).2.2 _)
  · rintro ⟨a, fields, brace, rfl, inside⟩
    exact .object brace inside

theorem isDigit_ne {c d : Char} (hc : isDigit c = true)
    (hd : isDigit d = false) : c ≠ d := by
  rintro rfl
  rw [hc] at hd
  cases hd

/-- A value is a scalar that the text spells, or a list or an object of which the
inside is read. -/
theorem readValue_cases {fuel room : Nat} {cs rest : List Char} {v : Value}
    (h : readValue (fuel + 1) room cs = .ok (v, rest)) :
    Spells room (.value v) cs rest ∨
      (∃ left a, room = left + 1 ∧ skipSpace cs = '[' :: a ∧
        readItems fuel left true [] a = .ok (v, rest)) ∨
      ∃ left a fields, room = left + 1 ∧ skipSpace cs = '\x7b' :: a ∧
        v = .object fields ∧
        readFields fuel left true [] a = .ok (fields, rest) := by
  rw [readValue] at h
  split at h
  · cases h
  next c more text =>
  split at h
  · next letter =>
    obtain ⟨_, hword, same⟩ := map_eq_ok_iff.mp h
    obtain ⟨rfl, rfl⟩ := Prod.mk.inj same
    rw [letter, readWord_eq_ok_iff.mp hword] at text
    exact Or.inl (.null text)
  split at h
  · next letter =>
    obtain ⟨_, hword, same⟩ := map_eq_ok_iff.mp h
    obtain ⟨rfl, rfl⟩ := Prod.mk.inj same
    rw [letter, readWord_eq_ok_iff.mp hword] at text
    exact Or.inl (.true text)
  split at h
  · next letter =>
    obtain ⟨_, hword, same⟩ := map_eq_ok_iff.mp h
    obtain ⟨rfl, rfl⟩ := Prod.mk.inj same
    rw [letter, readWord_eq_ok_iff.mp hword] at text
    exact Or.inl (.false text)
  split at h
  · next sign =>
    obtain ⟨n, numeral, fits⟩ := readNumber_eq_ok_iff.mp h
    rw [sign] at text
    exact Or.inl (.negative text numeral fits)
  split at h
  · obtain ⟨n, numeral, fits⟩ := readNumber_eq_ok_iff.mp h
    rw [← text] at numeral
    exact Or.inl (.number numeral fits)
  split at h
  · next quote =>
    obtain ⟨_, hstring, same⟩ := map_eq_ok_iff.mp h
    obtain ⟨rfl, rfl⟩ := Prod.mk.inj same
    rw [quote] at text
    exact Or.inl (.string text (readString_eq_ok_iff.mp hstring))
  split at h
  · next bracket =>
    rw [bracket] at text
    split at h
    · cases h
    · next left => exact Or.inr (Or.inl ⟨left, more, rfl, text, h⟩)
  split at h
  · next brace =>
    rw [brace] at text
    split at h
    · cases h
    · next left =>
      obtain ⟨_, hfields, same⟩ := map_eq_ok_iff.mp h
      obtain ⟨rfl, rfl⟩ := Prod.mk.inj same
      exact Or.inr (Or.inr ⟨left, more, _, rfl, text, rfl, hfields⟩)
  · cases h

/-- The items of a list end, or another one is read behind its comma. -/
theorem readItems_cases {fuel room : Nat} {first : Bool} {read : List Value}
    {cs rest : List Char} {v : Value}
    (h : readItems (fuel + 1) room first read cs = .ok (v, rest)) :
    (skipSpace cs = ']' :: rest ∧ v = .list read.reverse) ∨
      ∃ a item b, (if first then a = cs else skipSpace cs = ',' :: a) ∧
        readValue fuel room (skipSpace a) = .ok (item, b) ∧
        readItems fuel room false (item :: read) b = .ok (v, rest) := by
  unfold readItems at h
  -- an item is read in two places, at the front and behind a comma
  extract_lets item at h
  have one : ∀ a : List Char, item a = .ok (v, rest) →
      ∃ value b, readValue fuel room a = .ok (value, b) ∧
        readItems fuel room false (value :: read) b = .ok (v, rest) := by
    intro a ha
    simp only [item] at ha
    split at ha
    · cases ha
    · next value hvalue => exact ⟨_, _, hvalue, ha⟩
  split at h
  · cases h
  next c more text =>
  split at h
  · next bracket =>
    obtain ⟨rfl, rfl⟩ := Prod.mk.inj (Except.ok.inj h)
    rw [bracket] at text
    exact Or.inl ⟨text, rfl⟩
  split at h
  · next front =>
    obtain ⟨value, b, hvalue, hmore⟩ := one _ h
    rw [← text] at hvalue
    exact Or.inr ⟨cs, value, b, by simp [front], hvalue, hmore⟩
  next front =>
  split at h
  · next comma =>
    rw [comma] at text
    split at h
    · cases h
    next d behind inner =>
    split at h
    · cases h
    · obtain ⟨value, b, hvalue, hmore⟩ := one _ h
      rw [← inner] at hvalue
      exact Or.inr ⟨more, value, b, by simpa [front] using text, hvalue, hmore⟩
  · cases h

/-- The fields of an object end, or another one is read behind its key and put
among those before it. -/
theorem readFields_cases {fuel room : Nat} {first : Bool}
    {read fields : List (String × Value)} {cs rest : List Char}
    (h : readFields (fuel + 1) room first read cs = .ok (fields, rest)) :
    (skipSpace cs = '\x7d' :: rest ∧ fields = read) ∨
      ∃ key a v b, SpellsKey first cs key a ∧
        readValue fuel room a = .ok (v, b) ∧
        readFields fuel room false (putField key v read) b =
          .ok (fields, rest) := by
  unfold readFields at h
  extract_lets field at h
  have one : ∀ {before a : List Char}, skipSpace before = '"' :: a →
      field a = .ok (fields, rest) →
      ∃ key b v c, SpellsKey true before key b ∧
        readValue fuel room b = .ok (v, c) ∧
        readFields fuel room false (putField key v read) c =
          .ok (fields, rest) := by
    intro before a quote ha
    simp only [field] at ha
    split at ha
    · cases ha
    next name behind hname =>
    split at ha
    · cases ha
    next c more text =>
    split at ha
    · next colon =>
      rw [colon] at text
      split at ha
      · cases ha
      · next v b hv =>
        exact ⟨_, more, v, b,
          .first quote (readString_eq_ok_iff.mp hname) text, hv, ha⟩
    · cases ha
  split at h
  · cases h
  next c more text =>
  split at h
  · next brace =>
    obtain ⟨rfl, rfl⟩ := Prod.mk.inj (Except.ok.inj h)
    rw [brace] at text
    exact Or.inl ⟨text, rfl⟩
  split at h
  · next front =>
    split at h
    · next quote =>
      subst front
      rw [quote] at text
      exact Or.inr (one text h)
    · cases h
  next front =>
  split at h
  · next comma =>
    rw [comma] at text
    split at h
    · cases h
    next d behind inner =>
    split at h
    · next quote =>
      rw [quote] at inner
      obtain ⟨key, a, v, b, name, hv, hmore⟩ := one inner h
      obtain rfl : first = false := by simpa using front
      exact Or.inr ⟨key, a, v, b, .next text name, hv, hmore⟩
    · split at h <;> cases h
  · cases h

/-- Within any number of steps nothing is read but what the text spells. -/
theorem spells_of_read (fuel : Nat) :
    (∀ {room : Nat} {cs rest : List Char} {v : Value},
      readValue fuel room cs = .ok (v, rest) →
        Spells room (.value v) cs rest) ∧
    (∀ {room : Nat} {first : Bool} {read : List Value} {cs rest : List Char}
      {v : Value}, readItems fuel room first read cs = .ok (v, rest) →
        ∃ items, v = .list (read.reverse ++ items) ∧
          Spells room (.items first items) cs rest) ∧
    (∀ {room : Nat} {first : Bool} {read merged : List (String × Value)}
      {cs rest : List Char},
      readFields fuel room first read cs = .ok (merged, rest) →
        ∃ fields, merged = putFields read fields ∧
          Spells room (.fields first fields) cs rest) := by
  -- the three readers call each other with one step less
  induction fuel with
  | zero =>
      refine ⟨?_, ?_, ?_⟩
      · intro room cs rest v h
        rw [readValue] at h
        cases h
      · intro room first read cs rest v h
        rw [readItems] at h
        cases h
      · intro room first read merged cs rest h
        rw [readFields] at h
        cases h
  | succ fuel ih =>
      obtain ⟨value, items, object⟩ := ih
      refine ⟨?_, ?_, ?_⟩
      · intro room cs rest v h
        rcases readValue_cases h with scalar | ⟨left, a, rfl, bracket, hitems⟩ |
          ⟨left, a, fields, rfl, brace, rfl, hfields⟩
        · exact scalar
        · obtain ⟨inside, rfl, spelled⟩ := items hitems
          exact .list bracket spelled
        · obtain ⟨inside, rfl, spelled⟩ := object hfields
          exact .object brace spelled
      · intro room first read cs rest v h
        rcases readItems_cases h with ⟨bracket, rfl⟩ |
          ⟨a, item, b, front, hitem, hmore⟩
        · exact ⟨[], by simp, .noItems bracket⟩
        · obtain ⟨more, rfl, spelled⟩ := items hmore
          have here := (value hitem).of_skipSpace
          refine ⟨item :: more, by simp, ?_⟩
          cases first with
          | true =>
              obtain rfl : a = cs := front
              exact .firstItem here spelled
          | false => exact .nextItem front here spelled
      · intro room first read merged cs rest h
        rcases readFields_cases h with ⟨brace, rfl⟩ |
          ⟨key, a, v, b, name, hv, hmore⟩
        · exact ⟨[], rfl, .noFields brace⟩
        · obtain ⟨more, rfl, spelled⟩ := object hmore
          exact ⟨(key, v) :: more, rfl, .field name (value hv) spelled⟩

/-- Reading a field goes through its key to its value. -/
theorem readFields_key {fuel room : Nat} {first : Bool} {cs a : List Char}
    {key : String} (h : SpellsKey first cs key a)
    (read : List (String × Value)) :
    readFields (fuel + 1) room first read cs =
      (readValue fuel room a).bind fun item =>
        readFields fuel room false (putField key item.1 read) item.2 := by
  cases h with
  | first quote name colon =>
      rw [readFields]
      simp only [quote, readString_eq_ok_iff.mpr name, colon]
      cases readValue fuel room a <;> rfl
  | next comma field =>
      obtain ⟨quote, name, colon⟩ := field
      rw [readFields]
      simp only [comma, quote, readString_eq_ok_iff.mpr name, colon]
      cases readValue fuel room a <;> rfl

/-- What the readers make of a part. -/
def Part.Reads (fuel room : Nat) (cs rest : List Char) : Part → Prop
  | .value v => readValue fuel room cs = .ok (v, rest)
  | .items first vs => ∀ read : List Value,
    readItems fuel room first read cs = .ok (.list (read.reverse ++ vs), rest)
  | .fields first fs => ∀ read : List (String × Value),
    readFields fuel room first read cs = .ok (putFields read fs, rest)

/-- How many steps are enough for a part. -/
def Part.steps (cs : List Char) : Part → Nat
  | .value _ => 2 * cs.length + 1
  | .items _ _ => 2 * cs.length + 2
  | .fields _ _ => 2 * cs.length + 2

theorem Part.exists_step {part : Part} {cs : List Char} {fuel : Nat}
    (enough : part.steps cs ≤ fuel) : ∃ left, fuel = left + 1 := by
  apply Nat.exists_eq_succ_of_ne_zero
  rintro rfl
  cases part <;> cases enough

theorem readValue_of_digit {fuel room : Nat} {cs more : List Char} {c : Char}
    (text : skipSpace cs = c :: more) (digit : isDigit c = true) :
    readValue (fuel + 1) room cs = readNumber false (c :: more) := by
  have n : c ≠ 'n' := isDigit_ne digit (by decide)
  have t : c ≠ 't' := isDigit_ne digit (by decide)
  have f : c ≠ 'f' := isDigit_ne digit (by decide)
  have sign : c ≠ '-' := isDigit_ne digit (by decide)
  rw [readValue]
  simp only [text, n, t, f, sign, digit, if_false, if_true]

/-- Blanks in front of a value are passed over. -/
theorem readValue_skipSpace (fuel room : Nat) (cs : List Char) :
    readValue (fuel + 1) room (skipSpace cs) =
      readValue (fuel + 1) room cs := by
  rw [readValue, readValue, skipSpace_skipSpace]

/-- A value does not start with the word that ends a list. -/
theorem Spells.exists_head {room : Nat} {v : Value} {cs rest : List Char}
    (h : Spells room (.value v) cs rest) :
    ∃ c more, skipSpace cs = c :: more ∧ c ≠ ']' := by
  cases h with
  | null h | true h | false h => exact ⟨_, _, h, by decide⟩
  | negative sign numeral fits => exact ⟨_, _, sign, by decide⟩
  | number numeral fits =>
      obtain ⟨c, more, text, digit⟩ := numeral.head
      exact ⟨c, more, text, isDigit_ne digit (by decide)⟩
  | string quote string => exact ⟨_, _, quote, by decide⟩
  | list bracket inside => exact ⟨_, _, bracket, by decide⟩
  | object brace inside => exact ⟨_, _, brace, by decide⟩

/-- Reading the first item of a list. -/
theorem readItems_first {fuel room : Nat} {v : Value} {cs rest : List Char}
    (h : Spells room (.value v) cs rest) (read : List Value) :
    readItems (fuel + 1) room true read cs =
      (readValue fuel room (skipSpace cs)).bind fun item =>
        readItems fuel room false (item.1 :: read) item.2 := by
  obtain ⟨c, more, text, apart⟩ := h.exists_head
  rw [readItems]
  simp only [text, apart, if_false, if_true]
  cases readValue fuel room (c :: more) <;> rfl

/-- Reading another item of a list, behind its comma. -/
theorem readItems_next {fuel room : Nat} {v : Value} {cs a rest : List Char}
    (comma : skipSpace cs = ',' :: a) (h : Spells room (.value v) a rest)
    (read : List Value) :
    readItems (fuel + 1) room false read cs =
      (readValue fuel room (skipSpace a)).bind fun item =>
        readItems fuel room false (item.1 :: read) item.2 := by
  obtain ⟨c, more, text, apart⟩ := h.exists_head
  rw [readItems]
  simp only [comma, text, apart, if_false]
  cases readValue fuel room (c :: more) <;> rfl

/-- What the grammar spells is read, if there are enough steps. -/
theorem reads_of_spells {room : Nat} {part : Part} {cs rest : List Char}
    (h : Spells room part cs rest) {fuel : Nat} (enough : part.steps cs ≤ fuel) :
    part.Reads fuel room cs rest := by
  induction h generalizing fuel with
  | null h =>
      obtain ⟨fuel, rfl⟩ := Part.exists_step enough
      simp [Part.Reads, readValue, h, readWord, Except.map]
  | true h =>
      obtain ⟨fuel, rfl⟩ := Part.exists_step enough
      simp [Part.Reads, readValue, h, readWord, Except.map]
  | false h =>
      obtain ⟨fuel, rfl⟩ := Part.exists_step enough
      simp [Part.Reads, readValue, h, readWord, Except.map]
  | negative sign numeral fits =>
      obtain ⟨fuel, rfl⟩ := Part.exists_step enough
      have number := readNumber_eq_ok_iff.mpr ⟨_, numeral, fits⟩
      simp [Part.Reads, readValue, sign, number]
  | number numeral fits =>
      obtain ⟨fuel, rfl⟩ := Part.exists_step enough
      have number := readNumber_eq_ok_iff.mpr ⟨_, numeral, fits⟩
      obtain ⟨c, more, text, digit⟩ := numeral.head
      rw [Part.Reads, readValue_of_digit text digit, ← text]
      exact number
  | string quote string =>
      obtain ⟨fuel, rfl⟩ := Part.exists_step enough
      have read := readString_eq_ok_iff.mpr string
      simp [Part.Reads, readValue, quote, read, Except.map, isDigit]
  | list bracket inside ih =>
      obtain ⟨fuel, rfl⟩ := Part.exists_step enough
      have size := lt_of_skipSpace bracket
      simp only [Part.steps] at enough ih
      have read : readItems fuel _ true [] _ = .ok (.list ([] ++ _), _) :=
        ih (by omega) []
      simp [Part.Reads, readValue, bracket, read, isDigit]
  | object brace inside ih =>
      obtain ⟨fuel, rfl⟩ := Part.exists_step enough
      have size := lt_of_skipSpace brace
      simp only [Part.steps] at enough ih
      have read : readFields fuel _ true [] _ = .ok (mergeFields _, _) :=
        ih (by omega) []
      simp [Part.Reads, readValue, brace, read, isDigit, Except.map]
  | noItems bracket =>
      obtain ⟨fuel, rfl⟩ := Part.exists_step enough
      intro read
      simp [readItems, bracket]
  | @firstItem room cs a rest v items value more value_ih more_ih =>
      obtain ⟨fuel, rfl⟩ := Part.exists_step enough
      have size := value.shorter
      simp only [Part.steps] at enough value_ih more_ih
      have here : readValue fuel room (skipSpace cs) = .ok (v, a) := by
        obtain ⟨left, rfl⟩ : ∃ left, fuel = left + 1 :=
          Nat.exists_eq_succ_of_ne_zero (by omega)
        rw [readValue_skipSpace]
        exact value_ih (by omega)
      have behind : ∀ read, readItems fuel room false read a = _ :=
        more_ih (by omega)
      intro read
      rw [readItems_first value, here]
      simpa [Except.bind] using behind (v :: read)
  | @nextItem room cs a b rest v items comma value more value_ih more_ih =>
      obtain ⟨fuel, rfl⟩ := Part.exists_step enough
      have front := lt_of_skipSpace comma
      have size := value.shorter
      simp only [Part.steps] at enough value_ih more_ih
      have here : readValue fuel room (skipSpace a) = .ok (v, b) := by
        obtain ⟨left, rfl⟩ : ∃ left, fuel = left + 1 :=
          Nat.exists_eq_succ_of_ne_zero (by omega)
        rw [readValue_skipSpace]
        exact value_ih (by omega)
      have behind : ∀ read, readItems fuel room false read b = _ :=
        more_ih (by omega)
      intro read
      rw [readItems_next comma value, here]
      simpa [Except.bind] using behind (v :: read)
  | noFields brace =>
      obtain ⟨fuel, rfl⟩ := Part.exists_step enough
      intro read
      simp [readFields, brace, putFields]
  | @field room first cs a b rest key v fields name value more value_ih more_ih =>
      obtain ⟨fuel, rfl⟩ := Part.exists_step enough
      have front := name.shorter
      have size := value.shorter
      simp only [Part.steps] at enough value_ih more_ih
      have here : readValue fuel room a = .ok (v, b) := value_ih (by omega)
      have behind : ∀ read, readFields fuel room false read b = _ :=
        more_ih (by omega)
      intro read
      rw [readFields_key name, here]
      exact behind (putField key v read)

/-- With enough steps, a value is read from just those texts that spell it. -/
theorem readValue_eq_ok_iff {fuel room : Nat} {cs rest : List Char} {v : Value}
    (enough : 2 * cs.length + 1 ≤ fuel) :
    readValue fuel room cs = .ok (v, rest) ↔
      Spells room (.value v) cs rest :=
  ⟨(spells_of_read fuel).1, fun h => reads_of_spells h enough⟩

/-- With enough steps, the fields of an object are read from just those texts
that spell them, each key once. -/
theorem readFields_eq_ok_iff {fuel room : Nat} {cs rest : List Char}
    {merged : List (String × Value)} (enough : 2 * cs.length + 2 ≤ fuel) :
    readFields fuel room true [] cs = .ok (merged, rest) ↔
      ∃ fields, merged = mergeFields fields ∧
        Spells room (.fields true fields) cs rest := by
  constructor
  · exact (spells_of_read fuel).2.2
  · rintro ⟨fields, rfl, h⟩
    exact reads_of_spells h enough []

end Json

end IssuerAudit
