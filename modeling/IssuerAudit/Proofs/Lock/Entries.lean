import IssuerAudit.Lock.Grammar
import IssuerAudit.Proofs.Json.Passing
import IssuerAudit.Proofs.Json.Writing
/-!
Reading the top of a lock text: what is found under `channels` is what the text
has there, and it decides whether the text has the right shape.  Of the texts with
an object at the top no others are read: `readText_of_spelled` and
`readText_iff_spelled`.
-/

namespace IssuerAudit.Lock

open Json (Category Cause Fault Passes Spells SpellsKey Value depthLimit isDigit
  skipSpace)

/-- A digit opens neither a word nor a string, a list or an object. -/
theorem wrongKind_of_digit {c : Char} (digit : isDigit c = true) {v : Value}
    {more rest : List Char} (read : Json.readNumber false (c :: more) = .ok (v, rest))
    (needed : String) :
    wrongKind needed (c :: more) = .here (.wrongKind v.kind needed) rest := by
  have apart : ∀ d, isDigit d = false → c ≠ d := fun d hd =>
    Json.isDigit_ne digit hd
  have n := apart 'n' (by decide)
  have t := apart 't' (by decide)
  have f := apart 'f' (by decide)
  have bracket := apart '[' (by decide)
  have brace := apart '\x7b' (by decide)
  have quote := apart '"' (by decide)
  have sign := apart '-' (by decide)
  rw [wrongKind]
  simp only [n, t, f, bracket, brace, quote, sign, digit, read, if_false, if_true,
    decide_false, or_true]

/-- A value of the wrong kind is reported as what it is. -/
theorem cause_wrongKind {room : Nat} {v : Value} {cs rest : List Char}
    (h : Spells room (.value v) cs rest) (needed : String) :
    (wrongKind needed (skipSpace cs)).cause = .wrongKind v.kind needed := by
  cases h with
  | null h | true h | false h =>
      simp [wrongKind, h, Json.readWord, Fault.here, Value.kind]
  | negative sign numeral fits =>
      have read := Json.readNumber_eq_ok_iff.mpr ⟨_, numeral, fits⟩
      simp [wrongKind, sign, read, Fault.here]
  | number numeral fits =>
      obtain ⟨c, more, text, digit⟩ := numeral.head
      rw [text] at numeral ⊢
      have read := Json.readNumber_eq_ok_iff.mpr ⟨_, numeral, fits⟩
      rw [wrongKind_of_digit digit read]
      rfl
  | string quote string =>
      have read := Json.readString_eq_ok_iff.mpr string
      simp [wrongKind, quote, read, Fault.here, Value.kind]
  | list bracket inside =>
      simp [wrongKind, bracket, Fault.here, Value.kind]
  | object brace inside =>
      simp [wrongKind, brace, Fault.here, Value.kind]

theorem SpellsHeld.shorter {cs rest : List Char} {held : Held}
    (h : SpellsHeld cs held rest) : rest.length < cs.length := by
  cases h with
  | null value => exact value.shorter
  | object value => exact value.shorter
  | scalar value kept => exact value.shorter
  | list bracket value => exact value.shorter

/-- What is read of a top object; nothing if that has the wrong shape. -/
def Held.entries? : Held → Option Entries
  | .missing | .null => some none
  | .object fields => some (some fields)
  | .other | .several => none

theorem Held.entries?_eq_some_iff {held : Held} {fields : List (String × Value)} :
    held.entries? = some (some fields) ↔ held = .object fields := by
  cases held <;> simp [Held.entries?]

/-- Holds of a reading that succeeds if there is something to be read, and that
fails for the shape of the text if not. -/
def ReadsAs {α : Type} (result : Option α) (read : Except Fault α) : Prop :=
  match result with
  | some a => read = .ok a
  | none => ∃ f, read = .error f ∧ f.cause.category = .shape

/-- An object and null are taken as what stands under `channels`. -/
theorem readEntries_eq_ok_iff {cs rest : List Char} {entries : Entries} :
    readEntries cs = .ok (entries, rest) ↔
      (entries = none ∧ Spells 0 (.value .null) cs rest) ∨
      ∃ fields, entries = some fields ∧
        Spells (depthLimit - 1) (.value (.object fields)) cs rest := by
  have room : depthLimit - 1 = channelRoom + 1 := rfl
  rw [room]
  constructor
  · intro h
    rw [readEntries] at h
    split at h
    · cases h
    next c more text =>
    split at h
    · next letter =>
      obtain ⟨_, word, same⟩ := map_eq_ok_iff.mp h
      obtain ⟨rfl, rfl⟩ := Prod.mk.inj same
      rw [letter, Json.readWord_eq_ok_iff.mp word] at text
      exact Or.inl ⟨rfl, .null text⟩
    split at h
    · next brace =>
      obtain ⟨⟨merged, _⟩, read, same⟩ := map_eq_ok_iff.mp h
      obtain ⟨rfl, rfl⟩ := Prod.mk.inj same
      rw [brace] at text
      obtain ⟨fields, rfl, inside⟩ :=
        (Json.readFields_eq_ok_iff (Nat.le_refl _)).mp read
      exact Or.inr ⟨_, rfl, .object text inside⟩
    · cases h
  · rintro (⟨rfl, h⟩ | ⟨fields, rfl, h⟩)
    · simp [readEntries, Json.spells_null_iff.mp h, Json.readWord, Except.map]
    · obtain ⟨a, written, brace, merged, inside⟩ := Json.spells_object_iff.mp h
      have read := (Json.readFields_eq_ok_iff (Nat.le_refl (2 * a.length + 2))).mpr
        ⟨written, merged, inside⟩
      simp [readEntries, brace, Json.budget, read, Except.map]

/-- Any value but null and an object is refused for its kind. -/
theorem readEntries_of_spells {cs rest : List Char} {held : Held}
    (h : SpellsHeld cs held rest) :
    ReadsAs (held.entries?.map (·, rest)) (readEntries cs) := by
  cases h with
  | null value =>
      rw [readEntries_eq_ok_iff.mpr (Or.inl ⟨rfl, value⟩)]
      rfl
  | object value =>
      rw [readEntries_eq_ok_iff.mpr (Or.inr ⟨_, rfl, value⟩)]
      rfl
  | scalar value kept =>
      have refused : readEntries cs =
          .error (wrongKind "a map" (skipSpace cs)) := by
        cases value with
        | null h => exact absurd rfl kept
        | true h | false h => simp [readEntries, h]
        | negative sign numeral fits => simp [readEntries, sign]
        | number numeral fits =>
            obtain ⟨c, more, text, digit⟩ := numeral.head
            have n : c ≠ 'n' := Json.isDigit_ne digit (by decide)
            have brace : c ≠ '\x7b' := Json.isDigit_ne digit (by decide)
            simp [readEntries, text, n, brace]
        | string quote string => simp [readEntries, quote]
      rw [refused]
      refine ⟨_, rfl, ?_⟩
      rw [cause_wrongKind value]
      rfl
  | list bracket value =>
      have refused : readEntries cs =
          .error (wrongKind "a map" (skipSpace cs)) := by
        simp [readEntries, bracket]
      rw [refused, bracket]
      exact ⟨_, rfl, rfl⟩

/-- How reading the top goes on behind a key. -/
theorem readTop_key {fuel : Nat} {first : Bool} {cs a : List Char} {key : String}
    (name : SpellsKey first cs key a) (seen : Option Entries) :
    readTop (fuel + 1) first seen cs =
      if key = channelsKey ∧ seen.isSome = true then
        .error (.here (.repeatedField channelsKey) (':' :: a))
      else if key = channelsKey then
        match readEntries a with
        | .error f => .error f
        | .ok (entries, rest) => readTop fuel false (some entries) rest
      else
        match Json.skipOne a with
        | .error f => .error f
        | .ok rest => readTop fuel false seen rest := by
  cases name with
  | first quote name colon =>
      rw [readTop]
      simp only [quote, Json.readString_eq_ok_iff.mpr name, colon]
      rfl
  | next comma field =>
      obtain ⟨quote, name, colon⟩ := field
      rw [readTop]
      simp only [comma, quote, Json.readString_eq_ok_iff.mpr name, colon]
      rfl

theorem readTop_channels {fuel : Nat} {first : Bool} {cs a : List Char}
    (name : SpellsKey first cs channelsKey a) :
    readTop (fuel + 1) first none cs =
      match readEntries a with
      | .error f => .error f
      | .ok (entries, rest) => readTop fuel false (some entries) rest := by
  simp [readTop_key name]

theorem readTop_close {fuel : Nat} {first : Bool} {cs rest : List Char}
    (brace : skipSpace cs = '\x7d' :: rest) (seen : Option Entries) :
    readTop (fuel + 1) first seen cs = .ok (seen.getD none, rest) := by
  simp [readTop, brace]

theorem readTop_other {fuel : Nat} {first : Bool} {cs a b : List Char}
    {key : String} (name : SpellsKey first cs key a)
    (different : key ≠ channelsKey) (value : Passes .value a b)
    (seen : Option Entries) :
    readTop (fuel + 1) first seen cs = readTop fuel false seen b := by
  rw [readTop_key name, Json.skipOne_eq_ok_iff.mpr value]
  simp [different]

theorem exists_step {cs : List Char} {fuel : Nat} (enough : cs.length < fuel) :
    ∃ left, fuel = left + 1 :=
  Nat.exists_eq_succ_of_ne_zero (Nat.ne_zero_of_lt enough)

/-- Behind the first `channels` there may be no other. -/
theorem readTop_of_passes {first : Bool} {cs rest : List Char} {n fuel : Nat}
    (h : PassesTop first cs n rest) (enough : cs.length < fuel)
    (entries : Entries) :
    ReadsAs (if n = 0 then some (entries, rest) else none)
      (readTop fuel first (some entries) cs) := by
  induction h generalizing fuel with
  | close brace =>
      obtain ⟨fuel, rfl⟩ := exists_step enough
      rw [readTop_close brace]
      rfl
  | channels name value more ih =>
      obtain ⟨fuel, rfl⟩ := exists_step enough
      rw [readTop_key name]
      exact ⟨_, rfl, rfl⟩
  | other name different value more ih =>
      obtain ⟨fuel, rfl⟩ := exists_step enough
      have front := name.shorter
      have size := value.shorter
      rw [readTop_other name different value]
      exact ih (by omega)

/-- The first `channels` is read for what stands there, and then the rest. -/
theorem readTop_held {fuel : Nat} {first : Bool} {cs a b : List Char}
    {held : Held} {result : Entries → Option (Entries × List Char)}
    (name : SpellsKey first cs channelsKey a) (value : SpellsHeld a held b)
    (behind : ∀ entries, ReadsAs (result entries)
      (readTop fuel false (some entries) b)) :
    ReadsAs (held.entries?.bind result) (readTop (fuel + 1) first none cs) := by
  have read := readEntries_of_spells value
  rw [readTop_channels name]
  cases found : held.entries? with
  | some entries =>
      rw [found] at read
      have done : readEntries a = .ok (entries, b) := read
      rw [done]
      exact behind entries
  | none =>
      rw [found] at read
      obtain ⟨f, failed, shape⟩ := read
      rw [failed]
      exact ⟨f, rfl, shape⟩

theorem readTop_of_spells {first : Bool} {cs rest : List Char} {held : Held}
    {fuel : Nat} (h : SpellsTop first cs held rest) (enough : cs.length < fuel) :
    ReadsAs (held.entries?.map (·, rest)) (readTop fuel first none cs) := by
  induction h generalizing fuel with
  | close brace =>
      obtain ⟨fuel, rfl⟩ := exists_step enough
      rw [readTop_close brace]
      rfl
  | once name value more =>
      obtain ⟨fuel, rfl⟩ := exists_step enough
      have front := name.shorter
      have size := value.shorter
      rw [Option.map_eq_bind]
      exact readTop_held name value (readTop_of_passes more (by omega))
  | @again first cs a b rest held n name value more =>
      obtain ⟨fuel, rfl⟩ := exists_step enough
      have front := name.shorter
      have size := value.shorter
      have whole : ReadsAs (held.entries?.bind fun _ => none)
          (readTop (fuel + 1) first none cs) :=
        readTop_held name value (readTop_of_passes more (by omega))
      rw [Option.bind_fun_none] at whole
      exact whole
  | other name different value more ih =>
      obtain ⟨fuel, rfl⟩ := exists_step enough
      have front := name.shorter
      have size := value.shorter
      rw [readTop_other name different value]
      exact ih (by omega)

/-- What a text has under `channels` is what is read of it. -/
theorem readText_of_spelled {text : String} {held : Held}
    (h : Spelled text held) : ReadsAs held.entries? (readText text.toList) := by
  obtain ⟨a, rest, brace, top, ends⟩ := h
  have enough : a.length < Json.budget a := by
    rw [Json.budget]
    omega
  have read := readTop_of_spells top enough
  cases found : held.entries? with
  | some entries =>
      rw [found] at read
      have done : readTop (Json.budget a) true none a = .ok (entries, rest) := read
      show readText text.toList = .ok entries
      simp [readText, brace, done, ends]
  | none =>
      rw [found] at read
      obtain ⟨f, failed, shape⟩ := read
      refine ⟨f, ?_, shape⟩
      simp [readText, brace, failed]

/-- What is read of the top ends at once, or it has a field next. -/
theorem readTop_cases {fuel : Nat} {first : Bool} {seen : Option Entries}
    {cs rest : List Char} {entries : Entries}
    (h : readTop (fuel + 1) first seen cs = .ok (entries, rest)) :
    (skipSpace cs = '\x7d' :: rest ∧ entries = seen.getD none) ∨
      ∃ key a, SpellsKey first cs key a := by
  unfold readTop at h
  extract_lets field at h
  have one : ∀ {before a : List Char}, skipSpace before = '"' :: a →
      field a = .ok (entries, rest) → ∃ key b, SpellsKey true before key b := by
    intro before a quote ha
    simp only [field] at ha
    split at ha
    · cases ha
    next name behind string =>
    split at ha
    · cases ha
    split at ha
    · cases ha
    next c more text =>
    split at ha
    · cases ha
    next colon =>
    rw [Decidable.not_not.mp colon] at text
    exact ⟨_, more, .first quote (Json.readString_eq_ok_iff.mp string) text⟩
  clear_value field
  split at h
  · cases h
  next c more text =>
  split at h
  · next brace =>
    obtain ⟨rfl, rfl⟩ := Prod.mk.inj (Except.ok.inj h)
    rw [brace] at text
    exact Or.inl ⟨text, rfl⟩
  split at h
  · next front =>
    split at h
    · next quote =>
      subst front
      rw [quote] at text
      exact Or.inr (one text h)
    · cases h
  next front =>
  split at h
  · next comma =>
    rw [comma] at text
    split at h
    · cases h
    next d behind inner =>
    split at h
    · next quote =>
      rw [quote] at inner
      obtain ⟨key, a, name⟩ := one inner h
      obtain rfl : first = false := by simpa using front
      exact Or.inr ⟨key, a, .next text name⟩
    · split at h <;> cases h
  · cases h

/-- Behind the first `channels` only fields with other keys are read. -/
theorem passes_of_readTop {fuel : Nat} {first : Bool} {seen entries : Entries}
    {cs rest : List Char}
    (h : readTop fuel first (some seen) cs = .ok (entries, rest)) :
    entries = seen ∧ PassesTop first cs 0 rest := by
  induction fuel generalizing first cs with
  | zero => cases h
  | succ fuel ih =>
      rcases readTop_cases h with ⟨brace, rfl⟩ | ⟨key, a, name⟩
      · exact ⟨rfl, .close brace⟩
      rw [readTop_key name] at h
      by_cases same : key = channelsKey
      · simp [same] at h
      · simp only [same, false_and, if_false] at h
        split at h
        · cases h
        next b read =>
        obtain ⟨rfl, more⟩ := ih h
        exact ⟨rfl, .other name same (Json.skipOne_eq_ok_iff.mp read) more⟩

/-- What is read as the value of `channels` stands there. -/
theorem spellsHeld_of_readEntries {cs rest : List Char} {entries : Entries}
    (h : readEntries cs = .ok (entries, rest)) :
    ∃ held, SpellsHeld cs held rest ∧ held.entries? = some entries := by
  rcases readEntries_eq_ok_iff.mp h with ⟨rfl, value⟩ | ⟨fields, rfl, value⟩
  · exact ⟨.null, .null value, rfl⟩
  · exact ⟨.object fields, .object value, rfl⟩

theorem spellsTop_of_readTop {fuel : Nat} {first : Bool} {entries : Entries}
    {cs rest : List Char}
    (h : readTop fuel first none cs = .ok (entries, rest)) :
    ∃ held, SpellsTop first cs held rest ∧ held.entries? = some entries := by
  induction fuel generalizing first cs with
  | zero => cases h
  | succ fuel ih =>
      rcases readTop_cases h with ⟨brace, rfl⟩ | ⟨key, a, name⟩
      · exact ⟨.missing, .close brace, rfl⟩
      by_cases same : key = channelsKey
      · subst same
        rw [readTop_channels name] at h
        split at h
        · cases h
        next found b read =>
        obtain ⟨held, value, found⟩ := spellsHeld_of_readEntries read
        obtain ⟨rfl, more⟩ := passes_of_readTop h
        exact ⟨held, .once name value more, found⟩
      · rw [readTop_key name] at h
        simp only [same, false_and, if_false] at h
        split at h
        · cases h
        next b read =>
        obtain ⟨held, more, found⟩ := ih h
        exact ⟨held, .other name same (Json.skipOne_eq_ok_iff.mp read) more,
          found⟩

/-- Of the texts with an object at the top just those are read that have nothing,
null or one object under `channels`. -/
theorem readText_iff_spelled {text : String} {entries : Entries}
    (brace : (skipSpace text.toList).head? = some '\x7b') :
    readText text.toList = .ok entries ↔
      ∃ held, Spelled text held ∧ held.entries? = some entries := by
  constructor
  · intro h
    obtain ⟨a, front⟩ := List.head?_eq_some_iff.mp brace
    simp only [readText, front, if_true] at h
    split at h
    · cases h
    next found rest top =>
    split at h
    · next ends =>
      obtain rfl := Except.ok.inj h
      obtain ⟨held, spelled, found⟩ := spellsTop_of_readTop top
      exact ⟨held, ⟨a, rest, front, spelled, ends⟩, found⟩
    · cases h
  · rintro ⟨held, spelled, found⟩
    have read := readText_of_spelled spelled
    rw [found] at read
    exact read

/-- An object that is written as the one field of a text stands there under
`channels`. -/
theorem spelled_of_written {channels : List (String × Value)} {cs : List Char}
    (h : Json.Written (depthLimit - 1) (.object channels) cs) :
    Spelled (String.ofList (Json.writeObject [(channelsKey, cs)]))
      (.object channels) := by
  have brace := Json.skipSpace_cons (c := '\x7b') (by decide)
    (Json.writeString channelsKey.toList ++ ':' :: (cs ++ ['\x7d']))
  have close := Json.skipSpace_cons (c := '\x7d') (by decide) []
  have top := SpellsTop.once (Json.spellsKey_write channelsKey (cs ++ ['\x7d']))
    (.object (h ['\x7d'])) (.close close)
  refine ⟨_, [], ?_, top, rfl⟩
  simpa [Json.writeObject, Json.writeFields, Json.writeField] using brace

end IssuerAudit.Lock
