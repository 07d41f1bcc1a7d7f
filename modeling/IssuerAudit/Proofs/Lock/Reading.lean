import IssuerAudit.Proofs.Lock.Entries
/-!
Reading a text whose top is not an object.  It is read just if it is a list that
stands for the value of `channels`: `readText_iff_standsFor`.
-/

namespace IssuerAudit.Lock

open Json (Spells SpellsText Value depthLimit skipSpace)

theorem readEntries_skipSpace (cs : List Char) :
    readEntries (skipSpace cs) = readEntries cs := by
  rw [readEntries, readEntries, Json.skipSpace_skipSpace]

theorem exists_head_of_readEntries {cs rest : List Char} {entries : Entries}
    (h : readEntries cs = .ok (entries, rest)) :
    ∃ c more, skipSpace cs = c :: more ∧ c ≠ ']' := by
  rcases readEntries_eq_ok_iff.mp h with ⟨-, value⟩ | ⟨fields, -, value⟩
  · exact value.exists_head
  · exact value.exists_head

/-- A list at the top is read if it ends at once or behind its first item. -/
theorem readTopList_eq_ok_iff {cs rest : List Char} {entries : Entries} :
    readTopList cs = .ok (entries, rest) ↔
      (entries = none ∧ skipSpace cs = ']' :: rest) ∨
      ∃ b, readEntries cs = .ok (entries, b) ∧ skipSpace b = ']' :: rest := by
  constructor
  · intro h
    rw [readTopList] at h
    split at h
    · cases h
    next c more text =>
    split at h
    · next bracket =>
      obtain ⟨rfl, rfl⟩ := Prod.mk.inj (Except.ok.inj h)
      rw [bracket] at text
      exact Or.inl ⟨rfl, text⟩
    split at h
    · cases h
    next item b read =>
    rw [← text, readEntries_skipSpace] at read
    split at h
    · cases h
    next d behind close =>
    split at h
    · next bracket =>
      obtain ⟨rfl, rfl⟩ := Prod.mk.inj (Except.ok.inj h)
      rw [bracket] at close
      exact Or.inr ⟨b, read, close⟩
    split at h
    · split at h <;> cases h
    · cases h
  · rintro (⟨rfl, close⟩ | ⟨b, read, close⟩)
    · simp [readTopList, close]
    · obtain ⟨c, more, text, apart⟩ := exists_head_of_readEntries read
      rw [← readEntries_skipSpace, text] at read
      simp [readTopList, text, apart, read, close]

theorem spells_noItems_iff {room : Nat} {first : Bool} {cs rest : List Char} :
    Spells room (.items first []) cs rest ↔ skipSpace cs = ']' :: rest := by
  constructor
  · intro h
    cases h with
    | noItems bracket => exact bracket
  · exact .noItems

theorem spells_oneItem_iff {room : Nat} {v : Value} {cs rest : List Char} :
    Spells room (.items true [v]) cs rest ↔
      ∃ b, Spells room (.value v) cs b ∧ skipSpace b = ']' :: rest := by
  constructor
  · intro h
    cases h with
    | firstItem value more => exact ⟨_, value, spells_noItems_iff.mp more⟩
  · rintro ⟨b, value, bracket⟩
    exact .firstItem value (.noItems bracket)

/-- Holds of entries and the list that stands for them at the top of a text. -/
inductive StandsFor : Value → Entries → Prop
  | empty : StandsFor (.list []) none
  | null : StandsFor (.list [.null]) none
  | object (fields : List (String × Value)) :
      StandsFor (.list [.object fields]) (some fields)

/-- A list at the top is read if it stands for some entries. -/
theorem readTopList_iff_standsFor {a rest : List Char} {entries : Entries} :
    readTopList a = .ok (entries, rest) ↔
      ∃ items, StandsFor (.list items) entries ∧
        Spells (depthLimit - 1) (.items true items) a rest := by
  rw [readTopList_eq_ok_iff]
  constructor
  · rintro (⟨rfl, close⟩ | ⟨b, read, close⟩)
    · exact ⟨[], .empty, .noItems close⟩
    · rcases readEntries_eq_ok_iff.mp read with ⟨rfl, value⟩ | ⟨fields, rfl, value⟩
      · have null := Json.spells_null_iff.mp value
        exact ⟨_, .null, spells_oneItem_iff.mpr ⟨b, .null null, close⟩⟩
      · exact ⟨_, .object fields, spells_oneItem_iff.mpr ⟨b, value, close⟩⟩
  · rintro ⟨items, stands, spelled⟩
    cases stands with
    | empty => exact Or.inl ⟨rfl, spells_noItems_iff.mp spelled⟩
    | null =>
        obtain ⟨b, value, close⟩ := spells_oneItem_iff.mp spelled
        have null := Json.spells_null_iff.mp value
        have read := readEntries_eq_ok_iff.mpr (Or.inl ⟨rfl, .null null⟩)
        exact Or.inr ⟨b, read, close⟩
    | object fields =>
        obtain ⟨b, value, close⟩ := spells_oneItem_iff.mp spelled
        have read := readEntries_eq_ok_iff.mpr (Or.inr ⟨fields, rfl, value⟩)
        exact Or.inr ⟨b, read, close⟩

theorem readText_bracket {cs a : List Char} {entries : Entries}
    (bracket : skipSpace cs = '[' :: a) :
    readText cs = .ok entries ↔
      ∃ rest, readTopList a = .ok (entries, rest) ∧ skipSpace rest = [] := by
  constructor
  · intro h
    rw [readText] at h
    simp only [bracket] at h
    split at h
    · cases h
    next read rest top =>
    split at h
    · next ends =>
      obtain rfl := Except.ok.inj h
      exact ⟨rest, top, ends⟩
    · cases h
  · rintro ⟨rest, top, ends⟩
    simp [readText, bracket, top, ends]

/-- A text is not read that has neither a list nor an object at the top. -/
theorem bracket_of_readText {cs : List Char} {entries : Entries}
    (brace : (skipSpace cs).head? ≠ some '\x7b')
    (h : readText cs = .ok entries) : ∃ a, skipSpace cs = '[' :: a := by
  rw [readText] at h
  cases text : skipSpace cs with
  | nil => simp [text] at h
  | cons c a =>
      by_cases bracket : c = '['
      · exact ⟨a, by rw [bracket]⟩
      · have other : c ≠ '\x7b' := by simpa [text] using brace
        simp [text, bracket, other] at h

/-- Of the texts without an object at the top just those lists are read that
stand for some entries. -/
theorem readText_iff_standsFor {cs : List Char} {entries : Entries}
    (brace : (skipSpace cs).head? ≠ some '\x7b') :
    readText cs = .ok entries ↔
      ∃ v, StandsFor v entries ∧ SpellsText cs v := by
  have room : depthLimit = depthLimit - 1 + 1 := rfl
  constructor
  · intro h
    obtain ⟨a, bracket⟩ := bracket_of_readText brace h
    obtain ⟨rest, top, ends⟩ := (readText_bracket bracket).mp h
    obtain ⟨items, stands, inside⟩ := readTopList_iff_standsFor.mp top
    exact ⟨_, stands, rest, .list bracket inside, ends⟩
  · rintro ⟨v, stands, rest, spelled, ends⟩
    obtain ⟨items, rfl⟩ : ∃ items, v = .list items := by
      cases stands <;> exact ⟨_, rfl⟩
    rw [room] at spelled
    obtain ⟨a, bracket, inside⟩ := Json.spells_list_iff.mp spelled
    have top := readTopList_iff_standsFor.mpr ⟨items, stands, inside⟩
    exact (readText_bracket bracket).mpr ⟨rest, top, ends⟩

end IssuerAudit.Lock
