import Mathlib.Data.List.Nodup
import IssuerAudit.Proofs.Json.Reading
/-!
Values without repeated keys.  Each field is put in the place of an earlier one
with the same key, so no object in a value that a text spells has two fields with
one key, however deep it stands: `Spells.distinct`.
-/

namespace IssuerAudit

namespace Json

/-- Holds of a value in which no object has two fields with one key. -/
inductive Value.Distinct : Value → Prop
  | null : Distinct .null
  | bool (b : Bool) : Distinct (.bool b)
  | whole (n : Int) : Distinct (.whole n)
  | float (negative : Bool) (x : Number.Binary64) : Distinct (.float negative x)
  | string (s : String) : Distinct (.string s)
  | list {items : List Value} (values : ∀ v ∈ items, v.Distinct) :
      Distinct (.list items)
  | object {fields : List (String × Value)}
      (keys : (fields.map Prod.fst).Nodup)
      (values : ∀ f ∈ fields, f.2.Distinct) : Distinct (.object fields)

theorem Value.Distinct.keys_nodup {fields : List (String × Value)}
    (h : (Value.object fields).Distinct) : (fields.map Prod.fst).Nodup := by
  cases h with
  | object keys values => exact keys

theorem Value.Distinct.of_mem {fields : List (String × Value)}
    (h : (Value.object fields).Distinct) {f : String × Value}
    (hf : f ∈ fields) : f.2.Distinct := by
  cases h with
  | object keys values => exact values f hf

theorem Value.Distinct.of_mem_list {items : List Value}
    (h : (Value.list items).Distinct) {v : Value} (hv : v ∈ items) :
    v.Distinct := by
  cases h with
  | list values => exact values v hv

/-- An object without fields has no repeated keys. -/
theorem Value.distinct_empty : (Value.object []).Distinct :=
  .object List.nodup_nil fun _ hf => absurd hf List.not_mem_nil

theorem mem_keys_putField {α : Type} {key other : String} {value : α}
    {fields : List (String × α)} :
    other ∈ (putField key value fields).map Prod.fst ↔
      other = key ∨ other ∈ fields.map Prod.fst := by
  induction fields with
  | nil => simp [putField]
  | cons f rest ih =>
      unfold putField
      split
      · next same => simp [same]
      · simp only [List.map_cons, List.mem_cons, ih]
        exact or_left_comm

theorem keys_putField_nodup {α : Type} (key : String) (value : α)
    {fields : List (String × α)} (h : (fields.map Prod.fst).Nodup) :
    ((putField key value fields).map Prod.fst).Nodup := by
  induction fields with
  | nil => simp [putField]
  | cons f rest ih =>
      obtain ⟨hf, hrest⟩ := List.nodup_cons.mp h
      unfold putField
      split
      · exact h
      · next other =>
        refine List.nodup_cons.mpr ⟨?_, ih hrest⟩
        intro mem
        exact (mem_keys_putField.mp mem).elim other hf

theorem mem_putField {α : Type} {key : String} {value : α}
    {fields : List (String × α)} {f : String × α}
    (h : f ∈ putField key value fields) : f = (key, value) ∨ f ∈ fields := by
  induction fields with
  | nil => exact Or.inl (List.mem_singleton.mp h)
  | cons g rest ih =>
      unfold putField at h
      split at h
      · next same =>
        rcases List.mem_cons.mp h with rfl | h
        · exact Or.inl (by rw [← same])
        · exact Or.inr (List.mem_cons_of_mem g h)
      · rcases List.mem_cons.mp h with rfl | h
        · exact Or.inr List.mem_cons_self
        · exact (ih h).imp_right (List.mem_cons_of_mem g)

theorem field?_cons {α : Type} (key : String) (f : String × α)
    (rest : List (String × α)) :
    field? key (f :: rest) = if f.1 = key then some f.2 else field? key rest := by
  by_cases h : f.1 = key <;> simp [field?, h]

theorem field?_eq_none {α : Type} {key : String} {fields : List (String × α)}
    (h : key ∉ fields.map Prod.fst) : field? key fields = none := by
  induction fields with
  | nil => rfl
  | cons f rest ih =>
      rw [List.map_cons, List.mem_cons, not_or] at h
      obtain ⟨hf, hrest⟩ := h
      rw [field?_cons, if_neg (Ne.symm hf)]
      exact ih hrest

/-- Of keys that are apart, the value of one is the only one that stands with
it. -/
theorem field?_eq_some_iff {α : Type} {key : String} {value : α}
    {fields : List (String × α)} (h : (fields.map Prod.fst).Nodup) :
    field? key fields = some value ↔ (key, value) ∈ fields := by
  induction fields with
  | nil => simp [field?]
  | cons f rest ih =>
      obtain ⟨hf, hrest⟩ := List.nodup_cons.mp h
      rw [field?_cons, List.mem_cons]
      split
      · next same =>
        subst same
        have apart : (f.1, value) ∉ rest := fun mem =>
          hf (List.mem_map.mpr ⟨_, mem, rfl⟩)
        rw [or_iff_left apart, Option.some.injEq, Prod.ext_iff]
        simp [eq_comm]
      · next other =>
        rw [ih hrest]
        refine (or_iff_right ?_).symm
        rintro rfl
        exact other rfl

/-- Putting a field into an object keeps its keys apart. -/
theorem putField_distinct (key : String) {value : Value}
    {fields : List (String × Value)} (hvalue : value.Distinct)
    (h : (Value.object fields).Distinct) :
    (Value.object (putField key value fields)).Distinct := by
  refine .object (keys_putField_nodup key value h.keys_nodup) ?_
  intro f hf
  rcases mem_putField hf with rfl | hf
  · exact hvalue
  · exact h.of_mem hf

theorem Numeral.value?_distinct {n : Numeral} {v : Value}
    (h : n.value? = some v) : v.Distinct := by
  rcases n.value?_cases h with ⟨i, rfl⟩ | ⟨negative, x, rfl⟩
  · exact .whole i
  · exact .float negative x

/-- Fields that are put into an object one after another keep its keys apart. -/
theorem putFields_distinct {read fields : List (String × Value)}
    (hread : (Value.object read).Distinct) (h : ∀ f ∈ fields, f.2.Distinct) :
    (Value.object (putFields read fields)).Distinct := by
  induction fields generalizing read with
  | nil => exact hread
  | cons f rest ih =>
      obtain ⟨hf, hrest⟩ := List.forall_mem_cons.mp h
      exact ih (putField_distinct f.1 hf hread) hrest

/-- Holds of a part in which no object has two fields with one key. -/
def Part.Distinct : Part → Prop
  | .value v => v.Distinct
  | .items _ vs => ∀ v ∈ vs, v.Distinct
  | .fields _ fs => ∀ f ∈ fs, f.2.Distinct

/-- However deep an object stands in what a text spells, its keys are apart. -/
theorem Spells.distinct {room : Nat} {part : Part} {cs rest : List Char}
    (h : Spells room part cs rest) : part.Distinct := by
  induction h with
  | null h => exact .null
  | true h => exact .bool _
  | false h => exact .bool _
  | negative sign numeral fits => exact Numeral.value?_distinct fits
  | number numeral fits => exact Numeral.value?_distinct fits
  | string quote string => exact .string _
  | list bracket inside ih => exact .list ih
  | object brace inside ih => exact putFields_distinct Value.distinct_empty ih
  | noItems bracket => exact List.forall_mem_nil _
  | firstItem value more value_ih more_ih =>
      exact List.forall_mem_cons.mpr ⟨value_ih, more_ih⟩
  | nextItem comma value more value_ih more_ih =>
      exact List.forall_mem_cons.mpr ⟨value_ih, more_ih⟩
  | noFields brace => exact List.forall_mem_nil _
  | field name value more value_ih more_ih =>
      exact List.forall_mem_cons.mpr ⟨value_ih, more_ih⟩

end Json

end IssuerAudit
