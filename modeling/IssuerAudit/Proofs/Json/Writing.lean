import IssuerAudit.Json.Write
import IssuerAudit.Proofs.Json.Distinct
/-!
What is written spells what it was written from, wherever it stands in a text:
`written_string` and `written_object`.
-/

namespace IssuerAudit.Json

/-- Holds of a written form that spells a value in front of any other text. -/
def Written (room : Nat) (v : Value) (text : List Char) : Prop :=
  ∀ rest, Spells room (.value v) (text ++ rest) rest

theorem skipSpace_cons {c : Char} (h : isSpace c = false) (cs : List Char) :
    skipSpace (c :: cs) = c :: cs :=
  List.dropWhile_cons_of_neg (by simp [h])

theorem spells_flatMap_writeChar (s rest : List Char) :
    SpellsString (s.flatMap writeChar ++ '"' :: rest) s rest :=
  readString_eq_ok_iff.mp (readString_flatMap_writeChar s [] rest)

theorem writeString_append (s rest : List Char) :
    writeString s ++ rest = '"' :: (s.flatMap writeChar ++ '"' :: rest) := by
  simp [writeString]

theorem written_string (room : Nat) (s : String) :
    Written room (.string s) (writeString s.toList) := by
  intro rest
  have spelled : Spells room (.value (.string (String.ofList s.toList))) _ rest :=
    .string (skipSpace_cons (c := '"') (by decide) _)
      (spells_flatMap_writeChar s.toList rest)
  rwa [String.ofList_toList, ← writeString_append] at spelled

theorem spellsKey_write (key : String) (rest : List Char) :
    SpellsKey true (writeString key.toList ++ ':' :: rest) key rest := by
  have spelled := SpellsKey.first
    (skipSpace_cons (c := '"') (by decide) _)
    (spells_flatMap_writeChar key.toList (':' :: rest))
    (skipSpace_cons (c := ':') (by decide) rest)
  rwa [String.ofList_toList, ← writeString_append] at spelled

theorem putField_of_new {α : Type} {key : String} (value : α)
    {fields : List (String × α)} (h : key ∉ fields.map Prod.fst) :
    putField key value fields = fields ++ [(key, value)] := by
  induction fields with
  | nil => rfl
  | cons f rest ih =>
      rw [List.map_cons, List.mem_cons, not_or] at h
      obtain ⟨hf, hrest⟩ := h
      rw [putField, if_neg (Ne.symm hf), ih hrest]
      rfl

/-- Fields whose keys are apart are put behind each other. -/
theorem putFields_of_nodup {α : Type} {read fields : List (String × α)}
    (h : ((read ++ fields).map Prod.fst).Nodup) :
    putFields read fields = read ++ fields := by
  induction fields generalizing read with
  | nil => simp [putFields]
  | cons f rest ih =>
      have new : f.1 ∉ read.map Prod.fst := by
        rw [List.map_append, List.nodup_append] at h
        intro mem
        exact h.2.2 f.1 mem f.1 List.mem_cons_self rfl
      have step : putFields read (f :: rest) =
          putFields (read ++ [f]) rest := by
        rw [← putField_of_new f.2 new]
        rfl
      rw [step, ih (by simpa using h)]
      simp

theorem mergeFields_of_nodup {α : Type} {fields : List (String × α)}
    (h : (fields.map Prod.fst).Nodup) : mergeFields fields = fields :=
  putFields_of_nodup h

/-- A field that is not the first one stands behind a comma. -/
theorem spells_fields_comma {room : Nat} {f : String × Value}
    {fields : List (String × Value)} {cs rest : List Char}
    (h : Spells room (.fields true (f :: fields)) cs rest) :
    Spells room (.fields false (f :: fields)) (',' :: cs) rest := by
  cases h with
  | field name value more =>
      have comma := skipSpace_cons (c := ',') (by decide) cs
      exact .field (.next comma name) value more

section Objects

variable {α : Type} (key : α → String) {text : α → List Char}
  {value : α → Value} {room : Nat} {as : List α}

theorem spells_writeFields (h : ∀ a ∈ as, Written room (value a) (text a))
    (rest : List Char) :
    Spells room (.fields true (as.map fun a => (key a, value a)))
      (writeFields (as.map fun a => (key a, text a)) ++ '\x7d' :: rest) rest := by
  have brace := skipSpace_cons (c := '\x7d') (by decide) rest
  induction as with
  | nil => exact .noFields brace
  | cons a as ih =>
      obtain ⟨here, later⟩ := List.forall_mem_cons.mp h
      have name : ∀ more, SpellsKey true
          (writeField (key a, text a) ++ more) (key a) (text a ++ more) := by
        intro more
        have spelled := spellsKey_write (key a) (text a ++ more)
        simpa [writeField] using spelled
      cases as with
      | nil => exact .field (name _) (here _) (.noFields brace)
      | cons b as =>
          have more := spells_fields_comma (ih later)
          have whole := Spells.field (name _) (here _) more
          simpa [writeFields] using whole

/-- Fields with keys that are apart are written as an object of them. -/
theorem written_object (keys : (as.map key).Nodup)
    (h : ∀ a ∈ as, Written room (value a) (text a)) :
    Written (room + 1) (.object (as.map fun a => (key a, value a)))
      (writeObject (as.map fun a => (key a, text a))) := by
  intro rest
  have apart : ((as.map fun a => (key a, value a)).map Prod.fst).Nodup := by
    simpa [Function.comp_def] using keys
  have spelled := Spells.object
    (skipSpace_cons (c := '\x7b') (by decide) _) (spells_writeFields key h rest)
  rw [mergeFields_of_nodup apart] at spelled
  simpa [writeObject] using spelled

end Objects

/-- Fields that are written one by one are written together. -/
theorem written_fields {room : Nat} (fields : List (String × Value × List Char))
    (keys : (fields.map fun f => f.1).Nodup)
    (h : ∀ f ∈ fields, Written room f.2.1 f.2.2) :
    Written (room + 1) (.object (fields.map fun f => (f.1, f.2.1)))
      (writeObject (fields.map fun f => (f.1, f.2.2))) :=
  written_object (fun f => f.1) keys h

end IssuerAudit.Json
