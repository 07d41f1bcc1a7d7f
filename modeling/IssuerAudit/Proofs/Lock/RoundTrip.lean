import IssuerAudit.Lock.Write
import IssuerAudit.Proofs.Lock.Canonical
import IssuerAudit.Proofs.Lock.Entries
/-!
Writing a document and loading it again: a document in normal form is what every
text gives that has its channels under `channels`, the written one among them, so
loading what was loaded and written changes nothing: `ofText_write`.
-/

namespace IssuerAudit.Lock

open Json (Value Written depthLimit)

/-- A record as a value. -/
def Record.value (r : Record) : Value :=
  .object [("signature_url", .string r.signatureUrl),
    ("public_key_fingerprint", .string r.fingerprint)]

/-- The components of a channel as a value. -/
def Channel.value (c : Channel) : Value :=
  .object (c.components.map fun component => (component.1, component.2.value))

/-- The fields that stand under `channels` for a document. -/
def Document.fields (d : Document) : List (String × Value) :=
  d.channels.map fun c => (c.name, c.value)

theorem insertComponent_of_before {c : String × Record}
    {sorted : List (String × Record)}
    (h : ∀ d ∈ sorted, nameBefore d.1 c.1 = true) :
    insertComponent c sorted = sorted ++ [c] := by
  induction sorted with
  | nil => rfl
  | cons d rest ih =>
      obtain ⟨hd, hrest⟩ := List.forall_mem_cons.mp h
      rw [insertComponent, if_pos hd, ih hrest]
      rfl

/-- Components that stand in order are sorted already. -/
theorem sortComponents_of_ascending {cs : List (String × Record)}
    (h : Ascending cs) : sortComponents cs = cs := by
  have loop : ∀ sorted : List (String × Record), Ascending (sorted ++ cs) →
      cs.foldl (fun sorted c => insertComponent c sorted) sorted =
        sorted ++ cs := by
    clear h
    induction cs with
    | nil => exact fun sorted _ => (List.append_nil sorted).symm
    | cons c rest ih =>
        intro sorted h
        have before : ∀ d ∈ sorted, nameBefore d.1 c.1 = true := by
          intro d hd
          exact (List.pairwise_append.mp h).2.2 d hd c List.mem_cons_self
        rw [List.foldl_cons, insertComponent_of_before before,
          ih _ (by simpa using h)]
        simp
  exact loop [] h

theorem recordOf_value {r : Record} (h : r.Canonical) :
    recordOf [("signature_url", .string r.signatureUrl),
      ("public_key_fingerprint", .string r.fingerprint)] = .ok r := by
  have kept := h.ofDeclared
  simpa [recordOf, declaredOf, optionalString, Except.map] using kept

theorem componentsOf_value (channel : String)
    {components : List (String × Record)}
    (h : ∀ component ∈ components, component.2.Canonical) :
    componentsOf channel (components.map fun c => (c.1, c.2.value)) =
      .ok components := by
  induction components with
  | nil => rfl
  | cons c rest ih =>
      obtain ⟨hc, hrest⟩ := List.forall_mem_cons.mp h
      rw [List.map_cons, Record.value, componentsOf, recordOf_value hc, ih hrest]
      rfl

theorem channelsOf_value {channels : List Channel}
    (h : ∀ channel ∈ channels, channel.Canonical) :
    channelsOf (channels.map fun c => (c.name, c.value)) = .ok channels := by
  induction channels with
  | nil => rfl
  | cons c rest ih =>
      obtain ⟨hc, hrest⟩ := List.forall_mem_cons.mp h
      rw [List.map_cons, Channel.value, channelsOf, componentsOf_value _ hc.2,
        ih hrest]
      simp [Except.map, sortComponents_of_ascending c.ascending]

theorem documentOf_fields {d : Document} (h : d.Canonical) :
    documentOf (some d.fields) = .ok d := by
  rw [documentOf, Document.fields, Option.getD_some, channelsOf_value h.2]
  rfl

/-- A document in normal form is what every text with its channels describes. -/
theorem ofText_of_fields {text : String} {d : Document} (h : d.Canonical)
    (spelled : Spelled text (.object d.fields)) : ofText text = .ok d := by
  have read : readText text.toList = .ok (some d.fields) :=
    readText_of_spelled spelled
  rw [ofText, ofTextAt, read]
  exact documentOf_fields h

theorem written_record (r : Record) (room : Nat) :
    Written (room + 1) r.value r.write :=
  Json.written_fields
    [("signature_url", .string r.signatureUrl,
        Json.writeString r.signatureUrl.toList),
      ("public_key_fingerprint", .string r.fingerprint,
        Json.writeString r.fingerprint.toList)]
    (by simp) (by simp [Json.written_string])

theorem written_channel (c : Channel) (room : Nat) :
    Written (room + 2) c.value c.write :=
  Json.written_object Prod.fst (names_nodup_of_ascending c.ascending)
    fun component _ => written_record component.2 room

/-- What is written of a document spells its channels. -/
theorem spelled_write {d : Document}
    (h : (d.channels.map Channel.name).Nodup) :
    Spelled d.write (.object d.fields) := by
  have channels : Written (depthLimit - 1) (.object d.fields)
      (Json.writeObject (d.channels.map fun c => (c.name, c.write))) :=
    Json.written_object Channel.name h fun c _ => written_channel c _
  exact spelled_of_written channels

/-- Loading gives documents in normal form only, and each of them is what every
text gives that spells its channels.  So a document in normal form is written and
loaded without a change, whatever it was loaded from. -/
theorem ofText_write :
    (∀ d : Document, d.Canonical ↔ (d.channels.map Channel.name).Nodup ∧
      ∀ channel ∈ d.channels, Ascending channel.components ∧
        ∀ component ∈ channel.components,
          Text.Trimmed component.2.signatureUrl.toList ∧
            Fingerprint.Plain component.2.fingerprint.toList) ∧
    (∀ (text : String) (d : Document), ofText text = .ok d → d.Canonical) ∧
    (∀ d : Document, d.Canonical → ofText d.write = .ok d ∧
      ∀ text, Spelled text (.object d.fields) → ofText text = .ok d) ∧
    ∀ (text : String) (d : Document), ofText text = .ok d →
      ofText d.write = .ok d := by
  have written : ∀ d : Document, d.Canonical → ofText d.write = .ok d :=
    fun d canonical => ofText_of_fields canonical (spelled_write canonical.1)
  refine ⟨fun d => Document.canonical_iff, fun text d => canonical_of_ofText,
    ?_, ?_⟩
  · intro d canonical
    exact ⟨written d canonical, fun text => ofText_of_fields canonical⟩
  · intro text d h
    exact written d (canonical_of_ofText h)

/-- A document with names that have to be escaped when they are written. -/
def escapedNames : Document :=
  ⟨[⟨"say \"beta\"", [("a\\b", ⟨"https://x/a.asc", "0A"⟩),
    ("line\nbreak", ⟨"", ""⟩)], by decide⟩, ⟨"stable", [], by decide⟩]⟩

theorem ofText_write_escapedNames : escapedNames.Canonical ∧
    ofText escapedNames.write = .ok escapedNames := by
  have canonical : escapedNames.Canonical := by decide
  exact ⟨canonical, (ofText_write.2.2.1 escapedNames canonical).1⟩

end IssuerAudit.Lock
