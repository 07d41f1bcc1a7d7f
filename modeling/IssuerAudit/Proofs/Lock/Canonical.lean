import IssuerAudit.Lock.Canonical
import IssuerAudit.Proofs.Lock.Declared
import IssuerAudit.Proofs.Text.Normal
/-!
Documents that are loaded are in normal form: `canonical_of_ofText`.
-/

namespace IssuerAudit.Lock

theorem Record.canonical_iff {r : Record} :
    r.Canonical ↔ Text.Trimmed r.signatureUrl.toList ∧
      Fingerprint.Plain r.fingerprint.toList :=
  and_congr Text.trim_eq_self_iff Fingerprint.normalize_eq_self_iff

/-- The normal form in words about the texts: names that do not occur twice,
components in strictly ascending order, addresses without blanks at their ends and
fingerprints without blanks and small letters. -/
theorem Document.canonical_iff {d : Document} :
    d.Canonical ↔ (d.channels.map Channel.name).Nodup ∧
      ∀ channel ∈ d.channels, Ascending channel.components ∧
        ∀ component ∈ channel.components,
          Text.Trimmed component.2.signatureUrl.toList ∧
            Fingerprint.Plain component.2.fingerprint.toList := by
  apply and_congr_right
  intro _
  refine forall₂_congr fun channel _ => and_congr_right fun _ => ?_
  exact forall₂_congr fun component _ => Record.canonical_iff

theorem Record.canonical_ofDeclared (url fingerprint : String) :
    (Record.ofDeclared url fingerprint).Canonical :=
  ⟨Text.trim_trim url, Fingerprint.normalize_normalize fingerprint⟩

theorem Record.Canonical.ofDeclared {r : Record} (h : r.Canonical) :
    Record.ofDeclared r.signatureUrl r.fingerprint = r := by
  rw [Record.ofDeclared, h.1, h.2]

theorem canonical_of_recordOf {fields : List (String × Json.Value)}
    {record : Record} (h : recordOf fields = .ok record) : record.Canonical := by
  obtain ⟨d, -, rfl⟩ := map_eq_ok_iff.mp h
  exact Record.canonical_ofDeclared _ _

theorem mem_of_mem_sortComponents {e : String × Record}
    {cs : List (String × Record)} (h : e ∈ sortComponents cs) : e ∈ cs := by
  have loop : ∀ sorted : List (String × Record),
      e ∈ cs.foldl (fun sorted c => insertComponent c sorted) sorted →
        e ∈ sorted ∨ e ∈ cs := by
    clear h
    induction cs with
    | nil => exact fun sorted h => Or.inl h
    | cons c rest ih =>
        intro sorted h
        rcases ih _ h with h | h
        · rcases mem_of_mem_insertComponent h with rfl | h
          · exact Or.inr List.mem_cons_self
          · exact Or.inl h
        · exact Or.inr (List.mem_cons_of_mem c h)
  exact (loop [] h).resolve_left List.not_mem_nil

/-- Whatever the text, a document that it describes is in normal form. -/
theorem canonical_of_ofText {text : String} {d : Document}
    (h : ofText text = .ok d) : d.Canonical := by
  obtain ⟨entries, -, -, hchannels⟩ := ofText_ok h
  refine ⟨names_nodup_of_ofText h, ?_⟩
  intro channel hchannel
  refine ⟨channel.ascending, ?_⟩
  intro component hcomponent
  obtain ⟨_, -, _, records, -, hrecords, sorted⟩ :=
    exists_of_mem_right hchannels hchannel
  rw [sorted] at hcomponent
  obtain ⟨_, -, fields, -, hrecord⟩ :=
    exists_of_mem_right hrecords (mem_of_mem_sortComponents hcomponent)
  exact canonical_of_recordOf hrecord

end IssuerAudit.Lock
