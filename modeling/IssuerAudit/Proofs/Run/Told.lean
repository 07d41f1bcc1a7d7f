import IssuerAudit.Proofs.Lock.Declared
import IssuerAudit.Proofs.Run.Coverage
/-!
What a report tells of a named component.  Where no two channels have one name,
a report tells of each component once, and the verdict is the one that the source
gives in the state in which the components before it left it:
`tells_iff_verdict`.
-/

namespace IssuerAudit

variable {σ : Type}

/-- Holds if a report tells of a component of a channel with an outcome. -/
def Report.Tells (r : Report) (channel component : String)
    (outcome : Outcome) : Prop :=
  ∃ c ∈ r.channels, c.name = channel ∧ ⟨component, outcome⟩ ∈ c.components

namespace Lock

/-- The channel with a name. -/
def Document.channel? (d : Document) (channel : String) : Option Channel :=
  d.channels.find? (·.name == channel)

/-- The components of the channels that stand before a channel. -/
def Document.ahead (d : Document) (channel : String) :
    List (String × Record) :=
  (d.channels.takeWhile (·.name != channel)).flatMap (·.components)

/-- The components that stand before a component of a channel. -/
def Document.before (d : Document) (channel component : String) :
    List (String × Record) :=
  d.ahead channel ++
    ((d.channel? channel).elim [] (·.components)).takeWhile (·.1 != component)

/-- What stands before the one element with a key. -/
theorem takeWhile_of_nodup {α : Type} {key : α → String} {earlier later : List α}
    {a : α} (h : ((earlier ++ a :: later).map key).Nodup) :
    (earlier ++ a :: later).takeWhile (key · != key a) = earlier := by
  have apart : ∀ x ∈ earlier, (key x != key a) = true := by
    intro x hx
    rw [List.map_append, List.map_cons] at h
    have distinct := (List.nodup_append.mp h).2.2 (key x)
      (List.mem_map_of_mem hx) (key a) List.mem_cons_self
    simpa using distinct
  rw [List.takeWhile_append_of_pos apart, List.takeWhile_cons]
  simp

theorem channel?_of_mem {d : Document} (h : (d.channels.map (·.name)).Nodup)
    {c : Channel} (hc : c ∈ d.channels) : d.channel? c.name = some c := by
  unfold Document.channel?
  cases hfind : d.channels.find? (·.name == c.name) with
  | none =>
      have none := List.find?_eq_none.mp hfind c hc
      simp at none
  | some other =>
      have same : other.name = c.name := by
        simpa using List.find?_some hfind
      have mem := List.mem_of_find?_eq_some hfind
      rw [List.inj_on_of_nodup_map h mem hc same]

end Lock

namespace Run

theorem names_channelFindings (source : Source σ) (s : σ)
    (channels : List Lock.Channel) :
    (channelFindings source s channels).map (·.name) =
      channels.map (·.name) := by
  induction channels generalizing s with
  | nil => rfl
  | cons c rest ih => exact congrArg (List.cons c.name) (ih _)

theorem channelFindings_append (source : Source σ) (s : σ)
    (channels more : List Lock.Channel) :
    channelFindings source s (channels ++ more) =
      channelFindings source s channels ++
        channelFindings source (source.after s
          (addresses (channels.flatMap (·.components)))) more := by
  induction channels generalizing s with
  | nil => rfl
  | cons c rest ih =>
      rw [List.cons_append, channelFindings, ih, List.flatMap_cons,
        addresses_append, Source.after_append]
      rfl

/-- A component is judged in the state in which the components before it in its
channel left the source. -/
theorem mem_findings (source : Source σ) (s : σ)
    {cs : List (String × Lock.Record)} {name : String} {record : Lock.Record}
    (apart : (cs.map Prod.fst).Nodup) (h : (name, record) ∈ cs) :
    ⟨name, verdict source (source.after s
      (addresses (cs.takeWhile (·.1 != name)))) record⟩ ∈
        findings source s cs := by
  obtain ⟨inner, rest, rfl⟩ := List.append_of_mem h
  have split : (inner ++ (name, record) :: rest).takeWhile (·.1 != name) =
      inner := Lock.takeWhile_of_nodup apart
  rw [split, findings_append, findings]
  exact List.mem_append_right _ List.mem_cons_self

/-- A channel is gone through in the state in which the channels before it left
the source. -/
theorem mem_channels_found (source : Source σ) (s : σ) {d : Lock.Document}
    (apart : (d.channels.map (·.name)).Nodup) {c : Lock.Channel}
    (h : c ∈ d.channels) :
    ⟨c.name, findings source (source.after s (addresses (d.ahead c.name)))
      c.components⟩ ∈ (found source s d).channels := by
  obtain ⟨channels⟩ := d
  obtain ⟨earlier, later, rfl⟩ := List.append_of_mem h
  have split : (earlier ++ c :: later).takeWhile (·.name != c.name) =
      earlier := Lock.takeWhile_of_nodup apart
  rw [Lock.Document.ahead, split, found, channelFindings_append,
    channelFindings]
  exact List.mem_append_right _ List.mem_cons_self

/-- What a report tells of a component that the document holds is the verdict on
its record, in the state in which the components before it left the source. -/
theorem tells_iff_verdict (source : Source σ) (s : σ) {d : Lock.Document}
    (apart : (d.channels.map (·.name)).Nodup) {c : Lock.Channel}
    (hc : c ∈ d.channels) {component : String} {record : Lock.Record}
    (h : (component, record) ∈ c.components) (outcome : Outcome) :
    (found source s d).Tells c.name component outcome ↔
      outcome = verdict source
        (source.after s (addresses (d.before c.name component))) record := by
  have here := mem_channels_found source s apart hc
  have names := Lock.names_nodup_of_ascending c.ascending
  rw [Lock.Document.before, Lock.channel?_of_mem apart hc, addresses_append,
    Source.after_append]
  generalize source.after s (addresses (d.ahead c.name)) = t at here ⊢
  have line := mem_findings source t names h
  constructor
  · rintro ⟨r, hr, same, mem⟩
    -- there is one channel with this name, and in it one line with this name
    rw [← names_channelFindings source s] at apart
    rw [← names_findings source t] at names
    obtain rfl := List.inj_on_of_nodup_map apart hr here same
    have one := List.inj_on_of_nodup_map names mem line rfl
    exact congrArg ComponentReport.outcome one
  · rintro rfl
    exact ⟨_, here, rfl, line⟩

/-- A report tells of no component that the document does not hold. -/
theorem mem_of_tells (source : Source σ) (s : σ) {d : Lock.Document}
    {channel component : String} {outcome : Outcome}
    (h : (found source s d).Tells channel component outcome) :
    ∃ c ∈ d.channels, c.name = channel ∧
      ∃ record, (component, record) ∈ c.components := by
  obtain ⟨r, hr, rfl, mem⟩ := h
  obtain ⟨c, hc, same, names, -⟩ :=
    Lock.exists_of_mem_right (forall_covers source s d.channels) hr
  have name : component ∈ c.components.map Prod.fst := by
    rw [← names]
    exact List.mem_map_of_mem mem
  obtain ⟨⟨_, record⟩, hrecord, rfl⟩ := List.mem_map.mp name
  exact ⟨c, hc, same.symm, record, hrecord⟩

end Run

end IssuerAudit
