import IssuerAudit.Proofs.Json.Distinct
import IssuerAudit.Proofs.Lock.Reading
/-!
What a lock text declares.  `fieldsOf?` finds the fields of a component in the
JSON that the text was read as; a document that loads holds a record for just
those components that are found this way, made of the two strings in the fields:
`mem_channels_iff_fieldsOf?`.
-/

namespace IssuerAudit.Lock

open Json (Kind Value field? skipSpace)

/-- Holds of entries in which no object has two fields with one key. -/
def Entries.Distinct (entries : Entries) : Prop :=
  ∀ fields, entries = some fields → (Value.object fields).Distinct

/-- The fields that a top object has under `channels` have no repeated keys. -/
theorem SpellsTop.distinct {first : Bool} {cs rest : List Char} {held : Held}
    (h : SpellsTop first cs held rest) :
    ∀ fields, held = .object fields → (Value.object fields).Distinct := by
  induction h with
  | close brace => exact fun _ other => nomatch other
  | once name value more =>
      rintro fields rfl
      cases value with
      | object value => exact value.distinct
  | again name value more => exact fun _ other => nomatch other
  | other name different value more ih => exact ih

/-- Nothing is read from a text in which an object still has a key twice. -/
theorem readText_distinct {text : String} {entries : Entries}
    (h : readText text.toList = .ok entries) : entries.Distinct := by
  rintro fields rfl
  by_cases brace : (skipSpace text.toList).head? = some '\x7b'
  · obtain ⟨held, ⟨a, rest, -, top, -⟩, found⟩ :=
      (readText_iff_spelled brace).mp h
    exact top.distinct fields (Held.entries?_eq_some_iff.mp found)
  · obtain ⟨v, stands, rest, spelled, -⟩ := (readText_iff_standsFor brace).mp h
    cases stands with
    | object => exact spelled.distinct.of_mem_list List.mem_cons_self

/-- The string under a key, empty if the field is missing or null. -/
def declaredText (key : String) (fields : List (String × Value)) : String :=
  match field? key fields with
  | some (.string s) => s
  | _ => ""

/-- The fields of the object under a key. -/
def object? (key : String) (fields : List (String × Value)) :
    Option (List (String × Value)) :=
  match field? key fields with
  | some (.object inner) => some inner
  | _ => none

/-- The fields with which a text declares a component of a channel. -/
def fieldsOf? (text channel component : String) :
    Option (List (String × Value)) :=
  match readText text.toList with
  | .ok (some entries) =>
      (object? channel entries).bind fun components =>
        object? component components
  | _ => none

theorem object?_eq_some_iff {key : String}
    {fields inner : List (String × Value)} (h : (fields.map Prod.fst).Nodup) :
    object? key fields = some inner ↔ (key, .object inner) ∈ fields := by
  rw [← Json.field?_eq_some_iff h, object?]
  split
  · next same => simp [same]
  · next other =>
    constructor
    · intro h
      cases h
    · intro h
      exact absurd h (other inner)

/-- What the fields of a record leave of a string that was seen before. -/
def declared? (key : String) (seen : Option String)
    (fields : List (String × Value)) : Option String :=
  match field? key fields with
  | none => seen
  | some (.string s) => some s
  | some _ => none

theorem declared?_cons_self {key : String} {seen s : Option String} {v : Value}
    {rest : List (String × Value)} (apart : key ∉ rest.map Prod.fst)
    (h : optionalString v = .ok s) :
    declared? key seen ((key, v) :: rest) = declared? key s rest := by
  rw [declared?, declared?, Json.field?_cons, if_pos rfl,
    Json.field?_eq_none apart]
  cases v <;> cases h <;> rfl

theorem declared?_cons_other {key other : String} {seen : Option String}
    {v : Value} {rest : List (String × Value)} (h : other ≠ key) :
    declared? key seen ((other, v) :: rest) = declared? key seen rest := by
  rw [declared?, declared?, Json.field?_cons, if_neg h]

/-- The two strings that a record declares are those under their keys. -/
theorem declaredOf_ok {seen d : Declared} {fields : List (String × Value)}
    (apart : (fields.map Prod.fst).Nodup) (h : declaredOf seen fields = .ok d) :
    d = ⟨declared? "signature_url" seen.signatureUrl fields,
      declared? "public_key_fingerprint" seen.fingerprint fields⟩ := by
  induction fields generalizing seen with
  | nil =>
      obtain rfl := Except.ok.inj h
      rfl
  | cons f rest ih =>
      obtain ⟨key, v⟩ := f
      obtain ⟨hkey, hrest⟩ := List.nodup_cons.mp apart
      rw [declaredOf] at h
      split at h
      · next url =>
        subst url
        split at h
        · cases h
        · next s hs =>
          rw [ih hrest h, declared?_cons_self hkey hs,
            declared?_cons_other (by decide)]
      split at h
      · next fingerprint =>
        subst fingerprint
        split at h
        · cases h
        · next s hs =>
          rw [ih hrest h, declared?_cons_self hkey hs,
            declared?_cons_other (by decide)]
      · next url fingerprint =>
        rw [ih hrest h, declared?_cons_other url,
          declared?_cons_other fingerprint]

theorem getD_declared? (key : String) (fields : List (String × Value)) :
    (declared? key none fields).getD "" = declaredText key fields := by
  unfold declared? declaredText
  rcases field? key fields with _ | v
  · rfl
  · cases v <;> rfl

theorem recordOf_ok {fields : List (String × Value)} {record : Record}
    (apart : (fields.map Prod.fst).Nodup) (h : recordOf fields = .ok record) :
    record = .ofDeclared (declaredText "signature_url" fields)
      (declaredText "public_key_fingerprint" fields) := by
  obtain ⟨d, hd, rfl⟩ := map_eq_ok_iff.mp h
  rw [declaredOf_ok apart hd, getD_declared?, getD_declared?]

/-- Holds of a field of a channel and the component that is made of it. -/
def ComponentRead (f : String × Value) (c : String × Record) : Prop :=
  ∃ fields, f = (c.1, .object fields) ∧ recordOf fields = .ok c.2

/-- Holds of a field of `channels` and the channel that is made of it. -/
def ChannelRead (f : String × Value) (c : Channel) : Prop :=
  ∃ fields records, f = (c.name, .object fields) ∧
    List.Forall₂ ComponentRead fields records ∧
    c.components = sortComponents records

/-- The components of a channel are read one by one. -/
theorem componentsOf_ok {channel : String} {fields : List (String × Value)}
    {records : List (String × Record)}
    (h : componentsOf channel fields = .ok records) :
    List.Forall₂ ComponentRead fields records := by
  induction fields generalizing records with
  | nil =>
      obtain rfl := Except.ok.inj h
      exact .nil
  | cons f rest ih =>
      obtain ⟨name, v⟩ := f
      cases v with
      | object fields =>
          rw [componentsOf] at h
          split at h
          · cases h
          · next record hrecord =>
            obtain ⟨more, hmore, rfl⟩ := map_eq_ok_iff.mp h
            exact .cons ⟨fields, rfl, hrecord⟩ (ih hmore)
      | _ => cases h

/-- The channels of a document are read one by one. -/
theorem channelsOf_ok {entries : List (String × Value)}
    {channels : List Channel} (h : channelsOf entries = .ok channels) :
    List.Forall₂ ChannelRead entries channels := by
  induction entries generalizing channels with
  | nil =>
      obtain rfl := Except.ok.inj h
      exact .nil
  | cons f rest ih =>
      obtain ⟨name, v⟩ := f
      cases v with
      | object fields =>
          rw [channelsOf] at h
          split at h
          · cases h
          · next records hrecords =>
            obtain ⟨more, hmore, rfl⟩ := map_eq_ok_iff.mp h
            exact .cons ⟨fields, records, rfl, componentsOf_ok hrecords, rfl⟩
              (ih hmore)
      | _ => cases h

theorem exists_of_mem_left {α β : Type} {R : α → β → Prop} {xs : List α}
    {ys : List β} (h : List.Forall₂ R xs ys) {x : α} (hx : x ∈ xs) :
    ∃ y ∈ ys, R x y := by
  induction h with
  | nil => exact absurd hx List.not_mem_nil
  | cons here rest ih =>
      rcases List.mem_cons.mp hx with rfl | hx
      · exact ⟨_, List.mem_cons_self, here⟩
      · obtain ⟨y, hy, hxy⟩ := ih hx
        exact ⟨y, List.mem_cons_of_mem _ hy, hxy⟩

theorem exists_of_mem_right {α β : Type} {R : α → β → Prop} {xs : List α}
    {ys : List β} (h : List.Forall₂ R xs ys) {y : β} (hy : y ∈ ys) :
    ∃ x ∈ xs, R x y := by
  have flipped : List.Forall₂ (flip R) ys xs := List.Forall₂.flip h
  exact exists_of_mem_left flipped hy

theorem map_eq_map_of_forall₂ {α β γ : Type} {R : α → β → Prop} {f : α → γ}
    {g : β → γ} (same : ∀ a b, R a b → g b = f a) {xs : List α} {ys : List β}
    (h : List.Forall₂ R xs ys) : ys.map g = xs.map f := by
  induction h with
  | nil => rfl
  | cons here _ ih => rw [List.map_cons, List.map_cons, same _ _ here, ih]

theorem names_componentRead {fields : List (String × Value)}
    {records : List (String × Record)}
    (h : List.Forall₂ ComponentRead fields records) :
    records.map Prod.fst = fields.map Prod.fst := by
  refine map_eq_map_of_forall₂ ?_ h
  rintro _ _ ⟨_, rfl, -⟩
  rfl

theorem names_channelRead {entries : List (String × Value)}
    {channels : List Channel} (h : List.Forall₂ ChannelRead entries channels) :
    channels.map (·.name) = entries.map Prod.fst := by
  refine map_eq_map_of_forall₂ ?_ h
  rintro _ _ ⟨_, _, rfl, -, -⟩
  rfl

/-- A document that was loaded holds one channel for each entry. -/
theorem ofText_ok {text : String} {d : Document} (h : ofText text = .ok d) :
    ∃ entries, readText text.toList = .ok entries ∧ entries.Distinct ∧
      List.Forall₂ ChannelRead (entries.getD []) d.channels := by
  unfold ofText ofTextAt at h
  split at h
  · cases h
  · next entries hread =>
    obtain ⟨channels, hchannels, rfl⟩ := map_eq_ok_iff.mp h
    exact ⟨entries, hread, readText_distinct hread, channelsOf_ok hchannels⟩

theorem Entries.Distinct.keys_nodup {entries : Entries}
    (h : entries.Distinct) : ((entries.getD []).map Prod.fst).Nodup := by
  cases entries with
  | none => exact List.nodup_nil
  | some fields => exact (h fields rfl).keys_nodup

/-- No two channels of a document that was loaded have one name. -/
theorem names_nodup_of_ofText {text : String} {d : Document}
    (h : ofText text = .ok d) : (d.channels.map (·.name)).Nodup := by
  obtain ⟨entries, -, distinct, hchannels⟩ := ofText_ok h
  rw [names_channelRead hchannels]
  exact distinct.keys_nodup

/-- Where the fields of a component stand in the entries that were read. -/
theorem fieldsOf?_eq_some_iff {text channel component : String}
    {entries : Entries} (hread : readText text.toList = .ok entries)
    (distinct : entries.Distinct) {fields : List (String × Value)} :
    fieldsOf? text channel component = some fields ↔
      ∃ components, (channel, .object components) ∈ entries.getD [] ∧
        (component, .object fields) ∈ components := by
  rw [fieldsOf?, hread]
  cases entries with
  | none => simp
  | some top =>
      have apart := (distinct top rfl).keys_nodup
      constructor
      · intro h
        obtain ⟨components, hcomponents, hfields⟩ :=
          Option.bind_eq_some_iff.mp h
        have mem := (object?_eq_some_iff apart).mp hcomponents
        have inner := ((distinct top rfl).of_mem mem).keys_nodup
        exact ⟨components, mem, (object?_eq_some_iff inner).mp hfields⟩
      · rintro ⟨components, mem, hfields⟩
        have inner := ((distinct top rfl).of_mem mem).keys_nodup
        exact Option.bind_eq_some_iff.mpr ⟨components,
          (object?_eq_some_iff apart).mpr mem,
          (object?_eq_some_iff inner).mpr hfields⟩

/-- A document that was loaded holds a component just if the text declares it,
with the record of the two strings that are declared. -/
theorem mem_channels_iff_fieldsOf? {text : String} {d : Document}
    (h : ofText text = .ok d) {channel component : String} {record : Record} :
    (∃ c ∈ d.channels, c.name = channel ∧
        (component, record) ∈ c.components) ↔
      ∃ fields, fieldsOf? text channel component = some fields ∧
        record = .ofDeclared (declaredText "signature_url" fields)
          (declaredText "public_key_fingerprint" fields) := by
  obtain ⟨entries, hread, distinct, hchannels⟩ := ofText_ok h
  have inner : ∀ f ∈ entries.getD [], f.2.Distinct := by
    cases entries with
    | none => exact fun _ hf => absurd hf List.not_mem_nil
    | some top => exact fun _ hf => (distinct top rfl).of_mem hf
  constructor
  · rintro ⟨c, hc, rfl, mem⟩
    obtain ⟨_, hentry, components, records, rfl, hrecords, sorted⟩ :=
      exists_of_mem_right hchannels hc
    have apart := (inner _ hentry).keys_nodup
    rw [sorted, mem_sortComponents (by rwa [names_componentRead hrecords])]
      at mem
    obtain ⟨_, hfield, fields, rfl, hrecord⟩ :=
      exists_of_mem_right hrecords mem
    refine ⟨fields, ?_, ?_⟩
    · exact (fieldsOf?_eq_some_iff hread distinct).mpr
        ⟨components, hentry, hfield⟩
    · exact recordOf_ok ((inner _ hentry).of_mem hfield).keys_nodup hrecord
  · rintro ⟨fields, hfields, rfl⟩
    obtain ⟨components, hentry, hfield⟩ :=
      (fieldsOf?_eq_some_iff hread distinct).mp hfields
    obtain ⟨c, hc, _, records, same, hrecords, sorted⟩ :=
      exists_of_mem_left hchannels hentry
    obtain ⟨rfl, rfl⟩ : channel = c.name ∧ components = _ := by
      simpa using same
    obtain ⟨⟨name, record⟩, mem, _, same, hrecord⟩ :=
      exists_of_mem_left hrecords hfield
    obtain ⟨rfl, rfl⟩ : component = name ∧ fields = _ := by
      simpa using same
    have apart := (inner _ hentry).keys_nodup
    refine ⟨c, hc, rfl, ?_⟩
    rw [sorted, mem_sortComponents (by rwa [names_componentRead hrecords]),
      ← recordOf_ok ((inner _ hentry).of_mem hfield).keys_nodup hrecord]
    exact mem

end IssuerAudit.Lock
