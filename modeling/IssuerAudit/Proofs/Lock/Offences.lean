import IssuerAudit.Proofs.Lock.Entries
/-!
What is wrong with a lock text, in the order of a walk through its channels and
their components.  A text that has an object under `channels` loads if nothing is
wrong, and else fails with the first offence: `ofText_of_spelled`.  No other texts
with an object at the top load: `exists_ofText_ok_iff_spelled`.
-/

namespace IssuerAudit.Lock

open Json (Kind Value skipSpace)

/-- The fields that are read of a record. -/
def recordKeys : List String :=
  ["signature_url", "public_key_fingerprint"]

/-- The kind of a field that no record may have. -/
def wrongField? (field : String × Value) : Option Kind :=
  if field.1 ∈ recordKeys then
    match field.2 with
    | .null | .string _ => none
    | v => some v.kind
  else none

/-- What is wrong with a component of a channel. -/
def componentOffences (channel : String) (component : String × Value) :
    List LoadError :=
  match component.2 with
  | .object fields =>
      (fields.filterMap wrongField?).map (.wrongField channel component.1)
  | _ => [.componentNotObject channel component.1]

/-- What is wrong with a channel. -/
def channelOffences (channel : String × Value) : List LoadError :=
  match channel.2 with
  | .object components => components.flatMap (componentOffences channel.1)
  | _ => [.channelNotObject channel.1]

/-- What is wrong with the object under `channels`. -/
def offences (channels : List (String × Value)) : List LoadError :=
  channels.flatMap channelOffences

/-- Holds of a record whose address and fingerprint are null or strings. -/
def RecordShaped (fields : List (String × Value)) : Prop :=
  ∀ field ∈ fields, field.1 ∈ recordKeys →
    field.2 = .null ∨ ∃ s, field.2 = .string s

/-- Holds of a channel whose components are all objects. -/
def ChannelShaped (components : List (String × Value)) : Prop :=
  ∀ component ∈ components, ∃ fields,
    component.2 = .object fields ∧ RecordShaped fields

/-- Holds of channels that are all objects. -/
def WellShaped (channels : List (String × Value)) : Prop :=
  ∀ channel ∈ channels, ∃ components,
    channel.2 = .object components ∧ ChannelShaped components

theorem wrongField?_eq_none_iff {field : String × Value} :
    wrongField? field = none ↔
      (field.1 ∈ recordKeys → field.2 = .null ∨ ∃ s, field.2 = .string s) := by
  by_cases known : field.1 ∈ recordKeys
  · obtain ⟨key, v⟩ := field
    cases v <;> simp [wrongField?, known]
  · simp [wrongField?, known]

theorem componentOffences_eq_nil_iff {channel : String}
    {component : String × Value} :
    componentOffences channel component = [] ↔
      ∃ fields, component.2 = .object fields ∧ RecordShaped fields := by
  obtain ⟨name, v⟩ := component
  cases v <;> simp [componentOffences, RecordShaped, wrongField?_eq_none_iff]

theorem channelOffences_eq_nil_iff {channel : String × Value} :
    channelOffences channel = [] ↔
      ∃ components, channel.2 = .object components ∧
        ChannelShaped components := by
  obtain ⟨name, v⟩ := channel
  cases v <;>
    simp [channelOffences, ChannelShaped, componentOffences_eq_nil_iff]

/-- Nothing is wrong just with what is well shaped. -/
theorem offences_eq_nil_iff {channels : List (String × Value)} :
    offences channels = [] ↔ WellShaped channels := by
  rw [offences, List.flatMap_eq_nil_iff, WellShaped]
  exact forall₂_congr fun _ _ => channelOffences_eq_nil_iff

/-- Holds of a check that fails with the first of some errors, and that succeeds
if there is none. -/
def FailsFirst {ε α : Type} (errors : List ε) (x : Except ε α) : Prop :=
  match errors.head? with
  | none => ∃ a, x = .ok a
  | some e => x = .error e

section FailsFirst

variable {ε α β : Type} {errors more : List ε} {x : Except ε α}

theorem failsFirst_ok (a : α) : FailsFirst ([] : List ε) (.ok a) :=
  ⟨a, rfl⟩

theorem FailsFirst.exists_ok_iff (h : FailsFirst errors x) :
    (∃ a, x = .ok a) ↔ errors = [] := by
  cases errors with
  | nil =>
      obtain ⟨a, rfl⟩ := h
      simp
  | cons e rest =>
      obtain rfl : x = .error e := h
      simp

theorem FailsFirst.eq_error_iff (h : FailsFirst errors x) {e : ε} :
    x = .error e ↔ errors.head? = some e := by
  cases errors with
  | nil =>
      obtain ⟨a, rfl⟩ := h
      simp
  | cons f rest =>
      obtain rfl : x = .error f := h
      simp

/-- One check after another. -/
theorem FailsFirst.append {next : α → Except ε β} (h : FailsFirst errors x)
    (later : ∀ a, FailsFirst more (next a)) :
    FailsFirst (errors ++ more) (x.bind next) := by
  cases errors with
  | nil =>
      obtain ⟨a, rfl⟩ := h
      exact later a
  | cons e rest =>
      obtain rfl : x = .error e := h
      rfl

theorem FailsFirst.map (h : FailsFirst errors x) (f : α → β) :
    FailsFirst errors (x.map f) := by
  cases errors with
  | nil =>
      obtain ⟨a, rfl⟩ := h
      exact ⟨f a, rfl⟩
  | cons e rest =>
      obtain rfl : x = .error e := h
      rfl

theorem FailsFirst.mapError {δ : Type} (h : FailsFirst errors x) (f : ε → δ) :
    FailsFirst (errors.map f) (x.mapError f) := by
  cases errors with
  | nil =>
      obtain ⟨a, rfl⟩ := h
      exact ⟨a, rfl⟩
  | cons e rest =>
      obtain rfl : x = .error e := h
      rfl

end FailsFirst

/-- The fields of a record are checked in order. -/
theorem failsFirst_declaredOf (seen : Declared) (fields : List (String × Value)) :
    FailsFirst (fields.filterMap wrongField?) (declaredOf seen fields) := by
  induction fields generalizing seen with
  | nil => exact failsFirst_ok seen
  | cons field rest ih =>
      obtain ⟨key, v⟩ := field
      rw [declaredOf, List.filterMap_cons]
      by_cases url : key = "signature_url"
      · subst url
        cases v <;> first | exact ih _ | rfl
      by_cases fingerprint : key = "public_key_fingerprint"
      · subst fingerprint
        cases v <;> first | exact ih _ | rfl
      · simp only [wrongField?, recordKeys, url, fingerprint, List.mem_cons,
          List.not_mem_nil, or_self, if_false]
        exact ih seen

theorem failsFirst_recordOf (fields : List (String × Value)) :
    FailsFirst (fields.filterMap wrongField?) (recordOf fields) :=
  (failsFirst_declaredOf ⟨none, none⟩ fields).map _

/-- The components of a channel are checked in order. -/
theorem failsFirst_componentsOf (channel : String)
    (components : List (String × Value)) :
    FailsFirst (components.flatMap (componentOffences channel))
      (componentsOf channel components) := by
  induction components with
  | nil => exact failsFirst_ok []
  | cons component rest ih =>
      obtain ⟨name, v⟩ := component
      cases v with
      | object fields =>
          have here := (failsFirst_recordOf fields).mapError
            (LoadError.wrongField channel name)
          have whole := here.append fun record =>
            ih.map fun more => (name, record) :: more
          have same : componentsOf channel ((name, .object fields) :: rest) =
              ((recordOf fields).mapError (.wrongField channel name)).bind
                fun record => (componentsOf channel rest).map
                  fun more => (name, record) :: more := by
            rw [componentsOf]
            cases recordOf fields <;> rfl
          rw [List.flatMap_cons, same]
          exact whole
      | _ => rfl

/-- The channels of a document are checked in order. -/
theorem failsFirst_channelsOf (channels : List (String × Value)) :
    FailsFirst (offences channels) (channelsOf channels) := by
  induction channels with
  | nil => exact failsFirst_ok []
  | cons channel rest ih =>
      obtain ⟨name, v⟩ := channel
      cases v with
      | object components =>
          let made (records : List (String × Record)) : Channel :=
            ⟨name, sortComponents records, sortComponents_ascending records⟩
          have here := failsFirst_componentsOf name components
          have whole := here.append fun records =>
            ih.map fun more => made records :: more
          have same : channelsOf ((name, .object components) :: rest) =
              (componentsOf name components).bind fun records =>
                (channelsOf rest).map fun more => made records :: more := by
            rw [channelsOf]
            cases componentsOf name components <;> rfl
          rw [same]
          exact whole
      | _ => rfl

theorem failsFirst_documentOf (channels : List (String × Value)) :
    FailsFirst (offences channels) (documentOf (some channels)) :=
  (failsFirst_channelsOf channels).map _

/-- A text loads if it is read and the channels found in it are well shaped. -/
theorem exists_ofText_ok_iff {text : String} :
    (∃ d, ofText text = .ok d) ↔
      readText text.toList = .ok none ∨
      ∃ channels, readText text.toList = .ok (some channels) ∧
        WellShaped channels := by
  cases read : readText text.toList with
  | error f => simp [ofText, ofTextAt, read]
  | ok entries =>
      have same : ofText text = documentOf entries := by
        simp [ofText, ofTextAt, read]
      rw [same]
      cases entries with
      | none => simp [documentOf, channelsOf, Except.map]
      | some channels =>
          rw [(failsFirst_documentOf channels).exists_ok_iff,
            offences_eq_nil_iff]
          simp

/-- Of the texts with an object at the top just those load that have nothing or
null under `channels`, or an object that is well shaped. -/
theorem exists_ofText_ok_iff_spelled {text : String}
    (brace : (skipSpace text.toList).head? = some '\x7b') :
    (∃ d, ofText text = .ok d) ↔
      Spelled text .missing ∨ Spelled text .null ∨
      ∃ channels, Spelled text (.object channels) ∧ WellShaped channels := by
  rw [exists_ofText_ok_iff]
  simp only [readText_iff_spelled brace]
  constructor
  · rintro (⟨held, spelled, found⟩ | ⟨channels, ⟨held, spelled, found⟩, shaped⟩)
    · cases held with
      | missing => exact Or.inl spelled
      | null => exact Or.inr (Or.inl spelled)
      | object | other | several => cases found
    · obtain rfl := Held.entries?_eq_some_iff.mp found
      exact Or.inr (Or.inr ⟨channels, spelled, shaped⟩)
  · rintro (spelled | spelled | ⟨channels, spelled, shaped⟩)
    · exact Or.inl ⟨_, spelled, rfl⟩
    · exact Or.inl ⟨_, spelled, rfl⟩
    · exact Or.inr ⟨channels, ⟨_, spelled, rfl⟩, shaped⟩

/-- What a text with a top object has under `channels` decides how it loads.  It
has no value there or null, and is an empty document; or it has an object, and
loads just if that is well shaped, and else fails with its first offence; or it
has a value of another kind or several values, and fails for that. -/
theorem ofText_of_spelled {text : String} {held : Held} (h : Spelled text held) :
    match held with
    | .missing | .null => ofText text = .ok ⟨[]⟩
    | .object channels =>
        ((∃ d, ofText text = .ok d) ↔ WellShaped channels) ∧
          ∀ e, ofText text = .error e ↔ (offences channels).head? = some e
    | .other | .several =>
        ∃ fault, ofText text = .error (.notJson none text fault) ∧
          fault.cause.category = .shape := by
  have read := readText_of_spelled h
  cases held with
  | missing =>
      have done : readText text.toList = .ok none := read
      simp [ofText, ofTextAt, done, documentOf, channelsOf, Except.map]
  | null =>
      have done : readText text.toList = .ok none := read
      simp [ofText, ofTextAt, done, documentOf, channelsOf, Except.map]
  | object channels =>
      have done : readText text.toList = .ok (some channels) := read
      have same : ofText text = documentOf (some channels) := by
        simp [ofText, ofTextAt, done]
      have first := failsFirst_documentOf channels
      rw [same]
      constructor
      · rw [first.exists_ok_iff, offences_eq_nil_iff]
      · intro e
        exact first.eq_error_iff
  | other =>
      obtain ⟨fault, failed, shape⟩ := read
      exact ⟨fault, by simp [ofText, ofTextAt, failed], shape⟩
  | several =>
      obtain ⟨fault, failed, shape⟩ := read
      exact ⟨fault, by simp [ofText, ofTextAt, failed], shape⟩

/-- Channels with two offences.  The first one in the text is not the first one
in the order of the names. -/
def misshapen : List (String × Value) :=
  [("stable", .object
    [("web", .object [("signature_url", .bool true)]), ("app", .null)])]

def misshapenText : String :=
  "\x7b\"channels\":\x7b\"stable\":" ++
    "\x7b\"web\":\x7b\"signature_url\":true\x7d,\"app\":null\x7d\x7d\x7d"

theorem spelled_misshapen : Spelled misshapenText (.object misshapen) := by
  have null : Json.Written 124 .null "null".toList := fun rest => .null rfl
  have address : Json.Written 123 (.bool true) "true".toList :=
    fun rest => .true rfl
  have record := Json.written_fields [("signature_url", .bool true, "true".toList)]
    (by decide) (List.forall_mem_cons.mpr ⟨address, List.forall_mem_nil _⟩)
  have components := Json.written_fields
    [("web", _, _), ("app", .null, "null".toList)] (by decide)
    (List.forall_mem_cons.mpr ⟨record,
      List.forall_mem_cons.mpr ⟨null, List.forall_mem_nil _⟩⟩)
  have channels := Json.written_fields [("stable", _, _)] (by decide)
    (List.forall_mem_cons.mpr ⟨components, List.forall_mem_nil _⟩)
  have spelled := spelled_of_written channels
  have text : String.ofList (Json.writeObject [(channelsKey, Json.writeObject
      [("stable", Json.writeObject [
        ("web", Json.writeObject [("signature_url", "true".toList)]),
        ("app", "null".toList)])])]) = misshapenText := by
    decide +kernel
  rw [← text]
  exact spelled

theorem ofText_of_spelled_misshapen :
    Spelled misshapenText (.object misshapen) ∧
      ofText misshapenText =
        .error (.wrongField "stable" "web" (.bool true)) := by
  obtain ⟨-, first⟩ := ofText_of_spelled spelled_misshapen
  exact ⟨spelled_misshapen, (first _).mpr rfl⟩

end IssuerAudit.Lock
