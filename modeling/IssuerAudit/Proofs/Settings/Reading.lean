import IssuerAudit.Settings.Told
/-!
Settings as they are read against what a document tells of each of them: a document
can be read just if all that it tells is of the right kind, and what it does not tell
keeps its standard value: `ofFields_eq_some_iff`.
-/

namespace IssuerAudit.Settings

open Toml (Fields Value)

/-- Reads a value that need not be there. -/
def orStandard {α : Type} (standard : α) (read : Value → Option α) :
    Option Value → Option α
  | none => some standard
  | some v => read v

/-- A value that need not be there is read just if there is none or it is of the right
kind, and only if there is none the standard value takes its place. -/
theorem orStandard_eq_some_iff {α : Type} {read : Value → Option α}
    {Means : Value → α → Prop} (reads : ∀ v x, read v = some x ↔ Means v x)
    {standard x : α} {v? : Option Value} :
    orStandard standard read v? = some x ↔
      ∃ told, Option.Rel Means v? told ∧ x = told.getD standard := by
  constructor
  · intro h
    cases v? with
    | none => exact ⟨none, .none, (Option.some.inj h).symm⟩
    | some v => exact ⟨some x, .some ((reads v x).mp h), rfl⟩
  · rintro ⟨_, ⟨means⟩ | _, rfl⟩
    · exact (reads _ _).mpr means
    · rfl

theorem text?_eq_some_iff (v : Value) (s : String) : text? v = some s ↔ IsText v s := by
  cases v <;> simp [text?, IsText]

theorem natBelow_eq_some_iff (bound : Nat) (v : Value) (n : Nat) :
    natBelow bound v = some n ↔ IsBelow bound v n := by
  constructor
  · intro h
    unfold natBelow at h
    split at h
    · rename_i m
      obtain ⟨below, rfl⟩ : m < bound ∧ m = n := by simpa using h
      exact ⟨rfl, below⟩
    · cases h
  · rintro ⟨rfl, below⟩
    exact if_pos below

theorem ofName?_eq_some_iff {name : String} {b : Backend} :
    Backend.ofName? name = some b ↔ name = b.name := by
  constructor
  · intro h
    by_cases gpg : name = Backend.gpg.name
    · rw [Backend.ofName?, if_pos gpg] at h
      rw [← Option.some.inj h, gpg]
    · by_cases native : name = Backend.native.name
      · rw [Backend.ofName?, if_neg gpg, if_pos native] at h
        rw [← Option.some.inj h, native]
      · rw [Backend.ofName?, if_neg gpg, if_neg native] at h
        cases h
  · rintro rfl
    exact Backend.ofName?_name b

theorem backend?_eq_some_iff (v : Value) (b : Backend) :
    backend? v = some b ↔ Names v b := by
  constructor
  · intro h
    unfold backend? at h
    split at h
    · obtain rfl := ofName?_eq_some_iff.mp h
      exact .text b
    · obtain ⟨empty, name⟩ := Option.ite_none_right_eq_some.mp h
      obtain rfl := ofName?_eq_some_iff.mp name
      exact .table b _ empty
    · obtain ⟨empty, name⟩ := Option.ite_none_right_eq_some.mp h
      obtain rfl := ofName?_eq_some_iff.mp name
      exact .inline b empty
    · cases h
  · rintro (_ | ⟨_, _, empty⟩ | ⟨_, empty⟩)
    · exact Backend.ofName?_name b
    · exact (if_pos empty).trans (Backend.ofName?_name b)
    · exact (if_pos empty).trans (Backend.ofName?_name b)

/-- Limits from the values that stand for them. -/
def limitsFrom (timeout? connectTimeout? maxRedirects? : Option Value) :
    Option Limits := do
  let timeout ← orStandard Limits.standard.timeout seconds? timeout?
  let connectTimeout ← orStandard Limits.standard.connectTimeout seconds? connectTimeout?
  let maxRedirects ← orStandard Limits.standard.maxRedirects count? maxRedirects?
  some ⟨timeout, connectTimeout, maxRedirects⟩

/-- A table and a list of limits are read alike, part by part. -/
theorem limits?_eq (v : Value) :
    limits? v =
      if isGroup v then
        limitsFrom (part? "timeout_secs" 0 v) (part? "connect_timeout_secs" 1 v)
          (part? "max_redirects" 2 v)
      else none := by
  cases v <;> rfl

theorem limitsFrom_eq_some_iff {timeout? connectTimeout? maxRedirects? : Option Value}
    {l : Limits} :
    limitsFrom timeout? connectTimeout? maxRedirects? = some l ↔
      ∃ t c m, Option.Rel (IsBelow UInt64.size) timeout? t ∧
        Option.Rel (IsBelow UInt64.size) connectTimeout? c ∧
        Option.Rel (IsBelow UInt32.size) maxRedirects? m ∧
        l = ⟨t.getD 120, c.getD 30, m.getD 10⟩ := by
  have seconds : ∀ v n, seconds? v = some n ↔ IsBelow UInt64.size v n :=
    natBelow_eq_some_iff _
  have count : ∀ v n, count? v = some n ↔ IsBelow UInt32.size v n :=
    natBelow_eq_some_iff _
  simp only [limitsFrom, bind, Option.bind_eq_some_iff, orStandard_eq_some_iff seconds,
    orStandard_eq_some_iff count]
  constructor
  · rintro ⟨_, ⟨t, ht, rfl⟩, _, ⟨c, hc, rfl⟩, _, ⟨m, hm, rfl⟩, h⟩
    exact ⟨t, c, m, ht, hc, hm, (Option.some.inj h).symm⟩
  · rintro ⟨t, c, m, ht, hc, hm, rfl⟩
    exact ⟨_, ⟨t, ht, rfl⟩, _, ⟨c, hc, rfl⟩, _, ⟨m, hm, rfl⟩, rfl⟩

/-- All limits together are read just if each can be read and what holds them is fit
to hold limits. -/
theorem fetch_eq_some_iff {fields : Fields} {l : Limits} :
    setting fields "fetch" standard.limits limits? = some l ↔
      (∀ v, fields.lookup "fetch" = some v → isGroup v = true) ∧
        limitsFrom (given? fields .timeout) (given? fields .connectTimeout)
          (given? fields .maxRedirects) = some l := by
  simp only [setting, Fields.get?, given?]
  cases fields.lookup "fetch" with
  | none =>
      have none : limitsFrom none none none = some standard.limits := rfl
      simp [none]
  | some v => simp [limits?_eq]

/-- A document can be read just if it tells something of the right kind wherever it
tells anything, and it is read as what it tells with standard values for the rest. -/
theorem ofFields_eq_some_iff {fields : Fields} {s : Settings} :
    ofFields fields = some s ↔ ∃ told, Tells fields told ∧ s = told.settled := by
  have lockPath : ∀ x, setting fields "lock_path" standard.lockPath text? = some x ↔ _ :=
    fun _ => orStandard_eq_some_iff text?_eq_some_iff
  have inspector : ∀ x,
      setting fields "inspector" standard.backend backend? = some x ↔ _ :=
    fun _ => orStandard_eq_some_iff backend?_eq_some_iff
  have gpgProgram : ∀ x,
      setting fields "gpg_program" standard.gpgProgram text? = some x ↔ _ :=
    fun _ => orStandard_eq_some_iff text?_eq_some_iff
  simp only [ofFields, bind, Option.bind_eq_some_iff, lockPath, inspector, gpgProgram,
    fetch_eq_some_iff, limitsFrom_eq_some_iff]
  constructor
  · rintro ⟨_, ⟨p, hp, rfl⟩, _, ⟨i, hi, rfl⟩, _, ⟨g, hg, rfl⟩, _,
      ⟨group, t, c, m, ht, hc, hm, rfl⟩, h⟩
    exact ⟨⟨p, i, g, t, c, m⟩, ⟨hp, hi, hg, group, ht, hc, hm⟩, (Option.some.inj h).symm⟩
  · rintro ⟨told, ⟨hp, hi, hg, group, ht, hc, hm⟩, rfl⟩
    exact ⟨_, ⟨_, hp, rfl⟩, _, ⟨_, hi, rfl⟩, _, ⟨_, hg, rfl⟩, _,
      ⟨group, _, _, _, ht, hc, hm, rfl⟩, rfl⟩

/-- What is told by a value that is there. -/
theorem exists_of_rel {α : Type} {Means : Value → α → Prop} {v? : Option Value}
    {v : Value} {told : Option α} (rel : Option.Rel Means v? told) (given : v? = some v) :
    ∃ x, Means v x := by
  cases rel with
  | some means => exact ⟨_, Option.some.inj given ▸ means⟩
  | none => cases given

/-- A number that is told is not negative. -/
theorem Tells.whole_nonneg {fields : Fields} {told : Told} (tells : Tells fields told)
    {k : Known} {n : Int} (number : k.isNumber = true)
    (given : given? fields k = some (.whole n)) : 0 ≤ n := by
  have below {bound : Nat} {x : Option Nat}
      (told : Option.Rel (IsBelow bound) (given? fields k) x) : 0 ≤ n := by
    obtain ⟨m, same, -⟩ := exists_of_rel told given
    rw [Value.whole.inj same]
    exact Int.natCast_nonneg m
  cases k with
  | timeout => exact below tells.timeout
  | connectTimeout => exact below tells.connectTimeout
  | maxRedirects => exact below tells.maxRedirects
  | lockPath | inspector | gpgProgram => cases number

/-- Nothing can be read from a document in which a known setting is out of range,
whatever else it tells. -/
theorem ofFields_of_outOfRange {fields : Fields} (out : OutOfRange fields) :
    ofFields fields = none := by
  rw [Option.eq_none_iff_forall_ne_some]
  intro s h
  obtain ⟨told, tells, -⟩ := ofFields_eq_some_iff.mp h
  cases out with
  | negative number given below =>
      have nonneg := tells.whole_nonneg number given
      omega
  | @tooMany n given above =>
      obtain ⟨m, same, below⟩ := exists_of_rel tells.maxRedirects given
      have whole : n = m := Value.whole.inj same
      omega
  | nameless given other =>
      obtain ⟨b, ⟨_⟩⟩ := exists_of_rel tells.inspector given
      cases b with
      | gpg => exact other.1 rfl
      | native => exact other.2 rfl

end IssuerAudit.Settings
