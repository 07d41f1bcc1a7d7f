import Mathlib.Logic.Function.Basic
import IssuerAudit.Proofs.Command.ExitCode
import IssuerAudit.Proofs.Settings.Reading
/-!
The settings in force, one by one: each is what the command line says, or else what
the settings file says, or else the standard one, whatever the others are; and a file
with a setting out of range is refused as a whole: `settings_layered`.
-/

namespace IssuerAudit.Command

open Settings (Told Tells OutOfRange)
open Text.Utf8 (bytesOf)

variable {σ : Type}

/-- Holds of the path and the text of the file that is asked for settings: the file
named on the command line, or else the one at its usual place.  If there is none at its
usual place the text is empty. -/
inductive Consults (around : Surroundings σ) (given : Given) : String → String → Prop
  | named {path text : String} (option : given.config = some path)
      (holds : (around.files path).text = .ok text) : Consults around given path text
  | usual {path text : String} (option : given.config = none)
      (place : Places.settingsFile? around.environment = some path)
      (holds : (around.files path).text = .ok text) : Consults around given path text
  | nothing {path : String} (option : given.config = none)
      (place : Places.settingsFile? around.environment = some path)
      (gone : (around.files path).isThere = false) : Consults around given path ""

/-- The settings that come of what is given on the command line and what a settings
file tells, each on its own. -/
def layered (given : Given) (told : Told) : Settings where
  lockPath := (given.lock.or told.lockPath).getD "configs/sources/lock.json"
  backend := (given.inspector.or told.inspector).getD .gpg
  gpgProgram := (given.gpg.or told.gpgProgram).getD "gpg"
  limits := {
    timeout := (given.timeout.or told.timeout).getD 120
    connectTimeout := told.connectTimeout.getD 30
    maxRedirects := told.maxRedirects.getD 10 }

theorem layered_eq (given : Given) (told : Told) :
    layered given told = given.over told.settled := by
  simp only [layered, Option.getD_or]
  rfl

theorem ofText?_empty : Settings.ofText? "" = some Settings.standard := by
  rfl

section Loading

variable {around : Surroundings σ} {given : Given} {path text : String}

theorem load_of_text {files : Files} {path : String}
    (holds : (files path).text = .ok text) :
    Settings.load files path =
      match Settings.ofText? text with
      | some s => .ok s
      | none => .error (.notSettings path) := by
  cases settled : Settings.ofText? text with
  | none => simp only [Settings.load, holds, settled]
  | some s => simp only [Settings.load, holds, settled]

/-- A file of which there is a text is there. -/
theorem loadIfThere_of_text {files : Files} {path : String}
    (holds : (files path).text = .ok text) :
    Settings.loadIfThere files path = Settings.load files path := by
  rw [Settings.loadIfThere, if_pos (File.isThere_of_text holds)]

/-- Settings stand and fall with the text that is asked for them. -/
theorem settingsFor_of_consults (consults : Consults around given path text) :
    settingsFor around given =
      match Settings.ofText? text with
      | some s => .ok (given.over s)
      | none => .error (.notSettings path) := by
  rcases consults with ⟨option, holds⟩ | ⟨option, place, holds⟩ | ⟨option, place, gone⟩
  · simp only [settingsFor, option, load_of_text holds]
    cases Settings.ofText? text <;> rfl
  · simp only [settingsFor, option, place, loadIfThere_of_text holds, load_of_text holds]
    cases Settings.ofText? text <;> rfl
  · simp only [settingsFor, option, place, Settings.loadIfThere, gone,
      Bool.false_eq_true, if_false, ofText?_empty]
    rfl

/-- There are no settings from a file without a text. -/
theorem text_of_load {files : Files} {path : String} {s : Settings}
    (h : Settings.load files path = .ok s) : ∃ text, (files path).text = .ok text := by
  rw [Settings.load] at h
  cases holds : (files path).text with
  | error cause =>
      rw [holds] at h
      cases h
  | ok text => exact ⟨text, rfl⟩

/-- There are no settings without a text that was asked for them. -/
theorem exists_consults {s : Settings} (h : settingsFor around given = .ok s) :
    ∃ path text, Consults around given path text := by
  rcases settingsFor_eq_ok_iff.mp h with ⟨option, loads⟩ | ⟨option, place, loads⟩
  · obtain ⟨text, holds⟩ := text_of_load loads
    exact ⟨_, text, .named option holds⟩
  · rw [Settings.loadIfThere] at loads
    split at loads
    · obtain ⟨text, holds⟩ := text_of_load loads
      exact ⟨_, text, .usual option place holds⟩
    · next gone => exact ⟨_, "", .nothing option place (by simpa using gone)⟩

/-- Settings are in force just if the text tells nothing of the wrong kind, and they are
put together one by one. -/
theorem settingsFor_eq_ok_iff_layered {s : Settings} :
    settingsFor around given = .ok s ↔
      ∃ path text fields told, Consults around given path text ∧
        Toml.fieldsOf? text = some fields ∧ Tells fields told ∧
        s = layered given told := by
  constructor
  · intro h
    obtain ⟨path, text, consults⟩ := exists_consults h
    rw [settingsFor_of_consults consults] at h
    cases settled : Settings.ofText? text with
    | none =>
        rw [settled] at h
        cases h
    | some loaded =>
        rw [settled] at h
        obtain ⟨fields, toml, read⟩ := Option.bind_eq_some_iff.mp settled
        obtain ⟨told, tells, rfl⟩ := Settings.ofFields_eq_some_iff.mp read
        refine ⟨path, text, fields, told, consults, toml, tells, ?_⟩
        rw [layered_eq]
        exact (Except.ok.inj h).symm
  · rintro ⟨path, text, fields, told, consults, toml, tells, rfl⟩
    have read := Settings.ofFields_eq_some_iff.mpr ⟨told, tells, rfl⟩
    have settled : Settings.ofText? text = some told.settled :=
      Option.bind_eq_some_iff.mpr ⟨fields, toml, read⟩
    rw [settingsFor_of_consults consults, settled, layered_eq]

/-- A setting out of range is never replaced by a standard one: the whole file is
refused. -/
theorem settingsFor_of_outOfRange {fields : Toml.Fields}
    (consults : Consults around given path text)
    (toml : Toml.fieldsOf? text = some fields) (out : OutOfRange fields) :
    settingsFor around given = .error (.notSettings path) := by
  have unread : Settings.ofText? text = none := by
    rw [Settings.ofText?, toml]
    exact Settings.ofFields_of_outOfRange out
  rw [settingsFor_of_consults consults, unread]

end Loading

/-- With a file named on the command line nothing else is looked at. -/
theorem settingsFor_congr_named {τ : Type} {around : Surroundings σ}
    {other : Surroundings τ} {given : Given} {path : String}
    (option : given.config = some path)
    (same : other.files path = around.files path) :
    settingsFor other given = settingsFor around given := by
  simp only [settingsFor, option, Settings.load, same]

/-- The flags change neither whether settings load nor the limits that have no flag. -/
theorem unflagged_eq {around : Surroundings σ} {given other : Given}
    (same : other.config = given.config) :
    (settingsFor around other).map
        (fun s => (s.limits.connectTimeout, s.limits.maxRedirects)) =
      (settingsFor around given).map
        (fun s => (s.limits.connectTimeout, s.limits.maxRedirects)) := by
  have unflagged : ∀ (g : Given) (loaded : Except SettingsError Settings),
      (loaded.map g.over).map
          (fun s => (s.limits.connectTimeout, s.limits.maxRedirects)) =
        loaded.map (fun s => (s.limits.connectTimeout, s.limits.maxRedirects)) := by
    intro g loaded
    cases loaded <;> rfl
  rw [settingsFor, settingsFor, unflagged, unflagged, same]

/-- A file at its usual place that is not there acts like one in which nothing is
written. -/
theorem settingsFor_of_gone {around : Surroundings σ} {given : Given} {path : String}
    (option : given.config = none)
    (place : Places.settingsFile? around.environment = some path)
    (gone : (around.files path).isThere = false) :
    settingsFor around given =
      settingsFor { around with
        files := Function.update around.files path (.regular []) } given := by
  have written : Consults { around with
      files := Function.update around.files path (.regular []) } given path "" := by
    refine .usual option ?_ ?_
    · exact place
    · simp only [Function.update_self]
      rfl
  rw [settingsFor_of_consults (.nothing option place gone),
    settingsFor_of_consults written, ofText?_empty]

theorem settings_checkUnder (around : Surroundings σ) (session : Session σ)
    (s : Settings) : (checkUnder around session s).settings = some s := by
  rw [checkUnder]
  cases Lock.load around.files s.lockPath with
  | error e => rfl
  | ok d =>
      simp only [checkDocument]
      split <;> rfl

/-- A run is one under the settings that are in force for what is given, and under none
if these do not load. -/
theorem settings_run {around : Surroundings σ} {outside : σ} {arguments : List String}
    {given : Given} (asks : read arguments = .ok (.check given)) :
    (run around outside arguments).settings = (settingsFor around given).toOption := by
  rw [run, asks]
  simp only [perform]
  cases settingsFor around given with
  | error e => rfl
  | ok s => exact settings_checkUnder around _ s

/-- Settings are in force just if the text that is asked for them can be read, and then
each is, on its own, what the command line says, or else what the text tells, or else
the standard one; the limits without a flag depend on no flag, and a download gets the
three limits as they are.  A text with a setting out of range is refused as a whole.  A
file named on the command line has to be there and is the only one asked, and a file at
its usual place that is not there is like one in which nothing is written; without a
home directory there is no usual place, and nothing is in force unless a file is
named. -/
theorem settings_layered (around : Surroundings σ) (given : Given) :
    (∀ s, settingsFor around given = .ok s ↔
      ∃ path text fields told, Consults around given path text ∧
        Toml.fieldsOf? text = some fields ∧ Tells fields told ∧
        s = layered given told) ∧
    (∀ other : Given, other.config = given.config →
      (settingsFor around other).map
          (fun s => (s.limits.connectTimeout, s.limits.maxRedirects)) =
        (settingsFor around given).map
          (fun s => (s.limits.connectTimeout, s.limits.maxRedirects))) ∧
    (∀ s, settingsFor around given = .ok s →
      s.limits.options =
        ⟨⟨s.limits.timeout, 0⟩, ⟨s.limits.connectTimeout, 0⟩, s.limits.maxRedirects⟩ ∧
      sourceFor around s = Extraction.source around.client around.disk
        (inspectorFor around s) s.limits.options) ∧
    (∀ path text fields, Consults around given path text →
      Toml.fieldsOf? text = some fields → OutOfRange fields →
      settingsFor around given = .error (.notSettings path)) ∧
    (∀ path, given.config = some path →
      (∀ {τ : Type} (other : Surroundings τ), other.files path = around.files path →
        settingsFor other given = settingsFor around given) ∧
      (around.files path = .absent →
        settingsFor around given = .error (.unreadable path .notFound))) ∧
    (∀ path, given.config = none →
      Places.settingsFile? around.environment = some path →
      (around.files path).isThere = false →
      settingsFor around given =
        settingsFor { around with
          files := Function.update around.files path (.regular []) } given) ∧
    (given.config = none → Places.settingsFile? around.environment = none →
      settingsFor around given = .error .homeless) ∧
    (∀ outside arguments, read arguments = .ok (.check given) →
      (run around outside arguments).settings =
        (settingsFor around given).toOption) := by
  refine ⟨fun s => settingsFor_eq_ok_iff_layered, fun other => unflagged_eq, ?_, ?_, ?_,
    fun path => settingsFor_of_gone, ?_, fun outside arguments => settings_run⟩
  · intro s _
    exact ⟨rfl, rfl⟩
  · intro path text fields consults toml out
    exact settingsFor_of_outOfRange consults toml out
  · intro path option
    refine ⟨fun other same => settingsFor_congr_named option same, ?_⟩
    intro absent
    simp only [settingsFor, option, Settings.load, absent]
    rfl
  · intro option nowhere
    simp only [settingsFor, option, nowhere]
    rfl

/-- A settings file with a part of the settings and with one that is not known. -/
def tunedText : String :=
  "inspector = \"native\"\n[fetch]\ncolour = \"blue\"\ntimeout_secs = 15\n"

/-- Surroundings with that file only. -/
def tunedSurroundings : Surroundings Unit :=
  { sampleSurroundings with
    files := fun path =>
      if path = "tuned.toml" then .regular (bytesOf tunedText) else .absent }

theorem settings_layered_tuned :
    settingsFor tunedSurroundings
        ⟨some "other.json", some "tuned.toml", none, none, some 5⟩ =
      .ok ⟨"other.json", .native, "gpg", ⟨5, 30, 10⟩⟩ := by
  let given : Given := ⟨some "other.json", some "tuned.toml", none, none, some 5⟩
  let tuned : Settings := ⟨"configs/sources/lock.json", .native, "gpg", ⟨15, 30, 10⟩⟩
  have consults : Consults tunedSurroundings given "tuned.toml" tunedText :=
    .named rfl (by decide +kernel)
  have read : (Toml.fieldsOf? tunedText).bind Settings.ofFields = some tuned := by
    decide +kernel
  obtain ⟨fields, toml, kept⟩ := Option.bind_eq_some_iff.mp read
  obtain ⟨told, tells, settled⟩ := Settings.ofFields_eq_some_iff.mp kept
  refine ((settings_layered tunedSurroundings given).1 _).mpr
    ⟨_, tunedText, fields, told, consults, toml, tells, ?_⟩
  rw [layered_eq, ← settled]
  rfl

end IssuerAudit.Command
