import IssuerAudit.Command.Check
import IssuerAudit.Proofs.Extraction.Verdict
import IssuerAudit.Proofs.Json.Reading
import IssuerAudit.Proofs.Run.Coverage
/-!
The code that the program ends with.  It is zero just if settings and lock file
load and every component gets the favourable verdict; if anything does not load,
nothing is printed and nothing has happened outside: `run_fails_closed`.
-/

namespace IssuerAudit

open Text.Utf8 (bytesOf bytesOf_append)

namespace Report

/-- The last line of a report in which all is well. -/
def successLine : String :=
  "All runtime signature fingerprints match lock file.\n"

theorem display_eq (r : Report) :
    r.display = String.join (r.channels.map channelText) ++ "\n" ++
      (r.summary ++ "\n") := by
  simp only [display, closingPiece, String.append_assoc]

/-- A text that ends a report ends its bytes. -/
theorem suffix_display {r : Report} {front line : String}
    (h : r.summary ++ "\n" = front ++ line) :
    bytesOf line <:+ bytesOf r.display := by
  rw [display_eq, h, ← String.append_assoc, bytesOf_append]
  exact List.suffix_append _ _

/-- The text of a report ends in the line of success just if all is well. -/
theorem successLine_suffix_iff (r : Report) :
    bytesOf successLine <:+ bytesOf r.display ↔ r.isSuccess = true := by
  constructor
  · intro success
    by_contra other
    have some : r.mismatches ≠ 0 := by simpa [isSuccess] using other
    have line : r.summary ++ "\n" =
        "Found " ++ toString r.mismatches ++ " mismatch(es).\n" := by
      rw [summary, summaryLine, if_neg some, String.append_assoc]
      rfl
    -- of two endings of one text the shorter one ends the longer one
    have both : bytesOf " mismatch(es).\n" <:+ bytesOf successLine :=
      List.suffix_of_suffix_length_le (suffix_display line) success
        (by decide +kernel)
    revert both
    decide +kernel
  · intro success
    have none : r.mismatches = 0 := by simpa [isSuccess] using success
    have line : r.summary ++ "\n" = "" ++ successLine := by
      rw [summary, summaryLine, if_pos none]
      decide +kernel
    exact suffix_display line

end Report

namespace Command

variable {σ : Type}

/-- Holds of the settings in force: those in the file that is named on the command
line, or those in the file at its usual place, or the standard ones if there is no
such file; and what is given on the command line comes first. -/
inductive InForce (around : Surroundings σ) (given : Given) : Settings → Prop
  | named {path : String} {s : Settings} (option : given.config = some path)
      (loads : Settings.load around.files path = .ok s) :
      InForce around given (given.over s)
  | usual {path : String} {s : Settings} (option : given.config = none)
      (place : Places.settingsFile? around.environment = some path)
      (loads : Settings.loadIfThere around.files path = .ok s) :
      InForce around given (given.over s)

theorem settingsFor_eq_ok_iff {around : Surroundings σ} {given : Given}
    {s : Settings} : settingsFor around given = .ok s ↔ InForce around given s := by
  constructor
  · intro h
    obtain ⟨loaded, loads, rfl⟩ := map_eq_ok_iff.mp h
    cases option : given.config with
    | some path =>
        rw [option] at loads
        exact .named option loads
    | none =>
        simp only [option] at loads
        cases place : Places.settingsFile? around.environment with
        | none =>
            rw [place] at loads
            cases loads
        | some path =>
            rw [place] at loads
            exact .usual option place loads
  · rintro (⟨option, loads⟩ | ⟨option, place, loads⟩)
    · simp [settingsFor, option, loads, Except.map]
    · simp [settingsFor, option, place, loads, Except.map]

/-- Holds of settings and a document that load for what is given on the command
line. -/
structure Loads (around : Surroundings σ) (given : Given) (s : Settings)
    (d : Lock.Document) : Prop where
  settings : InForce around given s
  lock : Lock.load around.files s.lockPath = .ok d

/-- The report on a document under some settings. -/
def reportOn (around : Surroundings σ) (outside : σ) (s : Settings)
    (d : Lock.Document) : Report :=
  Run.found (sourceFor around s) (Session.start outside) d

/-- Holds if what is printed starts with nothing and has room for the report. -/
def Accepts (around : Surroundings σ) (outside : σ) (given : Given) : Prop :=
  around.sink.written = [] ∧ ∀ s d, Loads around given s d →
    around.sink.Fits (bytesOf (reportOn around outside s d).display)

section Run

variable {around : Surroundings σ} {outside : σ} {arguments : List String}
  {given : Given} {s : Settings} {d : Lock.Document}

/-- Checking a document prints its report and ends with the code of that. -/
theorem checkDocument_of_accepts (accepts : Accepts around outside given)
    (loads : Loads around given s d) :
    ∃ p, Run.start (sourceFor around s) (Session.start outside) around.sink d =
        (some (reportOn around outside s d), p) ∧
      checkDocument around (Session.start outside) s d =
        ⟨if (reportOn around outside s d).isSuccess then fine else failure,
          bytesOf (reportOn around outside s d).display, none, some s,
          p.source⟩ := by
  obtain ⟨empty, fits⟩ := accepts
  have whole := Run.document_of_fits (sourceFor around s) d
    ⟨Session.start outside, around.sink, []⟩ (fits s d loads)
  refine ⟨_, whole, ?_⟩
  have started : Run.start (sourceFor around s) (Session.start outside)
      around.sink d = _ := whole
  rw [checkDocument, started]
  simp only [reportOn, Run.advance, Sink.append, empty, List.nil_append]
  rfl

/-- If settings and lock file load, the program prints the report on the document
and ends with the code of that. -/
theorem run_of_loads (asks : read arguments = .ok (.check given))
    (accepts : Accepts around outside given) (loads : Loads around given s d) :
    ∃ p, Run.start (sourceFor around s) (Session.start outside) around.sink d =
        (some (reportOn around outside s d), p) ∧
      run around outside arguments =
        ⟨if (reportOn around outside s d).isSuccess then fine else failure,
          bytesOf (reportOn around outside s d).display, none, some s,
          p.source⟩ := by
  obtain ⟨p, started, whole⟩ := checkDocument_of_accepts accepts loads
  refine ⟨p, started, ?_⟩
  rw [← whole, run, asks]
  simp only [perform, settingsFor_eq_ok_iff.mpr loads.settings, checkUnder,
    loads.lock]

theorem code_of_loads (asks : read arguments = .ok (.check given))
    (accepts : Accepts around outside given) (loads : Loads around given s d) :
    (run around outside arguments).code =
      if (reportOn around outside s d).isSuccess then 0 else 1 := by
  obtain ⟨p, -, whole⟩ := run_of_loads asks accepts loads
  rw [whole]
  rfl

theorem code_eq_zero_iff (asks : read arguments = .ok (.check given))
    (accepts : Accepts around outside given) (loads : Loads around given s d) :
    (run around outside arguments).code = 0 ↔
      (reportOn around outside s d).isSuccess = true := by
  rw [code_of_loads asks accepts loads]
  simp

/-- If either does not load, the program ends before anything has happened. -/
theorem run_of_not_loads (asks : read arguments = .ok (.check given))
    (h : ¬ ∃ s d, Loads around given s d) (outside : σ) :
    (run around outside arguments).code = 1 ∧
      (run around outside arguments).output = [] ∧
      (run around outside arguments).session = Session.start outside := by
  rw [run, asks]
  simp only [perform]
  cases settings : settingsFor around given with
  | error e => exact ⟨rfl, rfl, rfl⟩
  | ok s =>
      simp only [checkUnder]
      cases lock : Lock.load around.files s.lockPath with
      | error e => exact ⟨rfl, rfl, rfl⟩
      | ok d =>
          exact absurd ⟨s, d, settingsFor_eq_ok_iff.mp settings, lock⟩ h

end Run

/-- The program ends with zero just if everything loads and every component of the
document gets the favourable verdict, and else with one.  If settings or lock file
do not load, nothing is printed, and no request and no inspection has happened; if
they do, what is printed is the whole report, which ends in the line of success
just if the code is zero. -/
theorem run_fails_closed (around : Surroundings σ) (outside : σ)
    (arguments : List String) (given : Given)
    (asks : read arguments = .ok (.check given))
    (accepts : Accepts around outside given) :
    ((run around outside arguments).code = 0 ↔
      ∃ s d, Loads around given s d ∧
        ∀ c ∈ (reportOn around outside s d).components,
          c.outcome.isOk = true) ∧
    ((run around outside arguments).code ≠ 0 →
      (run around outside arguments).code = 1) ∧
    ((¬ ∃ s d, Loads around given s d) →
      (run around outside arguments).output = [] ∧
      (run around outside arguments).session = ⟨outside, []⟩) ∧
    ∀ s d, Loads around given s d →
      ∃ p, Run.start (sourceFor around s) (Session.start outside) around.sink d =
          (some (reportOn around outside s d), p) ∧
        (reportOn around outside s d).components.map (·.name) =
          d.components.map Prod.fst ∧
        (run around outside arguments).output =
          bytesOf (reportOn around outside s d).display ∧
        (run around outside arguments).session = p.source ∧
        (bytesOf Report.successLine <:+ (run around outside arguments).output ↔
          (run around outside arguments).code = 0) := by
  refine ⟨⟨?_, ?_⟩, ?_, ?_, ?_⟩
  · intro zero
    by_cases h : ∃ s d, Loads around given s d
    · obtain ⟨s, d, loads⟩ := h
      have success := (code_eq_zero_iff asks accepts loads).mp zero
      exact ⟨s, d, loads, (Run.isSuccess_iff _).mp success⟩
    · have one := (run_of_not_loads asks h outside).1
      omega
  · rintro ⟨s, d, loads, favourable⟩
    apply (code_eq_zero_iff asks accepts loads).mpr
    exact (Run.isSuccess_iff _).mpr favourable
  · intro other
    by_cases h : ∃ s d, Loads around given s d
    · obtain ⟨s, d, loads⟩ := h
      rw [code_of_loads asks accepts loads] at other ⊢
      exact if_neg fun success => other (if_pos success)
    · exact (run_of_not_loads asks h outside).1
  · intro h
    exact (run_of_not_loads asks h outside).2
  · intro s d loads
    obtain ⟨p, started, whole⟩ := run_of_loads asks accepts loads
    refine ⟨p, started, ?_, ?_, ?_, ?_⟩
    · rw [reportOn, Run.components_found, Run.names_findings]
    · rw [whole]
    · rw [whole]
    · rw [code_eq_zero_iff asks accepts loads, whole]
      exact Report.successLine_suffix_iff _

/-- Surroundings with the sample as the only file, and with its signature at every
address. -/
def sampleSurroundings : Surroundings Unit where
  environment := ⟨some "/home/me", none, none⟩
  files path :=
    if path = "lock.json" then .regular (bytesOf Extraction.sampleText)
    else .absent
  client := Extraction.sampleClient
  disk := .endless
  execute _ _ _ := (.error .notFound, ())
  words _ := ""
  sink := .endless

theorem run_fails_closed_sample :
    (run sampleSurroundings () ["--inspector", "native", "lock.json"]).code = 0 ∧
      bytesOf Report.successLine <:+
        (run sampleSurroundings () ["--inspector", "native", "lock.json"]).output := by
  let given : Given := ⟨some "lock.json", none, some .native, none, none⟩
  let settings : Settings := given.over .standard
  have asks : read ["--inspector", "native", "lock.json"] = .ok (.check given) := by
    decide +kernel
  have accepts : Accepts sampleSurroundings () given :=
    ⟨rfl, fun s d _ => Sink.fits_endless _⟩
  have lock : Lock.load sampleSurroundings.files settings.lockPath =
      .ok Extraction.sampleDocument := by
    decide +kernel
  have loads : Loads sampleSurroundings given settings Extraction.sampleDocument :=
    ⟨.usual rfl rfl (by decide +kernel), lock⟩
  have favourable : ∀ c ∈ (reportOn sampleSurroundings () settings
      Extraction.sampleDocument).components, c.outcome.isOk = true := by
    decide +kernel
  obtain ⟨zero, -, -, each⟩ :=
    run_fails_closed sampleSurroundings () _ given asks accepts
  have code := zero.mpr ⟨settings, _, loads, favourable⟩
  obtain ⟨p, -, -, -, -, line⟩ := each settings _ loads
  exact ⟨code, line.mpr code⟩

end Command

end IssuerAudit
