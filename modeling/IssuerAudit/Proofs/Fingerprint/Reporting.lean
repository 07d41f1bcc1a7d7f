import Mathlib.Order.Nat
import IssuerAudit.Proofs.Fingerprint.Search
import IssuerAudit.Proofs.Text.Lines
/-!
What the search of a listing finds.  The first line that holds the marker and, in
capitals, a run of digits reports the leftmost run of it; lines with only one of
the two count for nothing: `extract?_first_reported`.
-/

namespace IssuerAudit.Fingerprint

/-- The characters that fingerprints are written with. -/
def capitalDigits : List Char :=
  "0123456789ABCDEF".toList

theorem toNat_lt_of_isCapitalHex {c : Char} (h : isCapitalHex c = true) :
    c.toNat < 0x80 := by
  simp only [isCapitalHex, Bool.or_eq_true, Bool.and_eq_true, decide_eq_true_eq,
    Char.le_def, UInt32.le_iff_toNat_le] at h
  have ends : '9'.val.toNat < 0x80 ∧ 'F'.val.toNat < 0x80 := by decide
  change c.val.toNat < 0x80
  omega

theorem isCapitalHex_iff {c : Char} :
    isCapitalHex c = true ↔ c ∈ capitalDigits := by
  have low : ∀ n : Fin 128, isCapitalHex (Char.ofNat n) = true →
      Char.ofNat n ∈ capitalDigits := by decide +kernel
  have listed : capitalDigits.all isCapitalHex = true := by decide
  constructor
  · intro h
    have found := low ⟨c.toNat, toNat_lt_of_isCapitalHex h⟩
    rw [Char.ofNat_toNat] at found
    exact found h
  · exact List.all_eq_true.mp listed c

/-- Holds of a place in a text from which on `n` characters are digits. -/
structure RunAt (n : Nat) (cs : List Char) (i : Nat) : Prop where
  fits : i + n ≤ cs.length
  capital : ∀ c ∈ (cs.drop i).take n, c ∈ capitalDigits

/-- Holds of the leftmost of these places. -/
structure FirstRunAt (n : Nat) (cs : List Char) (i : Nat) : Prop where
  run : RunAt n cs i
  leftmost : ∀ j < i, ¬ RunAt n cs j

theorem runAt_succ {n i : Nat} {c : Char} {rest : List Char} :
    RunAt n (c :: rest) (i + 1) ↔ RunAt n rest i := by
  constructor
  · rintro ⟨fits, capital⟩
    rw [List.length_cons] at fits
    exact ⟨by omega, capital⟩
  · rintro ⟨fits, capital⟩
    refine ⟨?_, capital⟩
    rw [List.length_cons]
    omega

/-- Holds if the first `n` of some characters or bytes are there and pass a test. -/
structure Opens {α : Type} (test : α → Bool) (n : Nat) (xs : List α) : Prop where
  fits : n ≤ xs.length
  pass : ∀ x ∈ xs.take n, test x = true

/-- The block that a search looks at next. -/
theorem opens_iff_window {α : Type} {test : α → Bool} {n : Nat} {xs : List α} :
    Opens test n xs ↔
      ((xs.take n).length = n && (xs.take n).all test) = true := by
  rw [Bool.and_eq_true, decide_eq_true_eq, List.length_take, List.all_eq_true]
  constructor
  · rintro ⟨fits, pass⟩
    exact ⟨by omega, pass⟩
  · rintro ⟨long, pass⟩
    exact ⟨by omega, pass⟩

theorem runAt_iff_opens {n : Nat} {cs : List Char} :
    RunAt n cs 0 ↔ Opens isCapitalHex n cs := by
  constructor
  · rintro ⟨fits, capital⟩
    rw [Nat.zero_add] at fits
    exact ⟨fits, fun c hc => isCapitalHex_iff.mpr (capital c hc)⟩
  · rintro ⟨fits, pass⟩
    refine ⟨?_, fun c hc => isCapitalHex_iff.mp (pass c hc)⟩
    rwa [Nat.zero_add]

theorem runAt_zero {n : Nat} {cs : List Char} :
    RunAt n cs 0 ↔
      ((cs.take n).length = n && (cs.take n).all isCapitalHex) = true :=
  runAt_iff_opens.trans opens_iff_window

/-- If there is a run at all, one is the leftmost. -/
theorem exists_firstRunAt {n : Nat} {cs : List Char} (h : ∃ i, RunAt n cs i) :
    ∃ i, FirstRunAt n cs i := by
  classical
  exact ⟨Nat.find h, Nat.find_spec h, fun _ less => Nat.find_min h less⟩

theorem firstRunAt_succ {n i : Nat} {c : Char} {rest : List Char}
    (none : ¬ RunAt n (c :: rest) 0) :
    FirstRunAt n (c :: rest) (i + 1) ↔ FirstRunAt n rest i := by
  constructor
  · rintro ⟨run, leftmost⟩
    refine ⟨runAt_succ.mp run, ?_⟩
    intro j less earlier
    exact leftmost (j + 1) (Nat.succ_lt_succ less) (runAt_succ.mpr earlier)
  · rintro ⟨run, leftmost⟩
    refine ⟨runAt_succ.mpr run, ?_⟩
    intro j less earlier
    cases j with
    | zero => exact none earlier
    | succ j =>
        exact leftmost j (Nat.lt_of_succ_lt_succ less) (runAt_succ.mp earlier)

theorem firstRunAt_iff_zero {n i : Nat} {cs : List Char}
    (here : RunAt n cs 0) : FirstRunAt n cs i ↔ i = 0 := by
  constructor
  · rintro ⟨-, leftmost⟩
    by_contra later
    exact leftmost 0 (Nat.pos_of_ne_zero later) here
  · rintro rfl
    exact ⟨here, fun j less => absurd less (Nat.not_lt_zero j)⟩

/-- The search ends where a run starts. -/
theorem firstRun?_of_run {n : Nat} {cs : List Char} (here : RunAt n cs 0) :
    firstRun? n cs = some (cs.take n) := by
  cases cs with
  | nil =>
      have none := here.fits
      rw [List.length_nil] at none
      rw [firstRun?, if_pos (by omega), List.take_nil]
  | cons c rest => rw [firstRun?, if_pos (runAt_zero.mp here)]

theorem firstRun?_of_not_run {n : Nat} {c : Char} {rest : List Char}
    (none : ¬ RunAt n (c :: rest) 0) :
    firstRun? n (c :: rest) = firstRun? n rest := by
  rw [firstRun?, if_neg (mt runAt_zero.mpr none)]

theorem firstRun?_nil {n : Nat} (none : ¬ RunAt n [] 0) :
    firstRun? n [] = Option.none := by
  have more : n ≠ 0 := by
    rintro rfl
    exact none ⟨Nat.le_refl 0, by simp⟩
  rw [firstRun?, if_neg more]

/-- The search finds the leftmost run, and nothing just if there is none. -/
theorem firstRun?_eq_some_iff {n : Nat} {cs run : List Char} :
    firstRun? n cs = some run ↔
      ∃ i, FirstRunAt n cs i ∧ run = (cs.drop i).take n := by
  induction cs with
  | nil =>
      by_cases here : RunAt n [] 0
      · simp [firstRun?_of_run here, firstRunAt_iff_zero here, eq_comm]
      · rw [firstRun?_nil here]
        constructor
        · exact nofun
        · rintro ⟨i, ⟨⟨fits, -⟩, -⟩, -⟩
          rw [List.length_nil] at fits
          exact absurd ⟨by simp; omega, by simp⟩ here
  | cons c rest ih =>
      by_cases here : RunAt n (c :: rest) 0
      · simp [firstRun?_of_run here, firstRunAt_iff_zero here, eq_comm]
      · rw [firstRun?_of_not_run here, ih]
        constructor
        · rintro ⟨i, first, rfl⟩
          exact ⟨i + 1, (firstRunAt_succ here).mpr first, rfl⟩
        · rintro ⟨i, first, rfl⟩
          cases i with
          | zero => exact absurd first.run here
          | succ i => exact ⟨i, (firstRunAt_succ here).mp first, rfl⟩

/-- Holds of the lines that report a fingerprint: the marker stands in them, in its
own case, and a run of digits once they are in capitals. -/
structure Reports (line : List Char) : Prop where
  marked : marker <:+: line
  run : ∃ i, RunAt digits (Text.upperChars line) i

theorem ofLine?_eq_some_iff {line run : List Char} :
    ofLine? line = some run ↔ marker <:+: line ∧
      ∃ i, FirstRunAt digits (Text.upperChars line) i ∧
        run = ((Text.upperChars line).drop i).take digits := by
  rw [ofLine?, ← firstRun?_eq_some_iff, ← occursIn_iff]
  cases occursIn marker line <;> simp

theorem ofLine?_eq_none_iff {line : List Char} :
    ofLine? line = none ↔ ¬ Reports line := by
  constructor
  · rintro silent ⟨marked, run⟩
    obtain ⟨i, first⟩ := exists_firstRunAt run
    have found := ofLine?_eq_some_iff.mpr ⟨marked, i, first, rfl⟩
    rw [silent] at found
    exact nomatch found
  · intro silent
    cases found : ofLine? line with
    | none => rfl
    | some run =>
        obtain ⟨marked, i, first, -⟩ := ofLine?_eq_some_iff.mp found
        exact absurd ⟨marked, i, first.run⟩ silent

theorem extract?_eq_some_iff {listing f : String} :
    extract? listing = some f ↔ ofListing? listing.toList = some f.toList := by
  rw [extract?, Option.map_eq_some_iff]
  constructor
  · rintro ⟨run, found, rfl⟩
    rw [found, String.toList_ofList]
  · intro found
    exact ⟨f.toList, found, String.ofList_toList⟩

/-- A fingerprint is found in a listing just if a line reports one.  It is then the
leftmost run of the first line that reports, whatever stands in the lines before
that, and it has forty capital digits. -/
theorem extract?_first_reported (listing : String) :
    ∃ ls, (∀ other, Text.HasLines listing.toList other ↔ other = ls) ∧
      ((∃ f, extract? listing = some f) ↔ ∃ line ∈ ls, Reports line) ∧
      (∀ f, extract? listing = some f ↔
        ∃ earlier line later, ls = earlier ++ line :: later ∧
          (∀ other ∈ earlier, ¬ Reports other) ∧ marker <:+: line ∧
          ∃ i, FirstRunAt digits (Text.upperChars line) i ∧
            f.toList = ((Text.upperChars line).drop i).take digits) ∧
      ∀ f, extract? listing = some f →
        f.length = 40 ∧ ∀ c ∈ f.toList, c ∈ capitalDigits := by
  refine ⟨Text.lines listing.toList, ?_, ?_, ?_, ?_⟩
  · intro other
    rw [Text.hasLines_iff]
    exact eq_comm
  · have silent : extract? listing = none ↔
        ∀ line ∈ Text.lines listing.toList, ¬ Reports line := by
      rw [extract?, Option.map_eq_none_iff, ofListing?,
        List.findSome?_eq_none_iff]
      simp only [ofLine?_eq_none_iff]
    rw [← Option.ne_none_iff_exists', ne_eq, silent]
    simp only [not_forall, not_not, exists_prop]
  · intro f
    rw [extract?_eq_some_iff, ofListing?, List.findSome?_eq_some_iff]
    simp only [ofLine?_eq_some_iff, ofLine?_eq_none_iff]
    constructor
    · rintro ⟨earlier, line, later, cut, found, silent⟩
      exact ⟨earlier, line, later, cut, silent, found⟩
    · rintro ⟨earlier, line, later, cut, silent, found⟩
      exact ⟨earlier, line, later, cut, found, silent⟩
  · intro f found
    obtain ⟨long, capital⟩ := extract?_digits found
    refine ⟨long, ?_⟩
    intro c hc
    exact isCapitalHex_iff.mp (List.all_eq_true.mp capital c hc)

/-- A listing that reports a fingerprint in small letters. -/
def smallListing : String :=
  ":signature packet:\n" ++
    "\t(issuer fpr v4 0123456789abcdef0123456789abcdef01234567)\n"

/-- What is reported in small letters is found in capitals. -/
theorem extract?_first_reported_small :
    extract? smallListing = some "0123456789ABCDEF0123456789ABCDEF01234567" := by
  let line := "\t(issuer fpr v4 0123456789abcdef0123456789abcdef01234567)".toList
  obtain ⟨ls, cut, -, found, -⟩ := extract?_first_reported smallListing
  have lines : [":signature packet:".toList, line] = ls :=
    (cut _).mp (Text.hasLines_iff.mpr (by decide))
  have capital : (((Text.upperChars line).drop 16).take digits).all isCapitalHex := by
    decide
  have gap : ∀ i < 16, ' ' ∈ ((Text.upperChars line).drop i).take digits := by decide
  refine (found _).mpr ⟨[":signature packet:".toList], line, [], lines.symm, ?_,
    ⟨"\t(".toList, " 0123456789abcdef0123456789abcdef01234567)".toList, by decide⟩,
    16, ⟨⟨by decide, ?_⟩, ?_⟩, by decide⟩
  · intro other among reports
    rw [List.mem_singleton.mp among] at reports
    exact absurd reports.marked (by decide)
  · intro c hc
    exact isCapitalHex_iff.mp (List.all_eq_true.mp capital c hc)
  · intro i less run
    exact absurd (run.capital ' ' (gap i less)) (by decide)

end IssuerAudit.Fingerprint
