import Mathlib.Data.List.Basic
import IssuerAudit.Report.Outline
/-!
Reading a report back.  Where no name, fingerprint or message breaks a line, the
lines of the text tell by their first characters and their ends alone which
channels there are and how each component came out, whatever the names look like:
`display_read_back`.
-/

namespace IssuerAudit

/-- The fingerprints or the message that a verdict tells. -/
def Outcome.words : Outcome → List String
  | .ok expected actual => [expected, actual]
  | .mismatch expected actual => [expected, actual]
  | .missing => []
  | .failed message => [message]

theorem Outcome.text_ok (expected actual : String) :
    (ok expected actual).text =
      "expected=" ++ expected ++ " signature=" ++ actual ++ " status=OK" :=
  rfl

theorem Outcome.text_mismatch (expected actual : String) :
    (mismatch expected actual).text =
      "expected=" ++ expected ++ " signature=" ++ actual ++
        " status=MISMATCH" :=
  rfl

theorem Outcome.text_failed (message : String) :
    (failed message).text = "error reading signature (" ++ message ++ ")" :=
  rfl

namespace Report

/-- Holds of reports in which no name, fingerprint or message breaks a line. -/
structure Unbroken (r : Report) : Prop where
  channels : ∀ c ∈ r.channels, '\n' ∉ c.name.toList
  components : ∀ c ∈ r.channels, ∀ p ∈ c.components, '\n' ∉ p.name.toList
  words : ∀ c ∈ r.channels, ∀ p ∈ c.components, ∀ word ∈ p.outcome.words,
    '\n' ∉ word.toList

/-- The line that opens a channel. -/
def headerLine (channel : String) : List Char :=
  '[' :: (channel.toList ++ [']'])

/-- The line that tells of a component. -/
def componentLine (p : ComponentReport) : List Char :=
  ' ' :: ' ' :: p.line.toList

/-- The lines of a channel. -/
def channelLines (c : ChannelReport) : List (List Char) :=
  headerLine c.name :: c.components.map componentLine

/-- The lines of a report. -/
def lines (r : Report) : List (List Char) :=
  r.channels.flatMap channelLines ++ [[], r.summary.toList]

theorem toList_headerPiece (channel : String) :
    (headerPiece channel).toList = headerLine channel ++ ['\n'] := by
  have opening : "[".toList = ['['] := by decide
  have ending : "]\n".toList = [']', '\n'] := by decide
  rw [headerPiece, String.toList_append, String.toList_append, opening, ending,
    headerLine]
  simp

theorem toList_componentPiece (p : ComponentReport) :
    (componentPiece p).toList = componentLine p ++ ['\n'] := by
  have opening : "  ".toList = [' ', ' '] := by decide
  have ending : "\n".toList = ['\n'] := by decide
  rw [componentPiece, String.toList_append, String.toList_append, opening,
    ending, componentLine]
  rfl

theorem toList_channelText (c : ChannelReport) :
    (channelText c).toList = (channelLines c).flatMap (· ++ ['\n']) := by
  rw [channelText, String.toList_append, String.toList_join,
    toList_headerPiece, channelLines, List.flatMap_cons, List.flatMap_map,
    List.flatMap_map]
  simp only [toList_componentPiece]

/-- The text of a report is its lines, each with its end. -/
theorem toList_display (r : Report) :
    r.display.toList = r.lines.flatMap (· ++ ['\n']) := by
  have closing : r.closingPiece.toList =
      [[], r.summary.toList].flatMap (· ++ ['\n']) := by
    have feed : "\n".toList = ['\n'] := by decide
    rw [closingPiece, String.toList_append, String.toList_append, feed]
    simp
  rw [display, String.toList_append, String.toList_join, closing, lines,
    List.flatMap_append, List.flatMap_map, List.flatMap_assoc]
  simp only [toList_channelText]

theorem newline_not_mem_text {o : Outcome}
    (h : ∀ word ∈ o.words, '\n' ∉ word.toList) : '\n' ∉ o.text.toList := by
  have both : ∀ {expected actual ending : String}, '\n' ∉ expected.toList →
      '\n' ∉ actual.toList → '\n' ∉ ending.toList →
      '\n' ∉ ("expected=" ++ expected ++ " signature=" ++ actual ++ ending).toList := by
    intro expected actual ending first second last
    simp only [String.toList_append, List.mem_append, not_or]
    exact ⟨⟨⟨⟨by decide, first⟩, by decide⟩, second⟩, last⟩
  cases o with
  | ok expected actual =>
      rw [Outcome.text_ok]
      exact both (h expected (by simp [Outcome.words]))
        (h actual (by simp [Outcome.words])) (by decide)
  | mismatch expected actual =>
      rw [Outcome.text_mismatch]
      exact both (h expected (by simp [Outcome.words]))
        (h actual (by simp [Outcome.words])) (by decide)
  | missing => decide
  | failed message =>
      have only := h message (by simp [Outcome.words])
      simp only [Outcome.text_failed, String.toList_append, List.mem_append, not_or]
      exact ⟨⟨by decide, only⟩, by decide⟩

theorem newline_not_mem_componentLine {p : ComponentReport}
    (name : '\n' ∉ p.name.toList)
    (words : ∀ word ∈ p.outcome.words, '\n' ∉ word.toList) :
    '\n' ∉ componentLine p := by
  have line : '\n' ∉ p.line.toList := by
    simp only [ComponentReport.line, String.toList_append, List.mem_append,
      not_or]
    exact ⟨⟨name, by decide⟩, newline_not_mem_text words⟩
  simp [componentLine, line]

theorem newline_not_mem_summary (r : Report) : '\n' ∉ r.summary.toList := by
  unfold summary summaryLine
  split
  · decide
  · simp only [String.toList_append, List.mem_append, not_or]
    refine ⟨⟨by decide, ?_⟩, by decide⟩
    intro mem
    rw [Nat.toString_eq_ofList_toDigits, String.toList_ofList] at mem
    have digit := Nat.isDigit_of_mem_toDigits (by decide) (by decide) mem
    exact absurd digit (by decide)

/-- No line of an unbroken report is broken. -/
theorem Unbroken.lines {r : Report} (h : r.Unbroken) :
    ∀ line ∈ r.lines, '\n' ∉ line := by
  intro line mem
  rw [Report.lines, List.mem_append, List.mem_flatMap] at mem
  rcases mem with ⟨c, hc, mem⟩ | mem
  · rw [channelLines, List.mem_cons, List.mem_map] at mem
    rcases mem with rfl | ⟨p, hp, rfl⟩
    · have name := h.channels c hc
      simp [headerLine, name]
    · exact newline_not_mem_componentLine (h.components c hc p hp)
        (h.words c hc p hp)
  · simp only [List.mem_cons, List.not_mem_nil, or_false] at mem
    rcases mem with rfl | rfl
    · exact List.not_mem_nil
    · exact newline_not_mem_summary r

/-- Cut at line feeds the text of a report falls into its lines, with nothing behind
the last line feed. -/
theorem pieces_display {r : Report} (h : r.Unbroken) :
    Text.pieces '\n' r.display.toList = r.lines ++ [[]] := by
  rw [toList_display, Text.pieces_flatMap_sep h.lines]

/-- A line ends in the words for the favourable verdict just if it tells of one. -/
theorem fineEnd_suffix_text (o : Outcome) (front : List Char) :
    fineEnd <:+ front ++ o.text.toList ↔ o.isOk = true := by
  -- any other verdict ends in words that are no end of these, nor have them as theirs
  have other : ∀ ending : String, (∃ words : String, o.text = words ++ ending) →
      fineEnd.isSuffixOf ending.toList = false →
      ending.toList.isSuffixOf fineEnd = false →
      ¬ fineEnd <:+ front ++ o.text.toList := by
    rintro ending ⟨words, text⟩ longer shorter fine
    have last : ending.toList <:+ front ++ o.text.toList := by
      rw [text, String.toList_append, ← List.append_assoc]
      exact List.suffix_append _ _
    rcases List.suffix_or_suffix_of_suffix fine last with inside | inside
    · rw [← List.isSuffixOf_iff_suffix, longer] at inside
      exact Bool.noConfusion inside
    · rw [← List.isSuffixOf_iff_suffix, shorter] at inside
      exact Bool.noConfusion inside
  cases o with
  | ok expected actual =>
      apply iff_of_true _ rfl
      rw [Outcome.text_ok, String.toList_append, ← List.append_assoc]
      exact List.suffix_append _ _
  | mismatch expected actual =>
      apply iff_of_false _ Bool.false_ne_true
      exact other " status=MISMATCH" ⟨_, rfl⟩ (by decide) (by decide)
  | missing =>
      apply iff_of_false _ Bool.false_ne_true
      exact other "missing signature_url" ⟨"", String.empty_append.symm⟩ (by decide)
        (by decide)
  | failed message =>
      apply iff_of_false _ Bool.false_ne_true
      exact other ")" ⟨_, rfl⟩ (by decide) (by decide)

theorem toList_line (p : ComponentReport) :
    p.line.toList = (p.name ++ ": ").toList ++ p.outcome.text.toList := by
  rw [ComponentReport.line, String.toList_append]

theorem fineEnd_suffix_componentLine (p : ComponentReport) :
    fineEnd <:+ componentLine p ↔ p.outcome.isOk = true := by
  have line : componentLine p =
      (' ' :: ' ' :: (p.name ++ ": ").toList) ++ p.outcome.text.toList := by
    rw [componentLine, toList_line]
    rfl
  rw [line, fineEnd_suffix_text]

/-- The closing line looks like no other. -/
theorem exists_summary_head (r : Report) :
    ∃ c rest, r.summary.toList = c :: rest ∧ c ≠ '[' ∧ c ≠ ' ' := by
  unfold summary summaryLine
  split
  · exact ⟨_, _, rfl, by decide, by decide⟩
  · have opening : "Found ".toList = 'F' :: "ound ".toList := by decide
    rw [String.toList_append, String.toList_append, opening]
    exact ⟨_, _, rfl, by decide, by decide⟩

theorem isPrefixOf_summary (r : Report) {c : Char} (first : c = '[' ∨ c = ' ')
    (more : List Char) : (c :: more).isPrefixOf r.summary.toList = false := by
  obtain ⟨d, rest, summary, noHeader, noComponent⟩ := exists_summary_head r
  have apart : c ≠ d := by
    rcases first with rfl | rfl
    · exact noHeader.symm
    · exact noComponent.symm
  rw [summary, List.isPrefixOf_cons_cons, beq_false_of_ne apart, Bool.false_and]

theorem kindOf_headerLine (channel : String) :
    kindOf (headerLine channel) = .channel channel.toList := by
  have kind : kindOf (headerLine channel) =
      .channel (channel.toList ++ [']']).dropLast := rfl
  rw [kind, List.dropLast_concat]

theorem kindOf_componentLine (p : ComponentReport) :
    kindOf (componentLine p) = .component p.outcome.isOk := by
  have kind : kindOf (componentLine p) =
      .component (fineEnd.isSuffixOf p.line.toList) := rfl
  rw [kind, toList_line, LineKind.component.injEq, Bool.eq_iff_iff,
    List.isSuffixOf_iff_suffix, fineEnd_suffix_text]

theorem kindOf_summary (r : Report) :
    kindOf r.summary.toList = .closing r.summary.toList := by
  obtain ⟨c, rest, summary, noHeader, noComponent⟩ := exists_summary_head r
  rw [summary]
  unfold kindOf
  split
  · next h => exact nomatch h
  · next h => exact absurd (List.cons.inj h).1 noHeader
  · next h => exact absurd (List.cons.inj h).1 noComponent
  · rfl

/-- Lines of components are read up to the first other line. -/
theorem readFine_append (fine : List Bool) {rest : List LineKind}
    (other : ∀ b, rest.head? ≠ some (.component b)) :
    readFine (fine.map .component ++ rest) = (fine, rest) := by
  induction fine with
  | nil =>
      cases rest with
      | nil => rfl
      | cons kind rest =>
          cases kind with
          | component b => exact absurd rfl (other b)
          | channel name => rfl
          | blank => rfl
          | closing text => rfl
  | cons b fine ih => rw [List.map_cons, List.cons_append, readFine, ih]

/-- The kinds of the lines of a channel. -/
def channelKinds (c : ChannelOutline) : List LineKind :=
  .channel c.name :: c.fine.map .component

/-- Channel by channel an outline is read from the kinds of its lines. -/
theorem readOutline?_kinds (channels : List ChannelOutline)
    (closing : List Char) :
    readOutline? (channels.flatMap channelKinds ++
      [.blank, .closing closing, .blank]) = some ⟨channels, closing⟩ := by
  induction channels with
  | nil => rw [List.flatMap_nil, List.nil_append, readOutline?]
  | cons c rest ih =>
      have other : ∀ b, (rest.flatMap channelKinds ++
          [LineKind.blank, .closing closing, .blank]).head? ≠
            some (.component b) := by
        cases rest <;> simp [channelKinds]
      rw [List.flatMap_cons, channelKinds, List.cons_append, List.cons_append,
        List.append_assoc, readOutline?, readFine_append c.fine other, ih]
      rfl

/-- The outline of a report is read back from its text. -/
theorem outlineOfText?_display {r : Report} (h : r.Unbroken) :
    outlineOfText? r.display = some r.outline := by
  have channel : ∀ c : ChannelReport, (channelLines c).map kindOf =
      channelKinds ⟨c.name.toList, c.components.map (·.outcome.isOk)⟩ := by
    intro c
    rw [channelLines, List.map_cons, kindOf_headerLine, List.map_map,
      channelKinds, List.map_map]
    congr 2
    funext p
    exact kindOf_componentLine p
  have kinds : (r.lines ++ [[]]).map kindOf =
      r.outline.channels.flatMap channelKinds ++
        [.blank, .closing r.summary.toList, .blank] := by
    rw [lines, outline, List.append_assoc, List.map_append, List.map_flatMap,
      List.flatMap_map]
    simp only [channel, List.cons_append, List.nil_append, List.map_cons,
      List.map_nil, kindOf_summary]
    rfl
  rw [outlineOfText?, pieces_display h, kinds, readOutline?_kinds]
  rfl

theorem mismatches_outline (r : Report) : r.outline.mismatches = r.mismatches := by
  rw [Outline.mismatches, outline, List.flatMap_map, ← List.map_flatMap,
    List.countP_map]
  rfl

/-- A test that neither blank lines nor the closing one pass picks from the lines of
the channels. -/
theorem filter_lines (r : Report) {test : List Char → Bool}
    (blank : test [] = false) (closing : test r.summary.toList = false) :
    (r.lines ++ [[]]).filter test =
      r.channels.flatMap fun c => (channelLines c).filter test := by
  rw [lines, List.append_assoc, List.filter_append, List.filter_flatMap]
  simp [blank, closing]

/-- The lines that start with a bracket are those that open channels. -/
theorem filter_headers (r : Report) :
    (r.lines ++ [[]]).filter ['['].isPrefixOf =
      r.channels.map (headerLine ·.name) := by
  have channel : ∀ c : ChannelReport,
      (channelLines c).filter ['['].isPrefixOf = [headerLine c.name] := by
    intro c
    have others : (c.components.map componentLine).filter ['['].isPrefixOf = [] := by
      rw [List.filter_eq_nil_iff]
      intro line mem
      obtain ⟨p, -, rfl⟩ := List.mem_map.mp mem
      simp [componentLine]
    rw [channelLines, List.filter_cons_of_pos (by simp [headerLine]), others]
  have closing := isPrefixOf_summary r (Or.inl rfl) []
  rw [filter_lines r rfl closing, List.map_eq_flatMap]
  simp only [channel]

/-- The lines that start with two blanks are those that tell of components. -/
theorem filter_components (r : Report) :
    (r.lines ++ [[]]).filter [' ', ' '].isPrefixOf =
      r.components.map componentLine := by
  have channel : ∀ c : ChannelReport,
      (channelLines c).filter [' ', ' '].isPrefixOf =
        c.components.map componentLine := by
    intro c
    rw [channelLines, List.filter_cons_of_neg (by simp [headerLine]),
      List.filter_eq_self]
    intro line mem
    obtain ⟨p, -, rfl⟩ := List.mem_map.mp mem
    simp [componentLine]
  have closing := isPrefixOf_summary r (Or.inr rfl) [' ']
  rw [filter_lines r rfl closing, components, List.map_flatMap]
  simp only [channel]

/-- As many lines of components lack the words for the favourable verdict at their
end as components did not get it. -/
theorem countP_components (r : Report) :
    (r.components.map componentLine).countP (fun line => !fineEnd.isSuffixOf line) =
      r.mismatches := by
  rw [List.countP_map, mismatches]
  apply List.countP_congr
  intro p _
  have same : fineEnd.isSuffixOf (componentLine p) = p.outcome.isOk := by
    rw [Bool.eq_iff_iff, List.isSuffixOf_iff_suffix,
      fineEnd_suffix_componentLine]
  rw [Function.comp_apply, same]

theorem summary_eq_success_iff (r : Report) :
    r.summary = "All runtime signature fingerprints match lock file." ↔
      r.mismatches = 0 := by
  constructor
  · intro success
    by_contra some
    have other : r.summary =
        "Found " ++ toString r.mismatches ++ " mismatch(es)." := if_neg some
    rw [success] at other
    have opening : "Found ".toList = 'F' :: "ound ".toList := by decide
    have starts := congrArg (fun text : String => text.toList.head?) other
    simp only [String.toList_append, opening, List.cons_append,
      List.head?_cons] at starts
    exact absurd starts (by decide)
  · intro none
    exact if_pos none

/-- Where no name, fingerprint or message breaks a line, the text of a report falls
at its line feeds into a header for each channel with the lines of its components
behind it, a blank line and the closing line.  The first characters tell which line
is which, the end of a line of a component tells whether all is well with it, and
the lines without this end are as many as the closing line says.  So what channels
there are and how each component came out is read back, and reports with one text
agree in it. -/
theorem display_read_back (r : Report) (h : r.Unbroken) :
    let read := Text.pieces '\n' r.display.toList
    let told := read.filter [' ', ' '].isPrefixOf
    let bad := told.countP fun line => !fineEnd.isSuffixOf line
    read = r.channels.flatMap (fun c =>
        headerLine c.name :: c.components.map componentLine) ++
          [[], r.summary.toList, []] ∧
      read.filter ['['].isPrefixOf = r.channels.map (headerLine ·.name) ∧
      told = r.components.map componentLine ∧
      (∀ p ∈ r.components, fineEnd <:+ componentLine p ↔ p.outcome.isOk = true) ∧
      outlineOfText? r.display = some r.outline ∧
      bad = r.mismatches ∧
      (bad ≠ 0 → r.summary = "Found " ++ toString bad ++ " mismatch(es).") ∧
      (r.summary = "All runtime signature fingerprints match lock file." ↔
        bad = 0) ∧
      ∀ other : Report, other.Unbroken → other.display = r.display →
        other.outline = r.outline ∧ other.mismatches = r.mismatches := by
  have read : Text.pieces '\n' r.display.toList = r.lines ++ [[]] :=
    pieces_display h
  rw [read]
  intro read told bad
  have toldEq : told = r.components.map componentLine := filter_components r
  have badEq : bad = r.mismatches := by
    rw [← countP_components r, ← toldEq]
  refine ⟨?_, filter_headers r, toldEq, ?_, outlineOfText?_display h, badEq, ?_,
    ?_, ?_⟩
  · exact List.append_assoc _ _ _
  · intro p _
    exact fineEnd_suffix_componentLine p
  · rw [badEq]
    exact fun some => if_neg some
  · rw [badEq]
    exact summary_eq_success_iff r
  · intro other unbroken same
    have outline : other.outline = r.outline := by
      apply Option.some.inj
      rw [← outlineOfText?_display unbroken, ← outlineOfText?_display h, same]
    refine ⟨outline, ?_⟩
    rw [← mismatches_outline, ← mismatches_outline, outline]

/-- A report whose names look like other lines. -/
def misleading : Report :=
  ⟨[⟨"a] status=OK", [⟨"[b]", .ok "F" "F"⟩, ⟨"c: status=OK", .missing⟩]⟩,
    ⟨"  d", []⟩, ⟨"", [⟨"Found 0 mismatch(es).", .failed " status=OK"⟩]⟩]⟩

theorem misleading_read_back :
    misleading.display =
        "[a] status=OK]\n  [b]: expected=F signature=F status=OK\n" ++
          "  c: status=OK: missing signature_url\n[  d]\n[]\n" ++
          "  Found 0 mismatch(es).: error reading signature ( status=OK)\n" ++
          "\nFound 2 mismatch(es).\n" ∧
      outlineOfText? misleading.display =
        some ⟨[⟨"a] status=OK".toList, [true, false]⟩, ⟨"  d".toList, []⟩,
          ⟨[], [false]⟩], "Found 2 mismatch(es).".toList⟩ := by
  have unbroken : misleading.Unbroken :=
    ⟨by decide +kernel, by decide +kernel, by decide +kernel⟩
  obtain ⟨-, -, -, -, outline, -⟩ := display_read_back misleading unbroken
  refine ⟨by decide +kernel, ?_⟩
  rw [outline]
  decide +kernel

end Report

end IssuerAudit
