import Mathlib.Data.List.Forall2
import IssuerAudit.Proofs.Run.Findings
/-!
Runs whose sink breaks.  The text of a report is written while the run goes on,
so a sink that takes only so many bytes cuts both the text and the requests:
`run_streams_report` says that it takes the text up to exactly that byte, and
that asked for are exactly the components whose lines start no later.
-/

namespace IssuerAudit

open Text.Utf8 (bytesOf bytesOf_append)

variable {σ : Type}

namespace Report

/-- The offsets at which the lines of components start, from `start` on. -/
def lineStarts (start : Nat) : List ComponentReport → List Nat
  | [] => []
  | r :: rest =>
      start :: lineStarts (start + (bytesOf (componentPiece r)).length) rest

/-- The offsets at which the lines of the components of channels start. -/
def channelStarts (start : Nat) : List ChannelReport → List Nat
  | [] => []
  | c :: rest =>
      lineStarts (start + (bytesOf (headerPiece c.name)).length) c.components ++
        channelStarts (start + (bytesOf (channelText c)).length) rest

/-- For each component of a report the byte of the text at which its line
starts. -/
def starts (r : Report) : List Nat :=
  channelStarts 0 r.channels

theorem length_lineStarts (start : Nat) (rs : List ComponentReport) :
    (lineStarts start rs).length = rs.length := by
  induction rs generalizing start with
  | nil => rfl
  | cons r rest ih => exact congrArg (· + 1) (ih _)

theorem length_channelText (c : ChannelReport) :
    (bytesOf (channelText c)).length =
      (bytesOf (headerPiece c.name)).length +
        (bytesOf (linesText c.components)).length := by
  simp [channelText, linesText, bytesOf_append]

theorem mem_lineStarts_bounds {start offset : Nat} {rs : List ComponentReport}
    (h : offset ∈ lineStarts start rs) :
    start ≤ offset ∧ offset ≤ start + (bytesOf (linesText rs)).length := by
  induction rs generalizing start with
  | nil => simp [lineStarts] at h
  | cons r rest ih =>
      rw [linesText_cons, bytesOf_append, List.length_append]
      rcases List.mem_cons.mp h with rfl | h
      · omega
      · have bounds := ih h
        omega

theorem mem_channelStarts_bounds {start offset : Nat} {cs : List ChannelReport}
    (h : offset ∈ channelStarts start cs) :
    start ≤ offset ∧ offset ≤ start + (bytesOf (channelsText cs)).length := by
  induction cs generalizing start with
  | nil => simp [channelStarts] at h
  | cons c rest ih =>
      rw [channelsText_cons, bytesOf_append, List.length_append]
      have size := length_channelText c
      rcases List.mem_append.mp h with h | h
      · have bounds := mem_lineStarts_bounds h
        omega
      · have bounds := ih h
        omega

/-- Behind a text that is longer than `n` no line starts within `n`. -/
theorem lineStarts_late {n size : Nat} (hn : n < size) (start : Nat)
    (rs : List ComponentReport) :
    ∀ offset ∈ lineStarts (start + size) rs, start + n < offset :=
  fun _ h => Nat.lt_of_lt_of_le (Nat.add_lt_add_left hn start)
    (mem_lineStarts_bounds h).1

theorem channelStarts_late {n size : Nat} (hn : n < size) (start : Nat)
    (cs : List ChannelReport) :
    ∀ offset ∈ channelStarts (start + size) cs, start + n < offset :=
  fun _ h => Nat.lt_of_lt_of_le (Nat.add_lt_add_left hn start)
    (mem_channelStarts_bounds h).1

theorem lineStarts_ascending (start : Nat) (rs : List ComponentReport) :
    (lineStarts start rs).Pairwise (· ≤ ·) := by
  induction rs generalizing start with
  | nil => exact List.Pairwise.nil
  | cons r rest ih =>
      refine List.pairwise_cons.mpr ⟨?_, ih _⟩
      intro offset h
      have bounds := mem_lineStarts_bounds h
      omega

theorem channelStarts_ascending (start : Nat) (cs : List ChannelReport) :
    (channelStarts start cs).Pairwise (· ≤ ·) := by
  induction cs generalizing start with
  | nil => exact List.Pairwise.nil
  | cons c rest ih =>
      refine List.pairwise_append.mpr ⟨lineStarts_ascending _ _, ih _, ?_⟩
      intro first hfirst second hsecond
      have before := mem_lineStarts_bounds hfirst
      have behind := mem_channelStarts_bounds hsecond
      rw [length_channelText] at behind
      omega

/-- Holds if the line of a component stands in a text at some byte. -/
def StandsAt (text : String) (c : ComponentReport) (start : Nat) : Prop :=
  ∃ before behind,
    text = before ++ ("  " ++ c.name ++ ": " ++ c.outcome.text ++ "\n") ++ behind ∧
      (bytesOf before).length = start

theorem componentPiece_eq (c : ComponentReport) :
    componentPiece c = "  " ++ c.name ++ ": " ++ c.outcome.text ++ "\n" := by
  simp only [componentPiece, ComponentReport.line, String.append_assoc]

theorem forall_lineStarts (before behind : String)
    (rs : List ComponentReport) :
    List.Forall₂ (StandsAt (before ++ linesText rs ++ behind)) rs
      (lineStarts (bytesOf before).length rs) := by
  induction rs generalizing before with
  | nil => exact List.Forall₂.nil
  | cons r rest ih =>
      rw [linesText_cons]
      refine List.Forall₂.cons ⟨before, linesText rest ++ behind, ?_, rfl⟩ ?_
      · rw [← componentPiece_eq]
        simp only [String.append_assoc]
      · have tail := ih (before ++ componentPiece r)
        rw [bytesOf_append, List.length_append] at tail
        simpa only [String.append_assoc] using tail

theorem forall_channelStarts (before behind : String)
    (cs : List ChannelReport) :
    List.Forall₂ (StandsAt (before ++ channelsText cs ++ behind))
      (cs.flatMap (·.components))
      (channelStarts (bytesOf before).length cs) := by
  induction cs generalizing before with
  | nil => exact List.Forall₂.nil
  | cons c rest ih =>
      rw [channelsText_cons, List.flatMap_cons, channelStarts]
      apply List.rel_append
      · have lines := forall_lineStarts (before ++ headerPiece c.name)
          (channelsText rest ++ behind) c.components
        rw [bytesOf_append, List.length_append] at lines
        simpa only [channelText, linesText, String.append_assoc] using lines
      · have tail := ih (before ++ channelText c)
        rw [bytesOf_append, List.length_append] at tail
        simpa only [String.append_assoc] using tail

/-- The offsets of a report are those at which the lines of its components
stand in its text. -/
theorem forall_starts (r : Report) :
    List.Forall₂ (StandsAt r.display) r.components r.starts := by
  have lines := forall_channelStarts "" r.closingPiece r.channels
  rwa [String.empty_append] at lines

theorem length_starts (r : Report) : r.starts.length = r.components.length :=
  r.forall_starts.length_eq.symm

end Report

namespace Run

/-- The addresses of the components whose lines start at `limit` at the
latest. -/
def reached (limit : Nat) (cs : List (String × Lock.Record))
    (starts : List Nat) : List String :=
  (cs.zip starts).flatMap fun (c, start) =>
    if start ≤ limit then requests c.2 else []

theorem reached_cons (limit start : Nat) (c : String × Lock.Record)
    (rest : List (String × Lock.Record)) (starts : List Nat) :
    reached limit (c :: rest) (start :: starts) =
      (if start ≤ limit then requests c.2 else []) ++
        reached limit rest starts :=
  rfl

theorem reached_append (limit : Nat) {cs more : List (String × Lock.Record)}
    {starts others : List Nat} (h : cs.length = starts.length) :
    reached limit (cs ++ more) (starts ++ others) =
      reached limit cs starts ++ reached limit more others := by
  simp [reached, List.zip_append h]

theorem reached_eq_nil {limit : Nat} (cs : List (String × Lock.Record))
    {starts : List Nat} (h : ∀ start ∈ starts, limit < start) :
    reached limit cs starts = [] := by
  simp only [reached, List.flatMap_eq_nil_iff]
  rintro ⟨c, start⟩ hmem
  have late := h start (List.of_mem_zip hmem).2
  exact if_neg (Nat.not_le.mpr late)

theorem reached_eq_addresses {limit : Nat} {cs : List (String × Lock.Record)}
    {starts : List Nat} (hlength : cs.length = starts.length)
    (h : ∀ start ∈ starts, start ≤ limit) :
    reached limit cs starts = addresses cs := by
  induction cs generalizing starts with
  | nil => rfl
  | cons c rest ih =>
      cases starts with
      | nil => simp at hlength
      | cons start starts =>
          rw [reached_cons, if_pos (h start List.mem_cons_self),
            ih (Nat.succ.inj hlength)
              fun start hstart => h start (List.mem_cons_of_mem _ hstart)]
          rfl

/-- Lines start one behind the other, so requests stop at one component. -/
theorem reached_prefix {limit : Nat} {cs : List (String × Lock.Record)}
    {starts : List Nat} (h : starts.Pairwise (· ≤ ·)) :
    reached limit cs starts <+: addresses cs := by
  induction cs generalizing starts with
  | nil => exact List.nil_prefix
  | cons c rest ih =>
      cases starts with
      | nil => exact List.nil_prefix
      | cons start starts =>
          obtain ⟨hstart, hrest⟩ := List.pairwise_cons.mp h
          by_cases hlimit : start ≤ limit
          · rw [reached_cons, if_pos hlimit, addresses_cons]
            exact (List.prefix_append_right_inj _).mpr (ih hrest)
          · have late : ∀ other ∈ start :: starts, limit < other := by
              intro other hother
              rcases List.mem_cons.mp hother with rfl | hother
              · exact Nat.lt_of_not_ge hlimit
              · exact Nat.lt_of_lt_of_le (Nat.lt_of_not_ge hlimit)
                  (hstart other hother)
            rw [reached_eq_nil _ late]
            exact List.nil_prefix

/-- The progress at which a sink breaks, after requests for some addresses and
the last bytes it takes. -/
def cutOff (source : Source σ) (p : Progress σ) (urls : List String)
    (bytes : List UInt8) : Progress σ :=
  ⟨source.after p.source urls, ⟨some 0, p.sink.written ++ bytes⟩,
    p.asked ++ urls⟩

theorem cutOff_advance (source : Source σ) (p : Progress σ)
    (urls more : List String) (xs ys : List UInt8) :
    cutOff source (advance source p urls xs) more ys =
      cutOff source p (urls ++ more) (xs ++ ys) := by
  simp [cutOff, advance, Source.after_append, Sink.append]

theorem put_inquire_of_short (source : Source σ) {p : Progress σ}
    (record : Lock.Record) {text : String} {n : Nat}
    (hroom : p.sink.room = some n) (hn : n < (bytesOf text).length) :
    put (inquire source p record) text =
      (false, cutOff source p (requests record) ((bytesOf text).take n)) :=
  put_of_short (p := inquire source p record) hroom hn

theorem fits_of_room {s : Sink} {n : Nat} {bytes : List UInt8}
    (hroom : s.room = some n) (hn : bytes.length ≤ n) : s.Fits bytes := by
  simpa [Sink.Fits, hroom] using hn

/-- Of the components of a channel whose text is too long, those are asked for
whose lines start within the room of the sink. -/
theorem components_of_short (source : Source σ) (start : Nat)
    (cs : List (String × Lock.Record)) (p : Progress σ) {n : Nat}
    (hroom : p.sink.room = some n)
    (hn : n < (bytesOf
      (Report.linesText (findings source p.source cs))).length) :
    components source cs p =
      (none, cutOff source p
        (reached (start + n) cs
          (Report.lineStarts start (findings source p.source cs)))
        ((bytesOf (Report.linesText (findings source p.source cs))).take n)) := by
  induction cs generalizing p n start with
  | nil => simp [findings, Report.linesText, Text.Utf8.bytesOf,
      Text.Utf8.encode] at hn
  | cons c rest ih =>
      rw [findings, Report.linesText_cons, bytesOf_append] at hn ⊢
      rw [Report.lineStarts, reached_cons, if_pos (Nat.le_add_right start n)]
      simp only [components, check_eq, lineText_eq]
      by_cases hpiece : n < (bytesOf (Report.componentPiece
          ⟨c.1, verdict source p.source c.2⟩)).length
      · -- the sink breaks in this line: its component has been asked for, and
        -- the lines behind it start too late
        have late := Report.lineStarts_late hpiece start
          (findings source (source.after p.source (requests c.2)) rest)
        rw [put_inquire_of_short source c.2 hroom hpiece,
          List.take_append_of_le_length (Nat.le_of_lt hpiece),
          reached_eq_nil rest late, List.append_nil]
      · -- this line fits, and the sink breaks behind it
        have fits := Nat.le_of_not_lt hpiece
        rw [List.length_append] at hn
        have tail := ih (start + (bytesOf (Report.componentPiece
            ⟨c.1, verdict source p.source c.2⟩)).length)
          (advance source p (requests c.2) (bytesOf (Report.componentPiece
            ⟨c.1, verdict source p.source c.2⟩)))
          (Sink.room_append hroom _) (Nat.sub_lt_left_of_lt_add fits hn)
        rw [Nat.add_assoc, Nat.add_sub_cancel' fits] at tail
        rw [put_inquire_of_fits source c.2 (fits_of_room hroom fits)]
        simp only
        rw [tail, cutOff_advance, List.take_append,
          List.take_of_length_le fits]
        rfl

/-- The same of a channel with its header, which is written without a
request. -/
theorem channel_of_short (source : Source σ) (start : Nat)
    (c : Lock.Channel) (p : Progress σ) {n : Nat}
    (hroom : p.sink.room = some n)
    (hn : n < (bytesOf (Report.channelText
      ⟨c.name, findings source p.source c.components⟩)).length) :
    channel source c p =
      (none, cutOff source p
        (reached (start + n) c.components
          (Report.lineStarts
            (start + (bytesOf (Report.headerPiece c.name)).length)
            (findings source p.source c.components)))
        ((bytesOf (Report.channelText
          ⟨c.name, findings source p.source c.components⟩)).take n)) := by
  rw [Report.channelText_eq, bytesOf_append] at hn ⊢
  rw [channel, headerText_eq]
  by_cases hheader : n < (bytesOf (Report.headerPiece c.name)).length
  · rw [put_of_short hroom hheader,
      reached_eq_nil _ (Report.lineStarts_late hheader start _),
      List.take_append_of_le_length (Nat.le_of_lt hheader)]
    simp [cutOff, Source.after]
  · have fits := Nat.le_of_not_lt hheader
    rw [List.length_append] at hn
    have lines := components_of_short source
      (start + (bytesOf (Report.headerPiece c.name)).length) c.components
      ⟨p.source, p.sink.append (bytesOf (Report.headerPiece c.name)), p.asked⟩
      (Sink.room_append hroom _) (Nat.sub_lt_left_of_lt_add fits hn)
    rw [Nat.add_assoc, Nat.add_sub_cancel' fits] at lines
    rw [put_of_fits (fits_of_room hroom fits)]
    simp only
    rw [lines, List.take_append, List.take_of_length_le fits]
    simp [cutOff, Sink.append]

theorem channels_of_short (source : Source σ) (start : Nat)
    (channels : List Lock.Channel) (p : Progress σ) {n : Nat}
    (hroom : p.sink.room = some n)
    (hn : n < (bytesOf (Report.channelsText
      (channelFindings source p.source channels))).length) :
    Run.channels source channels p =
      (none, cutOff source p
        (reached (start + n) (channels.flatMap (·.components))
          (Report.channelStarts start
            (channelFindings source p.source channels)))
        ((bytesOf (Report.channelsText
          (channelFindings source p.source channels))).take n)) := by
  induction channels generalizing p n start with
  | nil => simp [channelFindings, Report.channelsText, Text.Utf8.bytesOf,
      Text.Utf8.encode] at hn
  | cons c rest ih =>
      have paired : c.components.length = (Report.lineStarts
          (start + (bytesOf (Report.headerPiece c.name)).length)
          (findings source p.source c.components)).length := by
        rw [Report.length_lineStarts, length_findings]
      rw [channelFindings, Report.channelsText_cons, bytesOf_append] at hn ⊢
      rw [Report.channelStarts, List.flatMap_cons, reached_append _ paired,
        channels_cons]
      by_cases hchannel : n < (bytesOf (Report.channelText
          ⟨c.name, findings source p.source c.components⟩)).length
      · rw [channel_of_short source start c p hroom hchannel,
          reached_eq_nil _ (Report.channelStarts_late hchannel start _),
          List.take_append_of_le_length (Nat.le_of_lt hchannel),
          List.append_nil]
      · have fits := Nat.le_of_not_lt hchannel
        -- where a whole channel fits, all its lines start within the room
        have early : ∀ offset ∈ Report.lineStarts
            (start + (bytesOf (Report.headerPiece c.name)).length)
            (findings source p.source c.components), offset ≤ start + n := by
          intro offset h
          have bounds := Report.mem_lineStarts_bounds h
          rw [Report.length_channelText] at fits
          simp only at fits
          omega
        rw [List.length_append] at hn
        have tail := ih (start + (bytesOf (Report.channelText
            ⟨c.name, findings source p.source c.components⟩)).length)
          (advance source p (addresses c.components) (bytesOf
            (Report.channelText
              ⟨c.name, findings source p.source c.components⟩)))
          (Sink.room_append hroom _) (Nat.sub_lt_left_of_lt_add fits hn)
        rw [Nat.add_assoc, Nat.add_sub_cancel' fits] at tail
        rw [channel_of_fits source c p (fits_of_room hroom fits),
          reached_eq_addresses paired early]
        simp only
        rw [tail, cutOff_advance, List.take_append,
          List.take_of_length_le fits]
        rfl

/-- A run whose text is too long for the sink. -/
theorem document_of_short (source : Source σ) (d : Lock.Document)
    (p : Progress σ) {n : Nat} (hroom : p.sink.room = some n)
    (hn : n < (bytesOf (found source p.source d).display).length) :
    document source d p =
      (none, cutOff source p
        (reached n d.components (found source p.source d).starts)
        ((bytesOf (found source p.source d).display).take n)) := by
  have text : (found source p.source d).display =
      Report.channelsText (channelFindings source p.source d.channels) ++
        (found source p.source d).closingPiece := rfl
  rw [text, bytesOf_append] at hn ⊢
  rw [document_eq]
  by_cases hchannels : n < (bytesOf (Report.channelsText
      (channelFindings source p.source d.channels))).length
  · rw [channels_of_short source 0 d.channels p hroom hchannels,
      List.take_append_of_le_length (Nat.le_of_lt hchannels), Nat.zero_add]
    rfl
  · have fits := Nat.le_of_not_lt hchannels
    have early : ∀ offset ∈ (found source p.source d).starts, offset ≤ n := by
      intro offset h
      have bounds := (Report.mem_channelStarts_bounds h).2
      rw [Nat.zero_add] at bounds
      exact Nat.le_trans bounds fits
    have paired : d.components.length =
        (found source p.source d).starts.length := by
      rw [Report.length_starts, components_found, length_findings]
    rw [List.length_append] at hn
    have closing := put_of_short
      (p := advance source p (addresses d.components) (bytesOf
        (Report.channelsText (channelFindings source p.source d.channels))))
      (Sink.room_append hroom _) (Nat.sub_lt_left_of_lt_add fits hn)
    rw [channels_of_fits source d.channels p (fits_of_room hroom fits),
      reached_eq_addresses paired early, List.take_append,
      List.take_of_length_le fits]
    simp only
    rw [found, Lock.Document.components] at *
    rw [closing]
    simp [advance, cutOff, Sink.append]

/-- On any sink a run asks for addresses from the first on, and what its source
becomes is what these requests make of it. -/
theorem start_requests (source : Source σ) (s : σ) (sink : Sink)
    (d : Lock.Document) :
    (start source s sink d).2.asked <+: addresses d.components ∧
      (start source s sink d).2.source =
        source.after s (start source s sink d).2.asked := by
  by_cases fits : sink.Fits (bytesOf (found source s d).display)
  · rw [start, document_of_fits source d ⟨s, sink, []⟩ fits]
    exact ⟨List.prefix_rfl, rfl⟩
  · obtain ⟨n, hroom, hn⟩ := Sink.not_fits_iff.mp fits
    rw [start, document_of_short source d ⟨s, sink, []⟩ hroom hn]
    refine ⟨?_, rfl⟩
    exact reached_prefix (Report.channelStarts_ascending 0 _)

/-- A run streams the text of its report, in which each component of the document
has its line.  On a sink that takes any number of bytes the whole text arrives, and
one that takes at least as many makes no difference.  On one that takes only `n`
bytes there is no report, the first `n` bytes of the text arrive, and of the
requests those are made that belong to components whose lines start at byte `n` or
before it, which are the first ones of all. -/
theorem run_streams_report (source : Source σ) (s : σ) (d : Lock.Document) :
    ∃ (report : Report) (whole : Progress σ),
      start source s Sink.endless d = (some report, whole) ∧
      whole.sink.written = bytesOf report.display ∧
      whole.asked = addresses d.components ∧
      report.components.map (·.name) = d.components.map Prod.fst ∧
      List.Forall₂ (Report.StandsAt report.display) report.components
        report.starts ∧
      ∀ n : Nat,
        (whole.sink.written.length ≤ n →
          ∃ p, start source s (Sink.ofSize n) d = (some report, p) ∧
            p.sink.written = whole.sink.written ∧ p.asked = whole.asked) ∧
        (n < whole.sink.written.length →
          ∃ p, start source s (Sink.ofSize n) d = (none, p) ∧
            p.sink.written = whole.sink.written.take n ∧
            p.asked = reached n d.components report.starts ∧
            p.asked <+: whole.asked) := by
  refine ⟨found source s d, _,
    document_of_fits source d ⟨s, Sink.endless, []⟩ (Sink.fits_endless _),
    List.nil_append _, List.nil_append _, ?_, Report.forall_starts _, ?_⟩
  · rw [components_found]
    exact names_findings source s d.components
  intro n
  constructor
  · intro hn
    have fits : (Sink.ofSize n).Fits (bytesOf (found source s d).display) :=
      fits_of_room rfl hn
    exact ⟨_, document_of_fits source d ⟨s, Sink.ofSize n, []⟩ fits, rfl, rfl⟩
  · intro hn
    refine ⟨_, document_of_short source d ⟨s, Sink.ofSize n, []⟩ rfl hn,
      rfl, List.nil_append _, ?_⟩
    exact reached_prefix (Report.channelStarts_ascending 0 _)

end Run

end IssuerAudit
