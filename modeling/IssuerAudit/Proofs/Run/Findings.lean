import Mathlib.Data.List.Basic
import IssuerAudit.Run
/-!
What a run finds, told without a sink: the addresses it asks for, the verdict on
each component in the state that the earlier requests left the source in, and
the report that these verdicts make up.  A run whose sink takes all of its text
comes to just that.
-/

namespace IssuerAudit

open Text.Utf8 (bytesOf bytesOf_append)

variable {σ : Type}

namespace Source

/-- What a source answers when it is asked for addresses one after another. -/
def answers (source : Source σ) :
    σ → List String → List (Except (List String) String)
  | _, [] => []
  | s, url :: rest =>
      (source.ask s url).1 :: source.answers (source.ask s url).2 rest

/-- The state in which requests for addresses leave a source. -/
def after (source : Source σ) (s : σ) (urls : List String) : σ :=
  urls.foldl (fun s url => (source.ask s url).2) s

theorem after_append (source : Source σ) (s : σ) (urls more : List String) :
    source.after s (urls ++ more) = source.after (source.after s urls) more :=
  List.foldl_append

end Source

namespace Sink

/-- Holds if a sink has room for some bytes. -/
def Fits (s : Sink) (bytes : List UInt8) : Prop :=
  ∀ n ∈ s.room, bytes.length ≤ n

/-- A sink after bytes for which it had room. -/
def append (s : Sink) (bytes : List UInt8) : Sink :=
  ⟨s.room.map (· - bytes.length), s.written ++ bytes⟩

theorem fits_endless (bytes : List UInt8) : endless.Fits bytes :=
  fun _ h => nomatch h

theorem fits_append {s : Sink} {xs ys : List UInt8} :
    s.Fits (xs ++ ys) ↔ s.Fits xs ∧ (s.append xs).Fits ys := by
  obtain ⟨room, written⟩ := s
  cases room with
  | none => simp [Fits, append]
  | some n =>
      simp only [Fits, append, Option.mem_def, Option.map_some,
        Option.some.injEq, forall_eq', List.length_append]
      omega

theorem append_append (s : Sink) (xs ys : List UInt8) :
    (s.append xs).append ys = s.append (xs ++ ys) := by
  obtain ⟨room, written⟩ := s
  cases room <;> simp [append, Nat.sub_sub]

theorem write_of_fits {s : Sink} {text : String}
    (h : s.Fits (bytesOf text)) :
    s.write text = (true, s.append (bytesOf text)) := by
  obtain ⟨room, written⟩ := s
  cases room with
  | none => rfl
  | some n => simp [write, append, h n rfl]

theorem write_of_short {s : Sink} {text : String} {n : Nat}
    (hroom : s.room = some n) (hn : n < (bytesOf text).length) :
    s.write text =
      (false, ⟨some 0, s.written ++ (bytesOf text).take n⟩) := by
  simp [write, hroom, Nat.not_le.mpr hn]

theorem not_fits_iff {s : Sink} {bytes : List UInt8} :
    ¬ s.Fits bytes ↔ ∃ n, s.room = some n ∧ n < bytes.length := by
  simp [Fits]

theorem room_append {s : Sink} {n : Nat} (h : s.room = some n)
    (bytes : List UInt8) : (s.append bytes).room = some (n - bytes.length) := by
  simp [append, h]

/-- Whether a text is written at once or in two parts makes no difference. -/
theorem write_append (s : Sink) (first second : String) :
    s.write (first ++ second) =
      match s.write first with
      | (false, s) => (false, s)
      | (true, s) => s.write second := by
  by_cases fits : s.Fits (bytesOf first)
  · rw [write_of_fits fits]
    by_cases more : (s.append (bytesOf first)).Fits (bytesOf second)
    · have whole : s.Fits (bytesOf (first ++ second)) := by
        rw [bytesOf_append]
        exact fits_append.mpr ⟨fits, more⟩
      simp only
      rw [write_of_fits whole, write_of_fits more, append_append, bytesOf_append]
    · have short : ¬ s.Fits (bytesOf (first ++ second)) := by
        rw [bytesOf_append, fits_append]
        exact fun both => more both.2
      obtain ⟨n, hroom, hn⟩ := not_fits_iff.mp short
      have enough := fits n hroom
      have left := room_append hroom (bytesOf first)
      obtain ⟨m, hleft, hm⟩ := not_fits_iff.mp more
      cases left.symm.trans hleft
      simp only
      rw [write_of_short hroom hn, write_of_short left hm, bytesOf_append,
        List.take_append, List.take_of_length_le enough, ← List.append_assoc]
      rfl
  · obtain ⟨n, hroom, hn⟩ := not_fits_iff.mp fits
    have short : n < (bytesOf (first ++ second)).length := by
      rw [bytesOf_append, List.length_append]
      omega
    rw [write_of_short hroom hn, write_of_short hroom short, bytesOf_append,
      List.take_append_of_le_length (Nat.le_of_lt hn)]

end Sink

namespace Report

/-- The text that tells of components, one line each. -/
def linesText (reports : List ComponentReport) : String :=
  String.join (reports.map componentPiece)

theorem linesText_cons (r : ComponentReport) (rest : List ComponentReport) :
    linesText (r :: rest) = componentPiece r ++ linesText rest := by
  simp [linesText]

/-- The text that tells of channels. -/
def channelsText (reports : List ChannelReport) : String :=
  String.join (reports.map channelText)

theorem channelsText_cons (r : ChannelReport) (rest : List ChannelReport) :
    channelsText (r :: rest) = channelText r ++ channelsText rest := by
  simp [channelsText]

theorem channelText_eq (name : String) (reports : List ComponentReport) :
    channelText ⟨name, reports⟩ = headerPiece name ++ linesText reports :=
  rfl

end Report

namespace Run

/-- The address that the check of a component asks for, if it declares one. -/
def requests (record : Lock.Record) : List String :=
  if Text.isBlankText record.signatureUrl then [] else [record.signatureUrl]

/-- The addresses that the check of some components asks for. -/
def addresses (cs : List (String × Lock.Record)) : List String :=
  cs.flatMap fun c => requests c.2

theorem addresses_cons (c : String × Lock.Record)
    (rest : List (String × Lock.Record)) :
    addresses (c :: rest) = requests c.2 ++ addresses rest :=
  rfl

theorem addresses_append (cs more : List (String × Lock.Record)) :
    addresses (cs ++ more) = addresses cs ++ addresses more :=
  List.flatMap_append

/-- The addresses asked for are the declared ones that are more than blank. -/
theorem addresses_eq_filter (cs : List (String × Lock.Record)) :
    addresses cs =
      (cs.map (·.2.signatureUrl)).filter (fun url => !Text.isBlankText url) := by
  induction cs with
  | nil => rfl
  | cons c rest ih =>
      rw [addresses_cons, ih, List.map_cons, List.filter_cons, requests]
      cases Text.isBlankText c.2.signatureUrl <;> rfl

/-- The verdict on a component, with the source in some state. -/
def verdict (source : Source σ) (s : σ) (record : Lock.Record) : Outcome :=
  if Text.isBlankText record.signatureUrl then .missing
  else outcomeOf record (source.ask s record.signatureUrl).1

/-- The verdicts on components that are checked one after another. -/
def findings (source : Source σ) (s : σ) :
    List (String × Lock.Record) → List ComponentReport
  | [] => []
  | c :: rest =>
      ⟨c.1, verdict source s c.2⟩ ::
        findings source (source.after s (requests c.2)) rest

/-- The verdicts on the components of channels. -/
def channelFindings (source : Source σ) (s : σ) :
    List Lock.Channel → List ChannelReport
  | [] => []
  | c :: rest =>
      ⟨c.name, findings source s c.components⟩ ::
        channelFindings source (source.after s (addresses c.components)) rest

/-- The report that a run comes to. -/
def found (source : Source σ) (s : σ) (d : Lock.Document) : Report :=
  ⟨channelFindings source s d.channels⟩

theorem findings_append (source : Source σ) (s : σ)
    (cs more : List (String × Lock.Record)) :
    findings source s (cs ++ more) =
      findings source s cs ++
        findings source (source.after s (addresses cs)) more := by
  induction cs generalizing s with
  | nil => rfl
  | cons c rest ih =>
      rw [List.cons_append, findings, ih, addresses_cons, Source.after_append]
      rfl

/-- Channel by channel the verdicts are those on all components in a row. -/
theorem flatMap_channelFindings (source : Source σ) (s : σ)
    (channels : List Lock.Channel) :
    (channelFindings source s channels).flatMap (·.components) =
      findings source s (channels.flatMap (·.components)) := by
  induction channels generalizing s with
  | nil => rfl
  | cons c rest ih =>
      rw [channelFindings, List.flatMap_cons, ih, List.flatMap_cons,
        findings_append]

theorem components_found (source : Source σ) (s : σ) (d : Lock.Document) :
    (found source s d).components = findings source s d.components :=
  flatMap_channelFindings source s d.channels

theorem names_findings (source : Source σ) (s : σ)
    (cs : List (String × Lock.Record)) :
    (findings source s cs).map (·.name) = cs.map Prod.fst := by
  induction cs generalizing s with
  | nil => rfl
  | cons c rest ih => exact congrArg (List.cons c.1) (ih _)

theorem length_findings (source : Source σ) (s : σ)
    (cs : List (String × Lock.Record)) :
    (findings source s cs).length = cs.length := by
  have names := congrArg List.length (names_findings source s cs)
  simpa using names

/-- The progress after requests for some addresses and a text that fitted. -/
def advance (source : Source σ) (p : Progress σ) (urls : List String)
    (bytes : List UInt8) : Progress σ :=
  ⟨source.after p.source urls, p.sink.append bytes, p.asked ++ urls⟩

theorem advance_advance (source : Source σ) (p : Progress σ)
    (urls more : List String) (xs ys : List UInt8) :
    advance source (advance source p urls xs) more ys =
      advance source p (urls ++ more) (xs ++ ys) := by
  simp [advance, Source.after_append, Sink.append_append]

/-- The progress after the request of a check. -/
def inquire (source : Source σ) (p : Progress σ) (record : Lock.Record) :
    Progress σ :=
  { p with
    source := source.after p.source (requests record)
    asked := p.asked ++ requests record }

/-- A check asks for the address of the component and for nothing else. -/
theorem check_eq (source : Source σ) (p : Progress σ) (record : Lock.Record) :
    check source p record =
      (verdict source p.source record, inquire source p record) := by
  unfold check verdict inquire requests
  split
  · simp [Source.after]
  · rfl

theorem put_of_fits {p : Progress σ} {text : String}
    (h : p.sink.Fits (bytesOf text)) :
    put p text = (true, { p with sink := p.sink.append (bytesOf text) }) := by
  simp [put, Sink.write_of_fits h]

theorem put_append (p : Progress σ) (first second : String) :
    put p (first ++ second) =
      match put p first with
      | (false, p) => (false, p)
      | (true, p) => put p second := by
  simp only [put, Sink.write_append]
  rcases p.sink.write first with ⟨_ | _, sink⟩ <;> rfl

/-- What a run writes for a channel, a component and at its end are the pieces of the
text of its report. -/
theorem headerText_eq (channel : String) :
    headerText channel = Report.headerPiece channel :=
  rfl

theorem lineText_eq (r : ComponentReport) : lineText r = Report.componentPiece r :=
  rfl

theorem closing_eq (r : Report) :
    "\n" ++ (Report.summaryLine r.mismatches ++ "\n") = r.closingPiece :=
  (String.append_assoc ..).symm

/-- A run ends with the piece of text that closes its report. -/
theorem document_eq (source : Source σ) (d : Lock.Document) (p : Progress σ) :
    document source d p =
      match channels source d.channels p with
      | (none, p) => (none, p)
      | (some reports, p) =>
          match put p (Report.closingPiece ⟨reports⟩) with
          | (false, p) => (none, p)
          | (true, p) => (some ⟨reports⟩, p) := by
  rw [document]
  rcases channels source d.channels p with ⟨_ | reports, p⟩
  · rfl
  · simp only
    rw [← closing_eq, put_append]
    rcases put p "\n" with ⟨_ | _, p⟩ <;> rfl

theorem put_inquire_of_fits (source : Source σ) {p : Progress σ}
    (record : Lock.Record) {text : String} (h : p.sink.Fits (bytesOf text)) :
    put (inquire source p record) text =
      (true, advance source p (requests record) (bytesOf text)) :=
  put_of_fits (p := inquire source p record) h

theorem put_of_short {p : Progress σ} {text : String} {n : Nat}
    (hroom : p.sink.room = some n) (hn : n < (bytesOf text).length) :
    put p text =
      (false, { p with
        sink := ⟨some 0, p.sink.written ++ (bytesOf text).take n⟩ }) := by
  simp [put, Sink.write_of_short hroom hn]

theorem components_of_fits (source : Source σ)
    (cs : List (String × Lock.Record)) (p : Progress σ)
    (h : p.sink.Fits
      (bytesOf (Report.linesText (findings source p.source cs)))) :
    components source cs p =
      (some (findings source p.source cs),
        advance source p (addresses cs)
          (bytesOf (Report.linesText (findings source p.source cs)))) := by
  induction cs generalizing p with
  | nil =>
      obtain ⟨s, ⟨room, written⟩, asked⟩ := p
      cases room <;>
        simp [components, findings, advance, addresses, Source.after,
          Sink.append, Report.linesText, Text.Utf8.bytesOf, Text.Utf8.encode]
  | cons c rest ih =>
      rw [findings, Report.linesText_cons, bytesOf_append] at h ⊢
      obtain ⟨hpiece, hrest⟩ := Sink.fits_append.mp h
      simp only [components, check_eq, lineText_eq]
      rw [put_inquire_of_fits source c.2 hpiece]
      simp only
      rw [ih _ hrest, advance_advance]
      rfl

/-- Writes the header of a channel and checks its components. -/
def channel (source : Source σ) (c : Lock.Channel) (p : Progress σ) :
    Option (List ComponentReport) × Progress σ :=
  match put p (headerText c.name) with
  | (false, p) => (none, p)
  | (true, p) => components source c.components p

/-- Channels are gone through one after the other. -/
theorem channels_cons (source : Source σ) (c : Lock.Channel)
    (rest : List Lock.Channel) (p : Progress σ) :
    Run.channels source (c :: rest) p =
      match channel source c p with
      | (none, p) => (none, p)
      | (some reports, p) =>
          match Run.channels source rest p with
          | (none, p) => (none, p)
          | (some more, p) => (some (⟨c.name, reports⟩ :: more), p) := by
  rw [Run.channels, channel]
  rcases put p (headerText c.name) with ⟨_ | _, p⟩ <;> rfl

theorem channel_of_fits (source : Source σ) (c : Lock.Channel)
    (p : Progress σ)
    (h : p.sink.Fits (bytesOf (Report.channelText
      ⟨c.name, findings source p.source c.components⟩))) :
    channel source c p =
      (some (findings source p.source c.components),
        advance source p (addresses c.components)
          (bytesOf (Report.channelText
            ⟨c.name, findings source p.source c.components⟩))) := by
  rw [Report.channelText_eq, bytesOf_append] at h ⊢
  obtain ⟨hheader, hlines⟩ := Sink.fits_append.mp h
  rw [channel, headerText_eq, put_of_fits hheader]
  simp only
  rw [components_of_fits source c.components _ hlines]
  simp [advance, Sink.append_append]

theorem channels_of_fits (source : Source σ)
    (channels : List Lock.Channel) (p : Progress σ)
    (h : p.sink.Fits
      (bytesOf (Report.channelsText
        (channelFindings source p.source channels)))) :
    Run.channels source channels p =
      (some (channelFindings source p.source channels),
        advance source p (addresses (channels.flatMap (·.components)))
          (bytesOf (Report.channelsText
            (channelFindings source p.source channels)))) := by
  induction channels generalizing p with
  | nil =>
      obtain ⟨s, ⟨room, written⟩, asked⟩ := p
      cases room <;>
        simp [Run.channels, channelFindings, advance, addresses, Source.after,
          Sink.append, Report.channelsText, Text.Utf8.bytesOf,
          Text.Utf8.encode]
  | cons c rest ih =>
      rw [channelFindings, Report.channelsText_cons, bytesOf_append] at h ⊢
      obtain ⟨hchannel, hrest⟩ := Sink.fits_append.mp h
      rw [channels_cons, channel_of_fits source c p hchannel]
      simp only
      rw [ih _ hrest, advance_advance, List.flatMap_cons, addresses_append]
      rfl

/-- A run whose sink takes all of its text. -/
theorem document_of_fits (source : Source σ) (d : Lock.Document)
    (p : Progress σ)
    (h : p.sink.Fits (bytesOf (found source p.source d).display)) :
    document source d p =
      (some (found source p.source d),
        advance source p (addresses d.components)
          (bytesOf (found source p.source d).display)) := by
  have text : (found source p.source d).display =
      Report.channelsText (channelFindings source p.source d.channels) ++
        (found source p.source d).closingPiece := rfl
  rw [text, bytesOf_append] at h ⊢
  obtain ⟨hchannels, hclosing⟩ := Sink.fits_append.mp h
  rw [document_eq, channels_of_fits source d.channels p hchannels]
  simp only
  rw [put_of_fits hclosing]
  simp only [advance, Sink.append_append]
  rfl

end Run

end IssuerAudit
