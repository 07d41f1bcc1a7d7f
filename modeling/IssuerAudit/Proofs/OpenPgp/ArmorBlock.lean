import Mathlib.Data.List.Basic
import IssuerAudit.OpenPgp.Armor.Write
import IssuerAudit.Proofs.Text.Decoding
/-!
Blocks of ASCII armor as they may be written: with any header lines, in lines of any
length, and with blanks at the ends of lines.  Each of them opens to the data that it
was written for: `open?_of_block`.
-/

namespace IssuerAudit.OpenPgp.Armor

open Text.Utf8 (bytesOf bytesOf_append encode)

/-- Holds of the ends of lines; blanks may stand in front of the line feed. -/
def LineEnd (eol : String) : Prop :=
  ∃ blanks : List Char, eol.toList = blanks ++ ['\n'] ∧
    ∀ c ∈ blanks, c = ' ' ∨ c = '\t' ∨ c = '\r'

/-- Holds of header lines: in each of them a key, a colon and a value. -/
inductive HeaderLines : Bytes → Prop
  | nil : HeaderLines []
  | cons {key value eol : String} {rest : Bytes} (hkey : '\n' ∉ key.toList)
      (hvalue : '\n' ∉ value.toList) (ends : LineEnd eol)
      (more : HeaderLines rest) :
      HeaderLines (bytesOf (key ++ ": " ++ value ++ eol) ++ rest)

/-- Holds of digits and lines that they are spread over. -/
inductive DigitLines : Bytes → Bytes → Prop
  | nil : DigitLines [] []
  | cons {line digits text : Bytes} {eol : String} (ends : LineEnd eol)
      (more : DigitLines digits text) :
      DigitLines (line ++ digits) (line ++ (bytesOf eol ++ text))

/-- The line that opens or closes a block. -/
def boundary (lead : String) (content : Content) : Bytes :=
  bytesOf ("-----" ++ lead ++ content.words ++ "-----")

/-- The checksum of data as it is written. -/
def checksumLine (data : Bytes) : Bytes :=
  Text.Base64.pad :: Text.Base64.encode (bytesOfNat 3 (checksumOf data))

/-- Holds of data and a text that opens with a block of armor for it. -/
inductive Block (content : Content) (data : Bytes) : Bytes → Prop
  | mk {first blank last : String} {headers body rest : Bytes}
      (opened : LineEnd first) (header : HeaderLines headers)
      (separated : LineEnd blank)
      (lines : DigitLines (Text.Base64.encode data) body)
      (summed : LineEnd last) :
      Block content data
        (boundary "BEGIN PGP " content ++ (bytesOf first ++ (headers ++
          (bytesOf blank ++ (body ++ (checksumLine data ++ (bytesOf last ++
            (boundary "END PGP " content ++ rest))))))))

theorem dropText?_append (text : String) (rest : Bytes) :
    dropText? text (bytesOf text ++ rest) = some rest := by
  simp [dropText?]

/-- The words for contents are told apart by their first two letters. -/
theorem take_words_of_ne {content other : Content} (h : other ≠ content) :
    2 ≤ (bytesOf other.words).length ∧ 2 ≤ (bytesOf content.words).length ∧
      (bytesOf other.words).take 2 ≠ (bytesOf content.words).take 2 := by
  cases content <;> cases other <;> first | exact absurd rfl h | decide

theorem dropText?_words_of_ne {content other : Content} (h : other ≠ content)
    (rest : Bytes) : dropText? other.words (bytesOf content.words ++ rest) = none := by
  obtain ⟨long, longer, differ⟩ := take_words_of_ne h
  refine if_neg fun starts => differ ?_
  obtain ⟨behind, same⟩ := List.isPrefixOf_iff_prefix.mp starts
  have front := congrArg (List.take 2) same
  rwa [List.take_append_of_le_length long,
    List.take_append_of_le_length longer] at front

theorem dropDash?_hyphen (rest : Bytes) : dropDash? (0x2D :: rest) = some rest :=
  rfl

/-- No dash but the hyphen starts with a byte of ASCII. -/
theorem dropDash?_of_ascii {b : UInt8} (ascii : b.toNat < 0x80)
    (hb : b ≠ 0x2D) (rest : Bytes) : dropDash? (b :: rest) = none := by
  have leads : dashes.all fun c => (bytesOf (String.singleton c)).head?.any
      fun first => first = 0x2D ∨ 0x80 ≤ first.toNat := by decide
  rw [dropDash?, List.findSome?_eq_none_iff]
  intro c hc
  obtain ⟨first, hfirst, kind⟩ :=
    Option.any_eq_true _ _ |>.mp (List.all_eq_true.mp leads c hc)
  rw [decide_eq_true_iff] at kind
  obtain ⟨more, bytes⟩ := List.head?_eq_some_iff.mp hfirst
  have differs : first ≠ b := by
    rintro rfl
    rcases kind with rfl | high
    · exact hb rfl
    · exact Nat.not_lt.mpr high ascii
  simp [dropText?, bytes, differs]

theorem dropDashes_hyphens (k fuel : Nat) (bytes : Bytes) :
    dropDashes (k + fuel) (List.replicate k 0x2D ++ bytes) =
      dropDashes fuel bytes := by
  induction k with
  | zero => rw [Nat.zero_add, List.replicate_zero, List.nil_append]
  | succ k ih =>
      rw [Nat.succ_add, List.replicate_succ, List.cons_append]
      simpa [dropDashes, dropDash?_hyphen] using ih

theorem dropDashes_of_stop {bytes : Bytes} (stop : dropDash? bytes = none)
    (fuel : Nat) : dropDashes fuel bytes = bytes := by
  cases fuel with
  | zero => rfl
  | succ fuel => rw [dropDashes, stop]

/-- Of the words for contents just those are found that stand there. -/
theorem findSome?_words {α : Type} (content : Content) (rest : Bytes)
    (result : Content → Bytes → α) :
    Content.all.findSome? (fun other =>
      (dropText? other.words (bytesOf content.words ++ rest)).map
        (result other)) = some (result content rest) := by
  cases content <;>
    simp [Content.all, dropText?_append, dropText?_words_of_ne]

/-- The words that boundaries lead with. -/
def IsLead (lead : String) : Prop :=
  lead = "BEGIN PGP " ∨ lead = "END PGP "

theorem boundary_eq (lead : String) (content : Content) :
    boundary lead content = List.replicate 5 0x2D ++ (bytesOf lead ++
      (bytesOf content.words ++ List.replicate 5 0x2D)) := by
  have hyphens : bytesOf "-----" = List.replicate 5 0x2D := by decide
  simp only [boundary, bytesOf_append, hyphens, List.append_assoc]

theorem length_boundary_le {lead : String} (hlead : IsLead lead)
    (content : Content) : (boundary lead content).length ≤ boundarySize := by
  rcases hlead with rfl | rfl <;> cases content <;> decide

theorem dropDash?_lead {lead : String} (hlead : IsLead lead) (rest : Bytes) :
    dropDash? (bytesOf lead ++ rest) = none := by
  rcases hlead with rfl | rfl
  · exact dropDash?_of_ascii (b := 0x42) (by decide) (by decide) _
  · exact dropDash?_of_ascii (b := 0x45) (by decide) (by decide) _

/-- A boundary reads back, and so does what follows it, if that does not start with
more dashes. -/
theorem readBoundary_boundary {lead : String} (hlead : IsLead lead)
    (content : Content) (rest : Bytes) :
    ∃ behind, readBoundary lead (boundary lead content ++ rest) =
        some (content, behind) ∧
      ((∀ n, dropDash? (rest.take n) = none) → behind = rest) := by
  have size := length_boundary_le hlead content
  obtain ⟨seen, hseen⟩ : ∃ seen, seen =
      rest.take (boundarySize - (boundary lead content).length) := ⟨_, rfl⟩
  have window : (boundary lead content ++ rest).take boundarySize =
      boundary lead content ++ seen := by
    rw [List.take_append, List.take_of_length_le size, hseen]
  obtain ⟨fuel, hfuel⟩ : ∃ fuel,
      (boundary lead content ++ seen).length = 5 + fuel := by
    refine Nat.exists_eq_add_of_le ?_
    rw [boundary_eq, List.append_assoc, List.length_append,
      List.length_replicate]
    exact Nat.le_add_right _ _
  have inner : dropDashes (boundary lead content ++ seen).length
      (boundary lead content ++ seen) =
        bytesOf lead ++ (bytesOf content.words ++
          (List.replicate 5 0x2D ++ seen)) := by
    rw [hfuel, boundary_eq]
    simp only [List.append_assoc]
    rw [dropDashes_hyphens, dropDashes_of_stop (dropDash?_lead hlead _)]
  have last : dropDashes (List.replicate 5 0x2D ++ seen).length
      (List.replicate 5 0x2D ++ seen) = dropDashes seen.length seen := by
    rw [List.length_append, List.length_replicate, dropDashes_hyphens]
  unfold readBoundary
  simp only [window, inner, dropText?_append]
  refine ⟨_, findSome?_words content _ fun found more => (found,
    (boundary lead content ++ rest).drop ((boundary lead content ++ seen).length -
      (dropDashes more.length more).length)), fun stop => ?_⟩
  have unread : dropDashes seen.length seen = seen :=
    dropDashes_of_stop (hseen ▸ stop _) _
  rw [last, unread, List.length_append, Nat.add_sub_cancel, List.drop_left]

/-- The bytes of the end of a line. -/
theorem bytesOf_lineEnd {eol : String} (h : LineEnd eol) :
    ∃ blanks : Bytes, bytesOf eol = blanks ++ [0x0A] ∧
      ∀ b ∈ blanks, isSpace b = true ∧ b ≠ 0x0A := by
  obtain ⟨blanks, chars, kinds⟩ := h
  refine ⟨encode blanks, ?_, fun b hb => ?_⟩
  · rw [bytesOf, chars, Text.Utf8.encode_append]
    rfl
  · obtain ⟨c, hc, hbyte⟩ := List.mem_flatMap.mp hb
    rcases kinds c hc with rfl | rfl | rfl <;>
      obtain rfl := List.mem_singleton.mp hbyte <;> decide

theorem dropLineEnd_lineEnd {eol : String} (h : LineEnd eol) (rest : Bytes) :
    dropLineEnd (bytesOf eol ++ rest) = rest := by
  obtain ⟨blanks, bytes, kinds⟩ := bytesOf_lineEnd h
  rw [bytes]
  clear bytes
  induction blanks with
  | nil => rfl
  | cons b more ih =>
      obtain ⟨⟨space, inner⟩, hmore⟩ := List.forall_mem_cons.mp kinds
      simp only [List.cons_append, dropLineEnd, inner, space, if_false, if_true]
      exact ih hmore

theorem splitLine_append {line : Bytes} (h : 0x0A ∉ line) (rest : Bytes) :
    splitLine (line ++ 0x0A :: rest) = (line ++ [0x0A], rest) := by
  induction line with
  | nil => rfl
  | cons b more ih =>
      obtain ⟨hb, hmore⟩ := not_or.mp (mt List.mem_cons.mpr h)
      simp [splitLine, Ne.symm hb, ih hmore]

/-- A line of text is split off behind its end. -/
theorem splitLine_lineEnd (text : String) (one : '\n' ∉ text.toList)
    {eol : String} (h : LineEnd eol) (rest : Bytes) :
    splitLine (bytesOf (text ++ eol) ++ rest) = (bytesOf (text ++ eol), rest) := by
  obtain ⟨blanks, bytes, kinds⟩ := bytesOf_lineEnd h
  have inner : 0x0A ∉ bytesOf text ++ blanks := by
    intro among
    rcases List.mem_append.mp among with among | among
    · exact one (Text.Utf8.ofNat_mem_of_mem_encode (by decide) among)
    · exact (kinds _ among).2 rfl
  have split := splitLine_append inner rest
  simpa [bytesOf_append, bytes] using split

theorem hasColon_append (cs more : List Char) :
    hasColon (cs ++ ':' :: ' ' :: more) = true := by
  induction cs with
  | nil => rfl
  | cons c rest ih =>
      rw [List.cons_append]
      unfold hasColon
      split
      · rfl
      · next same =>
        cases same
        exact ih
      · next same => cases same

theorem hasColon_of_not_mem {cs : List Char} (h : ':' ∉ cs) :
    hasColon cs = false := by
  induction cs with
  | nil => rfl
  | cons c rest ih =>
      obtain ⟨hc, hrest⟩ := not_or.mp (mt List.mem_cons.mpr h)
      unfold hasColon
      split
      · next same =>
        cases same
        exact absurd rfl hc
      · next same =>
        cases same
        exact ih hrest
      · rfl

theorem headerLine?_pair (key value eol : String) :
    headerLine? (bytesOf (key ++ ": " ++ value ++ eol)) = some .pair := by
  have chars : (key ++ ": " ++ value ++ eol).toList =
      key.toList ++ ':' :: ' ' :: (value.toList ++ eol.toList) := by simp
  rw [headerLine?, bytesOf, Text.Utf8.decode?_encode, Option.map_some, chars,
    hasColon_append, if_pos rfl]

theorem headerLine?_lineEnd {eol : String} (h : LineEnd eol) :
    headerLine? (bytesOf eol) = some .blank := by
  obtain ⟨blanks, chars, kinds⟩ := h
  have blank : ∀ c ∈ eol.toList, c ≠ ':' ∧ Text.isBlank c = true := by
    intro c hc
    rw [chars] at hc
    rcases List.mem_append.mp hc with hc | hc
    · rcases kinds c hc with rfl | rfl | rfl <;> decide
    · obtain rfl := List.mem_singleton.mp hc
      decide
  have colon : hasColon eol.toList = false :=
    hasColon_of_not_mem fun among => (blank _ among).1 rfl
  have all : eol.toList.all Text.isBlank = true :=
    List.all_eq_true.mpr fun c hc => (blank c hc).2
  rw [headerLine?, bytesOf, Text.Utf8.decode?_encode, Option.map_some, colon,
    all]
  rfl

/-- The header lines of a block and its blank line are gone over. -/
theorem dropHeaders_headerLines {headers : Bytes} {blank : String}
    (h : HeaderLines headers) (separated : LineEnd blank) {fuel : Nat}
    (enough : headers.length < fuel) (first : Bool) (rest : Bytes) :
    dropHeaders [] fuel first (headers ++ (bytesOf blank ++ rest)) =
      some rest := by
  induction h generalizing fuel first with
  | nil =>
      obtain ⟨fuel, rfl⟩ : ∃ left, fuel = left + 1 := ⟨fuel - 1, by omega⟩
      have line := splitLine_lineEnd "" (by decide) separated rest
      rw [String.empty_append] at line
      simp [dropHeaders, line, headerLine?_lineEnd separated, sharedLength]
  | @cons key value eol headers hkey hvalue ends more ih =>
      obtain ⟨fuel, rfl⟩ : ∃ left, fuel = left + 1 := ⟨fuel - 1, by omega⟩
      have one : '\n' ∉ (key ++ ": " ++ value).toList := by
        simp [hkey, hvalue]
      have line := splitLine_lineEnd _ one ends
        (headers ++ (bytesOf blank ++ rest))
      have size : 0 < (bytesOf (key ++ ": " ++ value ++ eol)).length := by
        obtain ⟨blanks, bytes, -⟩ := bytesOf_lineEnd ends
        simp only [bytesOf_append, bytes, List.length_append,
          List.length_singleton]
        omega
      rw [List.length_append] at enough
      have shorter : headers.length < fuel := by omega
      have after := ih shorter false
      rw [List.append_assoc, dropHeaders]
      simp only [line, headerLine?_pair]
      simpa [dropQuote?, sharedLength] using after

/-- The digits with one more, or with a pad more, if it may stand there. -/
def Digits.take? (d : Digits) (b : UInt8) : Option Digits :=
  if b = Text.Base64.pad then
    if d.pads = 2 ∨ d.count % 4 = 0 then none
    else some ⟨b :: d.reversed, d.count + 1, d.pads + 1⟩
  else if d.pads = 0 ∧ Text.Base64.isDigit b then
    some ⟨b :: d.reversed, d.count + 1, 0⟩
  else none

theorem collect_space {b : UInt8} (space : isSpace b = true) (d : Digits)
    (rest : Bytes) : collect 0 0 d (b :: rest) = collect 0 0 d rest := by
  simp [collect, space]

/-- What may stand among digits is no white space. -/
theorem isSpace_of_take? {d e : Digits} {b : UInt8} (h : d.take? b = some e) :
    isSpace b = false := by
  cases space : isSpace b with
  | false => rfl
  | true =>
      have nothing : d.take? b = none := by
        simp only [isSpace, Bool.or_eq_true, beq_iff_eq] at space
        rcases space with (((rfl | rfl) | rfl) | rfl) | rfl <;>
          simp [Digits.take?, Text.Base64.pad, Text.Base64.isDigit,
            Text.Base64.value?]
      rw [nothing] at h
      cases h

theorem collect_of_take? {d e : Digits} {b : UInt8} (h : d.take? b = some e)
    (rest : Bytes) : collect 0 0 d (b :: rest) = collect 0 0 e rest := by
  have plain := isSpace_of_take? h
  have inner : b ≠ 0x0A := by
    rintro rfl
    cases plain
  unfold Digits.take? at h
  rw [collect, if_neg inner, plain, if_neg Bool.false_ne_true]
  split at h
  · next isPad =>
    split at h
    · cases h
    · next may =>
      cases h
      rw [if_pos isPad, if_neg may]
  · next notPad =>
    split at h
    · next may =>
      cases h
      rw [if_neg notPad, if_pos may]
    · cases h

/-- Digits on one line are collected. -/
theorem collect_line {line : Bytes} {d e : Digits}
    (h : line.foldlM Digits.take? d = some e) (rest : Bytes) :
    collect 0 0 d (line ++ rest) = collect 0 0 e rest := by
  induction line generalizing d with
  | nil =>
      cases h
      rfl
  | cons b more ih =>
      obtain ⟨next, hnext, hmore⟩ := Option.bind_eq_some_iff.mp
        (List.foldlM_cons.symm.trans h)
      rw [List.cons_append, collect_of_take? hnext, ih hmore]

theorem collect_lineEnd {eol : String} (h : LineEnd eol) (d : Digits)
    (rest : Bytes) : collect 0 0 d (bytesOf eol ++ rest) = collect 0 0 d rest := by
  obtain ⟨blanks, bytes, kinds⟩ := bytesOf_lineEnd h
  rw [bytes]
  clear bytes
  induction blanks with
  | nil => exact collect_space rfl d rest
  | cons b more ih =>
      obtain ⟨⟨space, -⟩, hmore⟩ := List.forall_mem_cons.mp kinds
      exact (collect_space space d _).trans (ih hmore)

/-- Over whatever lines digits are spread, just they are collected. -/
theorem collect_digitLines {digits text : Bytes} (h : DigitLines digits text)
    {d e : Digits} (taken : digits.foldlM Digits.take? d = some e)
    (rest : Bytes) : collect 0 0 d (text ++ rest) = collect 0 0 e rest := by
  induction h generalizing d with
  | nil =>
      cases taken
      rfl
  | cons ends more ih =>
      rw [List.foldlM_append] at taken
      obtain ⟨next, hnext, hmore⟩ := Option.bind_eq_some_iff.mp taken
      rw [List.append_assoc, collect_line hnext, List.append_assoc,
        collect_lineEnd ends, ih hmore]

theorem isDigit_digit {n : Nat} (h : n < 64) :
    Text.Base64.isDigit (Text.Base64.digit n) = true := by
  rw [Text.Base64.isDigit, Text.Base64.value?_digit h]
  rfl

theorem take?_digit {n : Nat} (h : n < 64) (digits : Bytes) (count : Nat) :
    Digits.take? ⟨digits, count, 0⟩ (Text.Base64.digit n) =
      some ⟨Text.Base64.digit n :: digits, count + 1, 0⟩ := by
  simp [Digits.take?, Text.Base64.digit_ne_pad h, isDigit_digit h]

theorem take?_pad {count pads : Nat} (inside : count % 4 ≠ 0) (few : pads < 2)
    (digits : Bytes) :
    Digits.take? ⟨digits, count, pads⟩ Text.Base64.pad =
      some ⟨Text.Base64.pad :: digits, count + 1, pads + 1⟩ := by
  have may : ¬ (pads = 2 ∨ count % 4 = 0) := by omega
  simp [Digits.take?, may]

/-- Digits are written in whole fours. -/
theorem length_encode_mod (data : Bytes) :
    (Text.Base64.encode data).length % 4 = 0 := by
  fun_induction Text.Base64.encode data with
  | case4 x y z rest n m k ih =>
      simp only [List.length_cons]
      omega
  | _ => simp

/-- The digits that are written for data are all collected. -/
theorem foldlM_encode (data : Bytes) :
    ∀ (digits : Bytes) (count : Nat), count % 4 = 0 →
      ∃ pads, (Text.Base64.encode data).foldlM Digits.take? ⟨digits, count, 0⟩ =
        some ⟨(Text.Base64.encode data).reverse ++ digits,
          count + (Text.Base64.encode data).length, pads⟩ := by
  fun_induction Text.Base64.encode data with
  | case1 => exact fun digits count _ => ⟨0, rfl⟩
  | case2 x n =>
      intro digits count fours
      have hx : n < 256 := x.toNat_lt
      refine ⟨2, ?_⟩
      simp (disch := omega) only [List.foldlM_cons, List.foldlM_nil, take?_digit,
        take?_pad, Option.bind_eq_bind, Option.bind_some]
      rfl
  | case3 x y n m =>
      intro digits count fours
      have hx : n < 256 := x.toNat_lt
      have hy : m < 256 := y.toNat_lt
      refine ⟨1, ?_⟩
      simp (disch := omega) only [List.foldlM_cons, List.foldlM_nil, take?_digit,
        take?_pad, Option.bind_eq_bind, Option.bind_some]
      rfl
  | case4 x y z rest n m k ih =>
      intro digits count fours
      have hx : n < 256 := x.toNat_lt
      have hy : m < 256 := y.toNat_lt
      have hz : k < 256 := z.toNat_lt
      obtain ⟨pads, more⟩ := ih (Text.Base64.digit (k % 64) ::
        Text.Base64.digit (m % 16 * 4 + k / 64) ::
          Text.Base64.digit (n % 4 * 16 + m / 16) ::
            Text.Base64.digit (n / 4) :: digits) (count + 4) (by omega)
      refine ⟨pads, ?_⟩
      simp (disch := omega) only [List.foldlM_cons, take?_digit,
        Option.bind_eq_bind, Option.bind_some, Nat.add_assoc]
      simp [more]
      omega

theorem boundary_cons (lead : String) (content : Content) :
    ∃ more, boundary lead content = 0x2D :: more := by
  rw [boundary_eq]
  exact ⟨_, rfl⟩

theorem dropWhile_boundary (lead : String) (content : Content) (rest : Bytes) :
    (boundary lead content ++ rest).dropWhile isSpace =
      boundary lead content ++ rest := by
  obtain ⟨more, hyphen⟩ := boundary_cons lead content
  rw [hyphen]
  rfl

theorem dropWhile_lineEnd {eol : String} (h : LineEnd eol) (rest : Bytes) :
    (bytesOf eol ++ rest).dropWhile isSpace = rest.dropWhile isSpace := by
  obtain ⟨blanks, bytes, kinds⟩ := bytesOf_lineEnd h
  have spaces : ∀ b ∈ bytesOf eol, isSpace b = true := by
    rw [bytes]
    exact List.forall_mem_append.mpr ⟨fun b hb => (kinds b hb).1,
      List.forall_mem_singleton.mpr rfl⟩
  exact List.dropWhile_append_of_pos spaces

/-- Three bytes are written in four digits. -/
theorem encode_three {bytes : Bytes} (h : bytes.length = 3) :
    (Text.Base64.encode bytes).length = 4 ∧
      (Text.Base64.encode bytes).all Text.Base64.isDigit = true := by
  obtain ⟨x, y, z, rfl⟩ := List.length_eq_three.mp h
  have hx := x.toNat_lt
  have hy := y.toNat_lt
  have hz := z.toNat_lt
  refine ⟨rfl, ?_⟩
  simp (disch := omega) [Text.Base64.encode, isDigit_digit]

theorem dropChecksum_checksumLine (data rest : Bytes) :
    dropChecksum (checksumLine data ++ rest) = rest := by
  obtain ⟨four, digits⟩ := encode_three (length_bytesOfNat 3 (checksumOf data))
  unfold checksumLine
  generalize Text.Base64.encode (bytesOfNat 3 (checksumOf data)) = sum
    at four digits
  have taken : (sum ++ rest).take 4 = sum := List.take_left' four
  simp [dropChecksum, four, taken, digits, List.drop_left' four]

/-- The checksum and the closing line close a block. -/
theorem isClosed_boundary {last : String} (summed : LineEnd last)
    (content : Content) (data rest : Bytes) :
    isClosed content [] (checksumLine data ++ (bytesOf last ++
      (boundary "END PGP " content ++ rest))) = true := by
  obtain ⟨behind, closing, -⟩ :=
    readBoundary_boundary (.inr rfl) content rest
  have sign : (checksumLine data ++ (bytesOf last ++
      (boundary "END PGP " content ++ rest))).dropWhile isSpace =
        checksumLine data ++ (bytesOf last ++
          (boundary "END PGP " content ++ rest)) := rfl
  simp [isClosed, sign, dropChecksum_checksumLine, dropWhile_lineEnd summed,
    dropWhile_boundary, sharedLength, closing]

/-- No dash stands behind the opening line. -/
theorem dropDash?_lineEnd {eol : String} (h : LineEnd eol) (rest : Bytes)
    (n : Nat) : dropDash? ((bytesOf eol ++ rest).take n) = none := by
  obtain ⟨blanks, bytes, kinds⟩ := bytesOf_lineEnd h
  obtain ⟨b, more, hbytes, space⟩ : ∃ b more, bytesOf eol = b :: more ∧
      isSpace b = true := by
    cases blanks with
    | nil => exact ⟨_, _, bytes, rfl⟩
    | cons b more =>
        exact ⟨_, _, bytes, (kinds b List.mem_cons_self).1⟩
  have plain : b.toNat < 0x80 ∧ b ≠ 0x2D := by
    simp only [isSpace, Bool.or_eq_true, beq_iff_eq] at space
    rcases space with (((rfl | rfl) | rfl) | rfl) | rfl <;> decide
  cases n with
  | zero => rfl
  | succ n =>
      rw [hbytes, List.cons_append, List.take_succ_cons]
      exact dropDash?_of_ascii plain.1 plain.2 _

/-- The opening line is found at once. -/
theorem findStart_boundary {first : String} (opened : LineEnd first)
    (content : Content) (fuel : Nat) (rest : Bytes) :
    findStart (fuel + 1) (boundary "BEGIN PGP " content ++
      (bytesOf first ++ rest)) = some ⟨content, [], bytesOf first ++ rest⟩ := by
  obtain ⟨behind, opening, exact⟩ :=
    readBoundary_boundary (.inl rfl) content (bytesOf first ++ rest)
  obtain ⟨more, hyphen⟩ := boundary_cons "BEGIN PGP " content
  obtain rfl := exact (dropDash?_lineEnd opened rest)
  rw [hyphen, List.cons_append] at opening ⊢
  have unquoted : (0x2D :: (more ++ (bytesOf first ++ rest))).takeWhile isQuote =
      [] := rfl
  simp only [findStart, unquoted, List.length_nil, List.drop_zero, opening]

/-- A block of armor opens to the data that it was written for. -/
theorem open?_of_block {content : Content} {data text : Bytes}
    (h : Block content data text) : open? text = some ⟨data, true⟩ := by
  cases h with
  | @mk first blank last headers body rest opened header separated lines summed =>
      obtain ⟨pads, taken⟩ := foldlM_encode data [] 0 rfl
      rw [List.append_nil, Nat.zero_add] at taken
      have fours := length_encode_mod data
      have whole : (Text.Base64.encode data).length / 4 * 4 =
          (Text.Base64.encode data).length := by omega
      -- what follows the digits starts with the sign of the checksum, which is
      -- no pad behind whole fours
      have collected : collect 0 0 ⟨[], 0, 0⟩ (body ++ (checksumLine data ++
          (bytesOf last ++ (boundary "END PGP " content ++ rest)))) =
            (⟨(Text.Base64.encode data).reverse,
              (Text.Base64.encode data).length, pads⟩,
              checksumLine data ++ (bytesOf last ++
                (boundary "END PGP " content ++ rest))) := by
        rw [collect_digitLines lines taken]
        simp [checksumLine, collect, fours, isSpace, Text.Base64.pad]
      have settled : ∀ lines : Bytes, settleQuote [] lines = some [] :=
        fun lines => by simp [settleQuote]
      have shorter : headers.length < (headers ++ (bytesOf blank ++ (body ++
          (checksumLine data ++ (bytesOf last ++
            (boundary "END PGP " content ++ rest)))))).length + 1 := by
        rw [List.length_append]
        omega
      unfold open?
      simp only [findStart_boundary opened, Option.bind_eq_bind,
        Option.bind_some, dropLineEnd_lineEnd opened, settled, List.length_nil,
        List.drop_zero, dropHeaders_headerLines header separated shorter,
        collected, whole, List.reverse_reverse, List.take_length,
        Text.Base64.decode?_encode, isClosed_boundary summed, beq_self_eq_true,
        Bool.and_self]

theorem lineEnd_newline : LineEnd "\n" :=
  ⟨[], rfl, fun _ h => nomatch h⟩

theorem digitLines_writeLines {fuel : Nat} {digits : Bytes}
    (enough : digits.length ≤ fuel) : DigitLines digits (writeLines fuel digits) := by
  induction fuel generalizing digits with
  | zero =>
      obtain rfl := List.length_eq_zero_iff.mp (Nat.le_zero.mp enough)
      exact .nil
  | succ fuel ih =>
      cases digits with
      | nil => exact .nil
      | cons b rest =>
          have shorter : ((b :: rest).drop lineSize).length ≤ fuel := by
            rw [List.length_drop, lineSize]
            omega
          have first := @DigitLines.cons ((b :: rest).take lineSize) _ _ _
            lineEnd_newline (ih shorter)
          rwa [List.take_append_drop] at first

/-- Armor is written as such a block. -/
theorem block_write (content : Content) (data : Bytes) :
    Block content data (write content data) := by
  have lines := digitLines_writeLines
    (Nat.le_refl (Text.Base64.encode data).length)
  have block := @Block.mk content data "\n" "\n" "\n" [] _ (bytesOf "\n")
    lineEnd_newline .nil lineEnd_newline lines lineEnd_newline
  have line : bytesOf "-----\n" = bytesOf "-----" ++ bytesOf "\n" := rfl
  have newline : bytesOf "\n" = [0x0A] := rfl
  simpa [write, writeBoundary, boundary, checksumLine, bytesOf_append, line,
    newline] using block

end IssuerAudit.OpenPgp.Armor
