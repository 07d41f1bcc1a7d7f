import Mathlib.Data.List.Permutation
import IssuerAudit.Proofs.Lock.Offences
import IssuerAudit.Proofs.Lock.Declared
import IssuerAudit.Proofs.Run.Findings
import IssuerAudit.Proofs.Text.Alike
/-!
When two lock texts mean the same.  Of a record only the two strings count, and a
string that is missing or null counts as empty; blanks around an address and blanks
and the case of letters in a fingerprint do not count; and components may stand in
any order.  Texts that load give one document just if they mean the same, and then
a run over either is the same run: `ofText_eq_iff_sameMeaning`.
-/

namespace IssuerAudit.Lock

open Json (SpellsText Value field? skipSpace)
open Fingerprint (SameFingerprint)
open Text (SameAddress)

/-- Holds of a text and of what it has under `channels`: of one with an object at
the top, and of a list that stands for one. -/
def Keeps (text : String) (entries : Entries) : Prop :=
  (∃ held, Spelled text held ∧ held.entries? = some entries) ∨
    ∃ v, StandsFor v entries ∧ SpellsText text.toList v

/-- Holds of a field and the string that it declares.  A field that is missing or
null declares the empty string. -/
inductive Declares : Option Value → String → Prop
  | missing : Declares none ""
  | null : Declares (some .null) ""
  | string (s : String) : Declares (some (.string s)) s

/-- Holds of two fields that declare strings which are the same in some sense. -/
inductive SameField (same : List Char → List Char → Prop) :
    Option Value → Option Value → Prop
  | mk {v w : Option Value} {s t : String} (left : Declares v s)
      (right : Declares w t) (alike : same s.toList t.toList) :
      SameField same v w

/-- Holds of the fields of two records that declare the same.  The fields may stand
in any order, and there may be any others beside them. -/
structure SameRecord (fields others : List (String × Value)) : Prop where
  address : SameField SameAddress (field? "signature_url" fields)
    (field? "signature_url" others)
  fingerprint : SameField SameFingerprint
    (field? "public_key_fingerprint" fields)
    (field? "public_key_fingerprint" others)

/-- Holds of two components of one name with records that declare the same. -/
inductive SameComponent : String × Value → String × Value → Prop
  | mk (name : String) {fields others : List (String × Value)}
      (record : SameRecord fields others) :
      SameComponent (name, .object fields) (name, .object others)

/-- Holds of the components of two channels that are the same in some order. -/
def SameComponents (components others : List (String × Value)) : Prop :=
  ∃ reordered, components.Perm reordered ∧
    List.Forall₂ SameComponent reordered others

/-- Holds of two channels of one name with the same components. -/
inductive SameChannel : String × Value → String × Value → Prop
  | mk (name : String) {components others : List (String × Value)}
      (same : SameComponents components others) :
      SameChannel (name, .object components) (name, .object others)

/-- Holds of what two texts have under `channels` if it means the same.  Nothing
and null mean that there are no channels. -/
def SameMeaning (entries others : Entries) : Prop :=
  List.Forall₂ SameChannel (entries.getD []) (others.getD [])

/-- A text that is read keeps what is read of it, and no other text is read. -/
theorem readText_iff_keeps {text : String} {entries : Entries} :
    readText text.toList = .ok entries ↔ Keeps text entries := by
  by_cases brace : (skipSpace text.toList).head? = some '\x7b'
  · have unlisted : ¬ ∃ v, StandsFor v entries ∧ SpellsText text.toList v := by
      rintro ⟨v, stands, rest, spelled, -⟩
      obtain ⟨items, rfl⟩ : ∃ items, v = .list items := by
        cases stands <;> exact ⟨_, rfl⟩
      obtain ⟨a, bracket, -⟩ := Json.spells_list_iff.mp spelled
      rw [bracket] at brace
      cases brace
    rw [readText_iff_spelled brace, Keeps, or_iff_left unlisted]
  · have unspelled : ¬ ∃ held, Spelled text held ∧
        held.entries? = some entries := by
      rintro ⟨held, ⟨a, rest, top, -, -⟩, -⟩
      rw [top] at brace
      exact brace rfl
    rw [readText_iff_standsFor brace, Keeps, or_iff_right unspelled]

theorem Declares.unique {v : Option Value} {s t : String} (h : Declares v s)
    (other : Declares v t) : s = t := by
  cases h <;> cases other <;> rfl

/-- A record that is read declares two strings. -/
theorem declares_declaredText {fields : List (String × Value)} {record : Record}
    (apart : (fields.map Prod.fst).Nodup) (h : recordOf fields = .ok record)
    {key : String} (known : key ∈ recordKeys) :
    Declares (field? key fields) (declaredText key fields) := by
  have fine : fields.filterMap wrongField? = [] :=
    (failsFirst_recordOf fields).exists_ok_iff.mp ⟨record, h⟩
  rw [declaredText]
  cases found : field? key fields with
  | none => exact .missing
  | some v =>
      have mem := (Json.field?_eq_some_iff apart).mp found
      have right := List.filterMap_eq_nil_iff.mp fine _ mem
      rcases wrongField?_eq_none_iff.mp right known with rfl | ⟨s, rfl⟩
      · exact .null
      · exact .string s

/-- Two fields are the same just if the strings that they declare are. -/
theorem sameField_iff (same : List Char → List Char → Prop) {v w : Option Value}
    {s t : String} (left : Declares v s) (right : Declares w t) :
    SameField same v w ↔ same s.toList t.toList := by
  constructor
  · rintro ⟨left', right', alike⟩
    rwa [left.unique left', right.unique right']
  · exact .mk left right

/-- Two records that are read are one just if their fields declare the same. -/
theorem sameRecord_iff {fields others : List (String × Value)}
    {record other : Record} (apart : (fields.map Prod.fst).Nodup)
    (apart' : (others.map Prod.fst).Nodup) (h : recordOf fields = .ok record)
    (h' : recordOf others = .ok other) :
    SameRecord fields others ↔ record = other := by
  have url : "signature_url" ∈ recordKeys := by decide
  have fingerprint : "public_key_fingerprint" ∈ recordKeys := by decide
  have address := sameField_iff SameAddress
    (declares_declaredText apart h url) (declares_declaredText apart' h' url)
  have key := sameField_iff SameFingerprint
    (declares_declaredText apart h fingerprint)
    (declares_declaredText apart' h' fingerprint)
  rw [recordOf_ok apart h, recordOf_ok apart' h', Record.ofDeclared,
    Record.ofDeclared, Record.mk.injEq, Text.trim_eq_iff_sameAddress,
    Fingerprint.normalize_eq_iff_sameFingerprint, ← address, ← key]
  exact ⟨fun same => ⟨same.address, same.fingerprint⟩, fun ⟨a, f⟩ => ⟨a, f⟩⟩

/-- Components in ascending order are one list if they are the same in some
order. -/
theorem eq_of_ascending {cs ds : List (String × Record)} (h : Ascending cs)
    (h' : Ascending ds) (perm : cs.Perm ds) : cs = ds := by
  refine List.Perm.eq_of_pairwise ?_ h h' perm
  intro c d _ _ hcd hdc
  have loop := nameBefore_trans hcd hdc
  rw [not_nameBefore_self] at loop
  cases loop

theorem perm_sortComponents {cs : List (String × Record)}
    (apart : (cs.map Prod.fst).Nodup) : (sortComponents cs).Perm cs := by
  have sorted := names_nodup_of_ascending (sortComponents_ascending cs)
  refine (List.perm_ext_iff_of_nodup (sorted.of_map _) (apart.of_map _)).mpr ?_
  intro c
  exact mem_sortComponents apart

/-- Components with names of their own are sorted into one list just if they are
the same in some order. -/
theorem sortComponents_eq_iff_perm {cs ds : List (String × Record)}
    (apart : (cs.map Prod.fst).Nodup) (apart' : (ds.map Prod.fst).Nodup) :
    sortComponents cs = sortComponents ds ↔ cs.Perm ds := by
  have left := perm_sortComponents apart
  have right := perm_sortComponents apart'
  constructor
  · intro same
    rw [same] at left
    exact left.symm.trans right
  · intro perm
    exact eq_of_ascending (sortComponents_ascending cs)
      (sortComponents_ascending ds) (left.trans (perm.trans right.symm))

/-- Lists are read element by element.  If elements are the same just if one thing
is read of them, then lists are. -/
theorem forall₂_iff_eq {α β : Type} {R : α → β → Prop} {S : α → α → Prop}
    {xs others : List α} {ys zs : List β} (h : List.Forall₂ R xs ys)
    (h' : List.Forall₂ R others zs)
    (each : ∀ x ∈ xs, ∀ other ∈ others, ∀ y z, R x y → R other z →
      (S x other ↔ y = z)) :
    List.Forall₂ S xs others ↔ ys = zs := by
  induction h generalizing others zs with
  | nil =>
      cases h' with
      | nil => simp
      | cons here rest => simp
  | @cons x y xs ys here rest ih =>
      cases h' with
      | nil => simp
      | @cons other z others zs here' rest' =>
          have head := each x List.mem_cons_self other List.mem_cons_self y z
            here here'
          have tail := ih rest' fun x hx other hother =>
            each x (List.mem_cons_of_mem _ hx) other
              (List.mem_cons_of_mem _ hother)
          rw [List.forall₂_cons, head, tail, List.cons.injEq]

/-- Two components that are read are one just if they are the same. -/
theorem sameComponent_iff {f g : String × Value} {c d : String × Record}
    (distinct : f.2.Distinct) (distinct' : g.2.Distinct)
    (h : ComponentRead f c) (h' : ComponentRead g d) :
    SameComponent f g ↔ c = d := by
  obtain ⟨name, record⟩ := c
  obtain ⟨other, record'⟩ := d
  obtain ⟨fields, rfl, hrecord⟩ := h
  obtain ⟨others, rfl, hrecord'⟩ := h'
  have records := sameRecord_iff distinct.keys_nodup distinct'.keys_nodup
    hrecord hrecord'
  rw [Prod.mk.injEq, ← records]
  constructor
  · rintro ⟨_, record⟩
    exact ⟨rfl, record⟩
  · rintro ⟨names, record⟩
    obtain rfl : name = other := names
    exact ⟨name, record⟩

/-- The components of two channels are sorted into one list just if they are the
same in some order. -/
theorem sameComponents_iff {fs gs : List (String × Value)}
    {cs ds : List (String × Record)} (distinct : (Value.object fs).Distinct)
    (distinct' : (Value.object gs).Distinct)
    (h : List.Forall₂ ComponentRead fs cs)
    (h' : List.Forall₂ ComponentRead gs ds) :
    SameComponents fs gs ↔ sortComponents cs = sortComponents ds := by
  have apart : (cs.map Prod.fst).Nodup := by
    rw [names_componentRead h]
    exact distinct.keys_nodup
  have apart' : (ds.map Prod.fst).Nodup := by
    rw [names_componentRead h']
    exact distinct'.keys_nodup
  have each : ∀ {hs : List (String × Value)}, fs.Perm hs → ∀ f ∈ hs, ∀ g ∈ gs,
      ∀ c d, ComponentRead f c → ComponentRead g d →
        (SameComponent f g ↔ c = d) := by
    intro hs perm f hf g hg c d
    exact sameComponent_iff (distinct.of_mem (perm.mem_iff.mpr hf))
      (distinct'.of_mem hg)
  rw [sortComponents_eq_iff_perm apart apart']
  constructor
  · rintro ⟨hs, perm, same⟩
    obtain ⟨es, read, reordered⟩ := List.perm_comp_forall₂ perm.symm h
    obtain rfl := (forall₂_iff_eq read h' (each perm)).mp same
    exact reordered.symm
  · intro perm
    obtain ⟨hs, read, reordered⟩ :=
      List.perm_comp_forall₂ perm.symm (List.Forall₂.flip h)
    refine ⟨hs, reordered.symm, ?_⟩
    exact (forall₂_iff_eq read.flip h' (each reordered.symm)).mpr rfl

/-- Two channels that are read are one just if they are the same. -/
theorem sameChannel_iff {f g : String × Value} {c d : Channel}
    (distinct : f.2.Distinct) (distinct' : g.2.Distinct)
    (h : ChannelRead f c) (h' : ChannelRead g d) :
    SameChannel f g ↔ c = d := by
  obtain ⟨name, components, ascending⟩ := c
  obtain ⟨other, components', ascending'⟩ := d
  obtain ⟨fs, cs, rfl, hcs, rfl⟩ := h
  obtain ⟨gs, ds, rfl, hds, rfl⟩ := h'
  have inside := sameComponents_iff distinct distinct' hcs hds
  rw [Channel.mk.injEq, ← inside]
  constructor
  · rintro ⟨_, same⟩
    exact ⟨rfl, same⟩
  · rintro ⟨names, same⟩
    obtain rfl : name = other := names
    exact ⟨name, same⟩

theorem Entries.Distinct.of_mem {entries : Entries} (h : entries.Distinct)
    {f : String × Value} (hf : f ∈ entries.getD []) : f.2.Distinct := by
  cases entries with
  | none => exact absurd hf List.not_mem_nil
  | some fields => exact (h fields rfl).of_mem hf

/-- Two texts that load give one document just if they mean the same.  Whatever
the source of fingerprints and wherever the text of a run goes, the two are then
one run: the addresses asked for, the report and the text are the same. -/
theorem ofText_eq_iff_sameMeaning {text other : String} {d d' : Document}
    {entries entries' : Entries} (h : ofText text = .ok d)
    (h' : ofText other = .ok d') (kept : Keeps text entries)
    (kept' : Keeps other entries') :
    (SameMeaning entries entries' ↔ d = d') ∧
      (SameMeaning entries entries' →
        ∀ (σ : Type) (source : Source σ) (s : σ),
          (∀ sink, Run.start source s sink d = Run.start source s sink d') ∧
          ∃ report p,
            Run.start source s .endless d = (some report, p) ∧
            Run.start source s .endless d' = (some report, p) ∧
            p.asked = Run.addresses d.components ∧
            p.sink.written = Text.Utf8.bytesOf report.display) := by
  have same : SameMeaning entries entries' ↔ d = d' := by
    obtain ⟨_, read, distinct, channels⟩ := ofText_ok h
    obtain ⟨_, read', distinct', channels'⟩ := ofText_ok h'
    have found := readText_iff_keeps.mpr kept
    have found' := readText_iff_keeps.mpr kept'
    obtain rfl := Except.ok.inj (read.symm.trans found)
    obtain rfl := Except.ok.inj (read'.symm.trans found')
    have each := forall₂_iff_eq (S := SameChannel) channels channels'
      fun f hf g hg _ _ =>
        sameChannel_iff (distinct.of_mem hf) (distinct'.of_mem hg)
    rw [SameMeaning, each]
    obtain ⟨list⟩ := d
    obtain ⟨list'⟩ := d'
    rw [Document.mk.injEq]
  refine ⟨same, ?_⟩
  intro meaning σ source s
  obtain rfl := same.mp meaning
  refine ⟨fun sink => rfl, ?_⟩
  have run := Run.document_of_fits source d ⟨s, .endless, []⟩
    (Sink.fits_endless _)
  exact ⟨_, _, run, run, rfl, rfl⟩

/-- A text in which the first component has no fields at all and the second is
written with blanks, a field of no use and mixed letters. -/
def looseText : String :=
  "\x7b\"version\":[1],\"channels\":\x7b\"stable\":\x7b\"web\":\x7b\x7d," ++
    "\"app\":\x7b\"public_key_fingerprint\":\" 0a 1B\\n\",\"note\":true," ++
    "\"signature_url\":\"\\thttps://x/a \"\x7d\x7d\x7d\x7d"

/-- What it has under `channels`. -/
def looseEntries : Entries :=
  some [("stable", .object [("web", .object []),
    ("app", .object [("public_key_fingerprint", .string " 0a 1B\n"),
      ("note", .bool true), ("signature_url", .string "\thttps://x/a ")])])]

/-- A text with the components in order and with all their fields. -/
def strictText : String :=
  "\x7b\"channels\":\x7b\"stable\":\x7b" ++
    "\"app\":\x7b\"signature_url\":\"https://x/a\"," ++
    "\"public_key_fingerprint\":\"0A1b\"\x7d," ++
    "\"web\":\x7b\"signature_url\":null," ++
    "\"public_key_fingerprint\":\"\"\x7d\x7d\x7d\x7d"

/-- What it has under `channels`. -/
def strictEntries : Entries :=
  some [("stable", .object [
    ("app", .object [("signature_url", .string "https://x/a"),
      ("public_key_fingerprint", .string "0A1b")]),
    ("web", .object [("signature_url", .null),
      ("public_key_fingerprint", .string "")])])]

theorem sameMeaning_loose_strict : SameMeaning looseEntries strictEntries := by
  have empty : SameFingerprint [] [] := .nil
  have web : SameRecord [] [("signature_url", .null),
      ("public_key_fingerprint", .string "")] :=
    ⟨.mk .missing .null ⟨[], ⟨[], [], by simp⟩, ⟨[], [], by simp⟩⟩,
      .mk .missing (.string "") empty⟩
  have address : SameAddress "\thttps://x/a ".toList "https://x/a".toList :=
    Text.trim_eq_iff_sameAddress.mp (by decide)
  have fingerprint : SameFingerprint " 0a 1B\n".toList "0A1b".toList :=
    Fingerprint.normalize_eq_iff_sameFingerprint.mp (by decide)
  have app : SameRecord [("public_key_fingerprint", .string " 0a 1B\n"),
      ("note", .bool true), ("signature_url", .string "\thttps://x/a ")]
      [("signature_url", .string "https://x/a"),
        ("public_key_fingerprint", .string "0A1b")] :=
    ⟨.mk (.string _) (.string _) address, .mk (.string _) (.string _) fingerprint⟩
  refine .cons (.mk "stable" ⟨_, .swap _ _ _, ?_⟩) .nil
  exact .cons (.mk "app" app) (.cons (.mk "web" web) .nil)

set_option maxRecDepth 2000 in
/-- The two texts mean the same, and both load to one document. -/
theorem ofText_eq_of_loose_strict :
    Keeps looseText looseEntries ∧ Keeps strictText strictEntries ∧
      SameMeaning looseEntries strictEntries ∧
      ∃ d, ofText looseText = .ok d ∧ ofText strictText = .ok d := by
  have loose : readText looseText.toList = .ok looseEntries := by cbv
  have strict : readText strictText.toList = .ok strictEntries := by cbv
  have kept := readText_iff_keeps.mp loose
  have kept' := readText_iff_keeps.mp strict
  have loads : ∃ d, ofText looseText = .ok d := by
    rw [ofText, ofTextAt, loose]
    exact ⟨_, rfl⟩
  have loads' : ∃ d, ofText strictText = .ok d := by
    rw [ofText, ofTextAt, strict]
    exact ⟨_, rfl⟩
  obtain ⟨d, h⟩ := loads
  obtain ⟨d', h'⟩ := loads'
  have same := (ofText_eq_iff_sameMeaning h h' kept kept').1
  obtain rfl := same.mp sameMeaning_loose_strict
  exact ⟨kept, kept', sameMeaning_loose_strict, d, h, h'⟩

end IssuerAudit.Lock
