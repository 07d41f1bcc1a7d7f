import IssuerAudit.OpenPgp.Listing.Outline
/-!
What the subpackets of a signature tell first.  The key ID and the time of a signature
are those of its first subpackets of some kinds, and no others: `namesKey_iff` and
`tellsTime_iff`.
-/

namespace IssuerAudit.OpenPgp

/-- The first subpacket of a kind. -/
def Signature.first? (s : Signature) (kind : Nat) : Option Subpacket :=
  s.subpackets.find? (·.kind = kind)

theorem Signature.first_iff {s : Signature} {kind : Nat} {p : Subpacket} :
    s.First kind p ↔ s.first? kind = some p := by
  simp only [Signature.First, Signature.first?, Signature.subpackets,
    List.find?_eq_some_iff_append, decide_eq_true_eq, Bool.not_eq_eq_eq_not,
    Bool.not_true, decide_eq_false_iff_not, ne_eq]

theorem Signature.without_iff {s : Signature} {kind : Nat} :
    s.Without kind ↔ s.first? kind = none := by
  simp only [Signature.Without, Signature.first?, Signature.subpackets,
    List.find?_eq_none, decide_eq_true_eq, ne_eq]

theorem Signature.kind_of_first? {s : Signature} {kind : Nat} {p : Subpacket}
    (h : s.first? kind = some p) : p.kind = kind :=
  (first_iff.mpr h).1

/-- What is looked for in the subpackets of one kind is found in the first one. -/
theorem findSome?_kind {α : Type} (kind : Nat) (tell : Subpacket → α)
    (s : Signature) :
    (s.subpackets.findSome? fun p => if p.kind = kind then some (tell p) else none) =
      (s.first? kind).map tell := by
  rw [Signature.first?, List.find?_eq_findSome?_guard, List.map_findSome?]
  congr 1
  funext p
  by_cases h : p.kind = kind <;> simp [Option.guard, h]

theorem Signature.created_eq (s : Signature) :
    s.created = ((s.first? createdKind).map fun p => natOfBytes p.body).getD 0 :=
  congrArg (Option.getD · 0) (findSome?_kind createdKind _ s)

theorem Signature.keyId_eq (s : Signature) :
    s.keyId = match s.first? issuerKind, s.first? issuerFingerprintKind with
      | some p, _ => p.body
      | none, some p => keyIdOf (p.body.drop 1)
      | none, none => List.replicate 8 0 := by
  have issuer : s.subpackets.findSome? Subpacket.issuer? = _ :=
    findSome?_kind issuerKind _ s
  have fingerprint : s.subpackets.findSome? Subpacket.issuerFingerprint? = _ :=
    findSome?_kind issuerFingerprintKind _ s
  rw [Signature.keyId, issuer, fingerprint]
  cases s.first? issuerKind with
  | some p => rfl
  | none => cases s.first? issuerFingerprintKind <;> rfl

theorem upperHex_drop (n : Nat) (bytes : Bytes) :
    Text.upperHex (bytes.drop n) = (Text.upperHex bytes).drop (2 * n) := by
  induction n generalizing bytes with
  | zero => rfl
  | succ n ih =>
      cases bytes with
      | nil => simp [Text.upperHex]
      | cons b rest => exact ih rest

/-- The digits of the key ID that a fingerprint implies are taken from its own. -/
theorem upperHex_keyIdOf (fingerprint : Bytes) :
    Text.upperHex (keyIdOf fingerprint) = keyDigits (Text.upperHex fingerprint) := by
  unfold keyIdOf keyDigits
  rw [Text.length_upperHex]
  by_cases h : fingerprint.length = 20
  · rw [if_pos h, if_pos (by omega), upperHex_drop]
  · rw [if_neg h, if_neg (by omega)]

theorem Signature.upperHex_keyId (s : Signature) :
    Text.upperHex s.keyId =
      match s.first? issuerKind, s.first? issuerFingerprintKind with
      | some p, _ => Text.upperHex p.body
      | none, some p => keyDigits (Text.upperHex (p.body.drop 1))
      | none, none => List.replicate 16 '0' := by
  rw [s.keyId_eq]
  cases s.first? issuerKind with
  | some p => rfl
  | none =>
      cases s.first? issuerFingerprintKind with
      | some p => exact upperHex_keyIdOf _
      | none => decide

/-- The key ID of a signature is the one that its subpackets tell, and they tell no
other. -/
theorem Signature.namesKey_iff {s : Signature} {key : List Char} :
    s.NamesKey key ↔ key = Text.upperHex s.keyId := by
  rw [s.upperHex_keyId]
  constructor
  · intro named
    cases named with
    | keyId first => rw [first_iff.mp first]
    | fingerprint noKeyId first => rw [without_iff.mp noKeyId, first_iff.mp first]
    | nothing noKeyId noFingerprint =>
        rw [without_iff.mp noKeyId, without_iff.mp noFingerprint]
  · rintro rfl
    cases noKeyId : s.first? issuerKind with
    | some p => exact .keyId (first_iff.mpr noKeyId)
    | none =>
        cases first : s.first? issuerFingerprintKind with
        | some p => exact .fingerprint (without_iff.mpr noKeyId) (first_iff.mpr first)
        | none => exact .nothing (without_iff.mpr noKeyId) (without_iff.mpr first)

/-- The time of a signature is the one that its subpackets tell. -/
theorem Signature.tellsTime_iff {s : Signature} {time : Nat} :
    s.TellsTime time ↔ time = s.created := by
  rw [s.created_eq]
  constructor
  · intro told
    cases told with
    | created first => rw [first_iff.mp first, Option.map_some, Option.getD_some]
    | nothing noTime => rw [without_iff.mp noTime, Option.map_none, Option.getD_none]
  · rintro rfl
    cases first : s.first? createdKind with
    | some p => exact .created (first_iff.mpr first)
    | none => exact .nothing (without_iff.mpr first)

end IssuerAudit.OpenPgp
