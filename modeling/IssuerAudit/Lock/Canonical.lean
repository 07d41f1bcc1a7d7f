import IssuerAudit.Lock.Document
/-!
The normal form of lock documents: names that do not occur twice, components in the
order of their names, addresses without blanks at their ends, and fingerprints without
blanks and small letters.
-/

namespace IssuerAudit.Lock

/-- Holds of a record whose texts are in their normal forms. -/
def Record.Canonical (r : Record) : Prop :=
  Text.trim r.signatureUrl = r.signatureUrl ∧
    Fingerprint.normalize r.fingerprint = r.fingerprint

/-- Holds of a channel whose components are in strictly ascending order and have normal
records. -/
def Channel.Canonical (c : Channel) : Prop :=
  Ascending c.components ∧ ∀ component ∈ c.components, component.2.Canonical

def Document.Canonical (d : Document) : Prop :=
  (d.channels.map Channel.name).Nodup ∧ ∀ channel ∈ d.channels, channel.Canonical

instance (r : Record) : Decidable r.Canonical :=
  inferInstanceAs (Decidable (_ ∧ _))

instance (c : Channel) : Decidable c.Canonical :=
  inferInstanceAs (Decidable (_ ∧ _))

instance (d : Document) : Decidable d.Canonical :=
  inferInstanceAs (Decidable (_ ∧ _))

end IssuerAudit.Lock
