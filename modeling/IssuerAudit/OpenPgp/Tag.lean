/-!
The kinds of packets, with the number that stands for each in a packet header, the name
under which an unusable packet is reported and the shorter name in listings.
-/

namespace IssuerAudit.OpenPgp

inductive Tag where
  /-- Number zero, which no packet may have. -/
  | reserved
  | publicEncrypted
  | signature
  | symmetricEncrypted
  | onePass
  | secretKey
  | publicKey
  | secretSubkey
  | compressed
  | encrypted
  | marker
  | literal
  | trust
  | userId
  | publicSubkey
  | userAttribute
  | encryptedIntegrity
  | modificationCode
  | encryptedAuthenticated
  | unassigned (n : Nat)
  | privateUse (n : Nat)
  deriving DecidableEq, Repr

namespace Tag

def ofNat (n : Nat) : Tag :=
  match n with
  | 0 => .reserved
  | 1 => .publicEncrypted
  | 2 => .signature
  | 3 => .symmetricEncrypted
  | 4 => .onePass
  | 5 => .secretKey
  | 6 => .publicKey
  | 7 => .secretSubkey
  | 8 => .compressed
  | 9 => .encrypted
  | 10 => .marker
  | 11 => .literal
  | 12 => .trust
  | 13 => .userId
  | 14 => .publicSubkey
  | 17 => .userAttribute
  | 18 => .encryptedIntegrity
  | 19 => .modificationCode
  | 20 => .encryptedAuthenticated
  | n => if 60 ≤ n ∧ n ≤ 63 then .privateUse n else .unassigned n

def toNat : Tag → Nat
  | .reserved => 0
  | .publicEncrypted => 1
  | .signature => 2
  | .symmetricEncrypted => 3
  | .onePass => 4
  | .secretKey => 5
  | .publicKey => 6
  | .secretSubkey => 7
  | .compressed => 8
  | .encrypted => 9
  | .marker => 10
  | .literal => 11
  | .trust => 12
  | .userId => 13
  | .publicSubkey => 14
  | .userAttribute => 17
  | .encryptedIntegrity => 18
  | .modificationCode => 19
  | .encryptedAuthenticated => 20
  | .unassigned n => n
  | .privateUse n => n

def title : Tag → String
  | .reserved => "Reserved - a packet tag MUST NOT have this value"
  | .publicEncrypted => "Public-Key Encrypted Session Key Packet"
  | .signature => "Signature Packet"
  | .symmetricEncrypted => "Symmetric-Key Encrypted Session Key Packet"
  | .onePass => "One-Pass Signature Packet"
  | .secretKey => "Secret-Key Packet"
  | .publicKey => "Public-Key Packet"
  | .secretSubkey => "Secret-Subkey Packet"
  | .compressed => "Compressed Data Packet"
  | .encrypted => "Symmetrically Encrypted Data Packet"
  | .marker => "Marker Packet"
  | .literal => "Literal Data Packet"
  | .trust => "Trust Packet"
  | .userId => "User ID Packet"
  | .publicSubkey => "Public-Subkey Packet"
  | .userAttribute => "User Attribute Packet"
  | .encryptedIntegrity => "Sym. Encrypted and Integrity Protected Data Packet"
  | .modificationCode => "Modification Detection Code Packet"
  | .encryptedAuthenticated => "AEAD Encrypted Data Packet"
  | .unassigned n => "Unknown Packet " ++ toString n
  | .privateUse n => "Private/Experimental Packet " ++ toString n

/-- The name of a kind in listings. -/
def label : Tag → String
  | .publicEncrypted => "pubkey enc"
  | .signature => "signature"
  | .symmetricEncrypted => "symkey enc"
  | .onePass => "onepass_sig"
  | .secretKey => "secret key"
  | .publicKey => "public key"
  | .secretSubkey => "secret sub key"
  | .compressed => "compressed"
  | .encrypted => "encrypted"
  | .marker => "marker"
  | .literal => "literal data"
  | .trust => "trust"
  | .userId => "user ID"
  | .publicSubkey => "public sub key"
  | .userAttribute => "attribute"
  | .encryptedIntegrity => "encrypted mdc"
  | .modificationCode => "mdc"
  | _ => "unknown"

/-- Holds of the kinds that hold data of any length and may come in chunks. -/
def holdsData : Tag → Bool
  | .compressed | .encrypted | .literal | .encryptedIntegrity | .encryptedAuthenticated =>
      true
  | _ => false

def isKnown : Tag → Bool
  | .reserved | .unassigned _ | .privateUse _ => false
  | _ => true

end Tag

end IssuerAudit.OpenPgp
