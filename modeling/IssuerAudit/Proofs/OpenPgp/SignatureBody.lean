import Mathlib.Algebra.Group.Nat.Defs
import Mathlib.Data.Nat.Size
import Mathlib.Data.List.Basic
import IssuerAudit.OpenPgp.Framing
import IssuerAudit.OpenPgp.Signature.Write
/-!
The bodies of signatures as they may be written: in each area the length of every
subpacket has a form of its own, and signatures may be nested in subpackets.  Each of
them reads back as the signature: `readSignature_of_body`.
-/

namespace IssuerAudit.OpenPgp

theorem takeByte_cons (b : UInt8) (rest : Bytes) :
    takeByte (b :: rest) = some (b, rest) :=
  rfl

theorem takeNat_one (b : UInt8) (rest : Bytes) :
    takeNat 1 (b :: rest) = some (b.toNat, rest) := by
  simp [takeNat, takeBytes, natOfBytes]

theorem takeBytes_of_length {n : Nat} {field : Bytes} (h : field.length = n)
    (rest : Bytes) : takeBytes n (field ++ rest) = some (field, rest) :=
  h ▸ takeBytes_append field rest

/-- The first place of a number stands in front of all others. -/
theorem bytesOfNat_succ (k n : Nat) :
    bytesOfNat (k + 1) n = UInt8.ofNat (n / 256 ^ k) :: bytesOfNat k n := by
  induction k generalizing n with
  | zero => simp [bytesOfNat]
  | succ k ih =>
      have last : bytesOfNat (k + 2) n =
          bytesOfNat (k + 1) (n / 256) ++ [UInt8.ofNat n] := rfl
      rw [last, ih, Nat.div_div_eq_div_mul, ← Nat.pow_succ']
      rfl

/-- A number as it is written: the count of its bits and the bytes that hold
them. -/
def writeMpi (n : Nat) : Bytes :=
  bytesOfNat 2 n.size ++ bytesOfNat ((n.size + 7) / 8) n

/-- The first byte of a number holds the bits that do not fill a byte. -/
theorem first_of_size {n k used : Nat} (h : n.size = 8 * k + used + 1) :
    2 ^ used ≤ n / 256 ^ k ∧ n / 256 ^ k < 2 ^ (used + 1) := by
  have power : 256 ^ k = 2 ^ (8 * k) := by rw [Nat.pow_mul]
  have least : 2 ^ (8 * k + used) ≤ n := Nat.lt_size.mp (by omega)
  have greatest : n < 2 ^ (8 * k + (used + 1)) :=
    Nat.size_le.mp (Nat.le_of_eq h)
  rw [power]
  constructor
  · rw [Nat.le_div_iff_mul_le (Nat.two_pow_pos _), ← Nat.pow_add, Nat.add_comm]
    exact least
  · rw [Nat.div_lt_iff_lt_mul (Nat.two_pow_pos _), ← Nat.pow_add, Nat.add_comm]
    exact greatest

/-- A number reads back from what is written for it. -/
theorem readMpi_writeMpi {n : Nat} (h : n.size < 65536) (rest : Bytes) :
    (readMpi (writeMpi n ++ rest)).map Prod.snd = some rest := by
  have count : takeNat 2 (writeMpi n ++ rest) =
      some (n.size, bytesOfNat ((n.size + 7) / 8) n ++ rest) := by
    rw [writeMpi, List.append_assoc]
    exact takeNat_append h _
  have taken := takeBytes_of_length (length_bytesOfNat ((n.size + 7) / 8) n) rest
  unfold readMpi
  simp only [count, taken]
  rcases Nat.eq_zero_or_pos n.size with zero | positive
  · simp [zero, bytesOfNat]
  · obtain ⟨k, used, few, size⟩ : ∃ k used, used < 8 ∧
        n.size = 8 * k + used + 1 :=
      ⟨(n.size - 1) / 8, (n.size - 1) % 8, by omega, by omega⟩
    have places : (n.size + 7) / 8 = k + 1 := by omega
    have left : (n.size - 1) % 8 = used := by omega
    have bounds := first_of_size size
    have byte : n / 256 ^ k < 256 :=
      Nat.lt_of_lt_of_le bounds.2 (Nat.pow_le_pow_right (by decide) few)
    have first : (UInt8.ofNat (n / 256 ^ k)).toNat = n / 256 ^ k :=
      UInt8.toNat_ofNat_of_lt' byte
    rw [places, bytesOfNat_succ]
    simp [left, first, bounds]

/-- How many numbers a signature of an algorithm has, if the algorithm is known. -/
def numberCount? (algorithm : Nat) : Option Nat :=
  if algorithm = 1 ∨ algorithm = 3 then some 1
  else if algorithm = 17 ∨ algorithm = 19 ∨ algorithm = 20 ∨ algorithm = 22 then
    some 2
  else none

/-- Holds of the numbers of a signature as they are written; nothing is known of
those of an algorithm that is not known. -/
def NumbersOf (algorithm : Nat) (numbers : Bytes) : Prop :=
  ∀ count ∈ numberCount? algorithm, ∃ values : List Nat,
    values.length = count ∧ (∀ n ∈ values, n.size < 65536) ∧
      numbers = values.flatMap writeMpi

theorem takeEach_writeMpi {values : List Nat}
    (h : ∀ n ∈ values, n.size < 65536) (rest : Bytes) :
    (takeEach readMpi values.length (values.flatMap writeMpi ++ rest)).map
      Prod.snd = some rest := by
  induction values with
  | nil => rfl
  | cons n more ih =>
      obtain ⟨hn, hmore⟩ := List.forall_mem_cons.mp h
      obtain ⟨⟨bytes, behind⟩, read, rfl⟩ := Option.map_eq_some_iff.mp
        (readMpi_writeMpi hn (more.flatMap writeMpi ++ rest))
      obtain ⟨⟨others, last⟩, taken, rfl⟩ := Option.map_eq_some_iff.mp (ih hmore)
      rw [List.flatMap_cons, List.append_assoc, List.length_cons, takeEach, read]
      simp [taken]

/-- The numbers of a signature are read to their end. -/
theorem readSignatureNumbers_of_numbers {algorithm : Nat} {numbers : Bytes}
    (h : NumbersOf algorithm numbers) :
    readSignatureNumbers algorithm numbers = some ((), []) := by
  have known : ∀ count ∈ numberCount? algorithm,
      (takeEach readMpi count numbers).map (fun read => ((), read.2)) =
        some ((), []) := by
    intro count hcount
    obtain ⟨values, rfl, sizes, rfl⟩ := h count hcount
    have taken := takeEach_writeMpi sizes []
    rw [List.append_nil] at taken
    obtain ⟨⟨others, last⟩, taken, rfl⟩ := Option.map_eq_some_iff.mp taken
    rw [taken]
    rfl
  unfold readSignatureNumbers
  simp only
  unfold numberCount? at known
  split
  · next one => exact known 1 (by simp [one])
  · next notOne =>
    split
    · next two => exact known 2 (by simp [notOne, two])
    · rfl

/-- Holds of subpackets and an area that they are written into, each with a form of
its length of its own. -/
def AreaOf (ps : List Subpacket) (area : Bytes) : Prop :=
  ∃ forms : List (LengthForm × Subpacket),
    forms.map Prod.snd = ps ∧ writeArea? forms = some area

theorem areaOf_nil {area : Bytes} (h : AreaOf [] area) : area = [] := by
  obtain ⟨forms, none, written⟩ := h
  obtain rfl := List.map_eq_nil_iff.mp none
  exact (Option.some.inj written).symm

/-- The first subpacket of an area is written in front of the others. -/
theorem areaOf_cons {p : Subpacket} {ps : List Subpacket} {area : Bytes}
    (h : AreaOf (p :: ps) area) :
    ∃ (form : LengthForm) (length more : Bytes),
      form.write? (p.body.length + 1) = some length ∧ AreaOf ps more ∧
        area = length ++ p.kindByte :: (p.body ++ more) := by
  obtain ⟨forms, same, written⟩ := h
  obtain ⟨⟨form, _⟩, rest, rfl, rfl, hrest⟩ := List.map_eq_cons_iff.mp same
  simp only [writeArea?, Option.bind_eq_bind, Option.bind_eq_some_iff] at written
  obtain ⟨bytes, hbytes, more, hmore, harea⟩ := written
  obtain ⟨length, hlength, rfl⟩ := Option.map_eq_some_iff.mp hbytes
  refine ⟨form, length, more, hlength, ⟨rest, hrest, hmore⟩, ?_⟩
  simpa using (Option.some.inj harea).symm

/-- The body of a subpacket is shorter than the area that it is written into. -/
theorem length_body_lt_area {p : Subpacket} {ps : List Subpacket} {area : Bytes}
    (h : AreaOf ps area) (hp : p ∈ ps) : p.body.length < area.length := by
  induction ps generalizing area with
  | nil => cases hp
  | cons first rest ih =>
      obtain ⟨form, length, more, -, hmore, rfl⟩ := areaOf_cons h
      simp only [List.length_append, List.length_cons]
      rcases List.mem_cons.mp hp with rfl | hp
      · omega
      · have shorter := ih hmore hp
        omega

theorem kindByte_kind {p : Subpacket} (h : p.kind < 128) :
    p.kindByte.toNat % 128 = p.kind := by
  unfold Subpacket.kindByte
  cases p.critical <;> simp <;> omega

theorem kindByte_critical {p : Subpacket} (h : p.kind < 128) :
    decide (p.kindByte.toNat ≥ 128) = p.critical := by
  unfold Subpacket.kindByte
  cases p.critical <;> simp <;> omega

/-- The subpackets of an area read back from it. -/
theorem readArea_of_area {isSignature : Bytes → Bool} {hash : Nat}
    {ps : List Subpacket} {area : Bytes} (h : AreaOf ps area)
    (fits : ∀ p ∈ ps, p.kind < 128 ∧
      bodyFits isSignature hash p.kind p.body = true)
    {fuel : Nat} (enough : area.length ≤ fuel) :
    readArea isSignature hash fuel area = some ps := by
  induction ps generalizing area fuel with
  | nil =>
      rw [areaOf_nil h]
      cases fuel <;> rfl
  | cons p rest ih =>
      obtain ⟨form, length, more, hlength, hmore, rfl⟩ := areaOf_cons h
      obtain ⟨⟨small, fit⟩, hrest⟩ := List.forall_mem_cons.mp fits
      have size := readSubpacketLength_write? hlength
        (p.kindByte :: (p.body ++ more))
      have body : takeBytes (p.body.length + 1)
          (p.kindByte :: (p.body ++ more)) =
            some (p.kindByte :: p.body, more) :=
        takeBytes_append (p.kindByte :: p.body) more
      simp only [List.length_append, List.length_cons] at enough
      obtain ⟨fuel, rfl⟩ : ∃ left, fuel = left + 1 :=
        ⟨fuel - 1, by omega⟩
      have shorter : more.length ≤ fuel := by omega
      have others := ih hmore hrest shorter
      generalize hbytes : length ++ p.kindByte :: (p.body ++ more) = bytes
        at size
      cases bytes with
      | nil => simp at hbytes
      | cons b bytes =>
          simp only [readArea, size, body, kindByte_kind small, fit, if_true,
            others, kindByte_critical small, Option.map_some]

/-- An area with its size in front reads back. -/
theorem takeArea_of_area {isSignature : Bytes → Bool} {hash : Nat}
    {ps : List Subpacket} {area : Bytes} (h : AreaOf ps area)
    (size : area.length < 65536)
    (fits : ∀ p ∈ ps, p.kind < 128 ∧
      bodyFits isSignature hash p.kind p.body = true) (rest : Bytes) :
    takeArea isSignature hash
      (bytesOfNat 2 area.length ++ (area ++ rest)) = some (ps, rest) := by
  unfold takeArea
  simp only [takeNat_append (k := 2) size, takeBytes_append,
    readArea_of_area h fits (Nat.le_refl _), Option.map_some]

/-- A body has the form its kind asks for if it has it apart from nested signatures,
and a nested signature is one. -/
theorem bodyFits_of_embedded {isSignature : Bytes → Bool} {hash kind : Nat}
    {body : Bytes} (form : bodyFits (fun _ => true) hash kind body = true)
    (embedded : kind = embeddedKind → isSignature body = true) :
    bodyFits isSignature hash kind body = true := by
  by_cases nested : kind = embeddedKind
  · subst nested
    exact embedded rfl
  · unfold bodyFits at form ⊢
    split at form <;> first | exact form | exact absurd rfl nested

/-- Holds of a signature and a body that it is written as.  The lengths of
subpackets have any form, and so they have in signatures that are nested in
subpackets. -/
inductive SignatureBody : Signature → Bytes → Prop
  | version4 {s : Signature} {hashed unhashed numbers : Bytes}
      (inner : Subpacket → Signature) (version : s.version = 4)
      (key : s.keyAlgorithm < 256)
      (signs : cannotSign s.keyAlgorithm = false)
      (hash : s.hashAlgorithm < 256)
      (hashedArea : AreaOf s.hashed hashed) (hashedSize : hashed.length < 65536)
      (unhashedArea : AreaOf s.unhashed unhashed)
      (unhashedSize : unhashed.length < 65536)
      (forms : ∀ p ∈ s.subpackets, p.kind < 128 ∧
        bodyFits (fun _ => true) s.hashAlgorithm p.kind p.body = true)
      (embedded : ∀ p ∈ s.subpackets, p.kind = embeddedKind →
        SignatureBody (inner p) p.body)
      (written : NumbersOf s.keyAlgorithm numbers) :
      SignatureBody s (s.write hashed unhashed numbers)
  | version3 {sort : UInt8} {key hash : Nat} {created issuer numbers : Bytes}
      {digest : UInt8 × UInt8} (keySmall : key < 256)
      (signs : cannotSign key = false) (hashSmall : hash < 256)
      (createdSize : created.length = 4) (issuerSize : issuer.length = 8)
      (written : NumbersOf key numbers) :
      SignatureBody
        ⟨3, sort, key, hash, [⟨true, createdKind, created⟩],
          [⟨false, issuerKind, issuer⟩], digest⟩
        (3 :: 5 :: sort :: (created ++ (issuer ++
          UInt8.ofNat key :: UInt8.ofNat hash :: digest.1 :: digest.2 ::
            numbers)))

/-- Behind its version, a signature of version 4 reads back from what is written. -/
theorem readVersion4_write {isSignature : Bytes → Bool} {s : Signature}
    {hashed unhashed numbers : Bytes} (version : s.version = 4)
    (key : s.keyAlgorithm < 256) (signs : cannotSign s.keyAlgorithm = false)
    (hash : s.hashAlgorithm < 256) (hashedArea : AreaOf s.hashed hashed)
    (hashedSize : hashed.length < 65536) (unhashedArea : AreaOf s.unhashed unhashed)
    (unhashedSize : unhashed.length < 65536)
    (fits : ∀ p ∈ s.subpackets, p.kind < 128 ∧
      bodyFits isSignature s.hashAlgorithm p.kind p.body = true)
    (written : NumbersOf s.keyAlgorithm numbers) :
    readVersion4 isSignature (s.write hashed unhashed numbers).tail =
      some (s, []) := by
  obtain ⟨hashedFits, unhashedFits⟩ := List.forall_mem_append.mp fits
  have first := takeArea_of_area hashedArea hashedSize hashedFits
    (bytesOfNat 2 unhashed.length ++ (unhashed ++
      s.digest.1 :: s.digest.2 :: numbers))
  have second := takeArea_of_area unhashedArea unhashedSize unhashedFits
    (s.digest.1 :: s.digest.2 :: numbers)
  simp [readVersion4, Signature.write, takeByte_cons, takeNat_one,
    UInt8.toNat_ofNat_of_lt' key, UInt8.toNat_ofNat_of_lt' hash, first, second,
    signs, readSignatureNumbers_of_numbers written, ← version]

/-- Holds of the bodies of signatures in which others are nested at most `depth`
deep. -/
def holdsSignature (depth : Nat) (body : Bytes) : Bool :=
  match readSignature depth body with
  | some (_, []) => true
  | _ => false

theorem readSignature_version4 (depth : Nat) (rest : Bytes) :
    readSignature (depth + 1) (4 :: rest) =
      readVersion4 (holdsSignature depth) rest :=
  rfl

/-- A signature reads back from any body that it is written as. -/
theorem readSignature_of_body {s : Signature} {body : Bytes}
    (h : SignatureBody s body) {depth : Nat} (deep : body.length < depth) :
    readSignature depth body = some (s, []) := by
  induction h generalizing depth with
  | @version4 s hashed unhashed numbers inner version key signs hash hashedArea
      hashedSize unhashedArea unhashedSize forms embedded written ih =>
      obtain ⟨depth, rfl⟩ : ∃ less, depth = less + 1 := ⟨depth - 1, by omega⟩
      simp only [Signature.write, List.length_cons, List.length_append] at deep
      -- what is nested is shorter, so the bound on the depth holds there too
      have nested : ∀ p ∈ s.subpackets, p.kind = embeddedKind →
          holdsSignature depth p.body = true := by
        intro p hp hkind
        have shorter : p.body.length < depth := by
          rcases List.mem_append.mp hp with among | among
          · have less := length_body_lt_area hashedArea among
            omega
          · have less := length_body_lt_area unhashedArea among
            omega
        rw [holdsSignature, ih p hp hkind shorter]
      exact (readSignature_version4 depth _).trans
        (readVersion4_write version key signs hash hashedArea hashedSize
          unhashedArea unhashedSize (fun p hp => ⟨(forms p hp).1,
            bodyFits_of_embedded (forms p hp).2 (nested p hp)⟩) written)
  | version3 keySmall signs hashSmall createdSize issuerSize written =>
      obtain ⟨depth, rfl⟩ : ∃ less, depth = less + 1 := ⟨depth - 1, by omega⟩
      unfold readSignature
      simp [readVersion3, takeByte_cons, takeNat_one,
        takeBytes_of_length createdSize, takeBytes_of_length issuerSize,
        UInt8.toNat_ofNat_of_lt' keySmall, UInt8.toNat_ofNat_of_lt' hashSmall,
        signs, readSignatureNumbers_of_numbers written]

/-- So it is what the body holds. -/
theorem signatureOf?_of_body {s : Signature} {body : Bytes}
    (h : SignatureBody s body) : signatureOf? body = some s := by
  unfold signatureOf?
  rw [readSignature_of_body h (Nat.lt_succ_self _)]
  rfl

end IssuerAudit.OpenPgp
