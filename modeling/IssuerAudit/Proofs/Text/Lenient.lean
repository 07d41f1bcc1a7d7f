import Mathlib.Algebra.Group.Nat.Defs
import IssuerAudit.Proofs.Text.Decoding
/-!
What the lenient reading of UTF-8 keeps.  Every byte of ASCII comes out as its own
character, and of the bytes in between nothing comes out but characters that are
not of ASCII, at least one of them: `shows_decodeLossy`.
-/

namespace IssuerAudit.Text.Utf8

/-- The character of a byte of ASCII. -/
def asciiChar (b : UInt8) : Char :=
  Char.ofNat b.toNat

theorem toNat_ofNat {n : Nat} (valid : n.isValidChar) : (Char.ofNat n).toNat = n := by
  rw [Char.ofNat, dif_pos valid]
  rfl

theorem toNat_asciiChar {b : UInt8} (ascii : b.toNat < 0x80) :
    (asciiChar b).toNat = b.toNat :=
  toNat_ofNat (Or.inl (by omega))

/-- Holds of bytes and of a text that shows them: the bytes of ASCII stand in it as
their own characters, and for other bytes in a row there are other characters in a
row, of which there may be fewer, but not none. -/
inductive Shows : List UInt8 → List Char → Prop
  | nothing : Shows [] []
  | ascii {b : UInt8} {bytes : List UInt8} {cs : List Char}
      (plain : b.toNat < 0x80) (more : Shows bytes cs) :
      Shows (b :: bytes) (asciiChar b :: cs)
  | other {b : UInt8} {c : Char} {bytes : List UInt8} {cs : List Char}
      (byte : 0x80 ≤ b.toNat) (char : 0x80 ≤ c.toNat) (more : Shows bytes cs) :
      Shows (b :: bytes) (c :: cs)
  | moreBytes {b next : UInt8} {bytes : List UInt8} {cs : List Char}
      (byte : 0x80 ≤ b.toNat) (same : 0x80 ≤ next.toNat)
      (more : Shows (next :: bytes) cs) : Shows (b :: next :: bytes) cs

namespace Pending

/-- The least number that an open character can come to. -/
def least (p : Pending) : Nat :=
  (p.bits * 64 + (p.low - 0x80)) * 64 ^ p.after

/-- The number behind the greatest one that an open character can come to. -/
def bound (p : Pending) : Nat :=
  (p.bits * 64 + (p.high - 0x80) + 1) * 64 ^ p.after

/-- Holds of an open character that only bytes outside of ASCII go on with, and that
comes to a character outside of ASCII whichever they are. -/
structure Sound (p : Pending) : Prop where
  low : 0x80 ≤ p.low
  high : p.high ≤ 0xBF
  least : 0x80 ≤ p.least
  valid : p.bound ≤ 0xD800 ∨ 0xE000 ≤ p.least ∧ p.bound ≤ 0x110000

theorem sound_of_bounds {after low high bits : Nat} (hlow : 0x80 ≤ low)
    (hhigh : high ≤ 0xBF)
    (hleast : 0x80 ≤ (bits * 64 + (low - 0x80)) * 64 ^ after)
    (hvalid : (bits * 64 + (high - 0x80) + 1) * 64 ^ after ≤ 0xD800 ∨
      0xE000 ≤ (bits * 64 + (low - 0x80)) * 64 ^ after ∧
        (bits * 64 + (high - 0x80) + 1) * 64 ^ after ≤ 0x110000) :
    Sound ⟨after, low, high, bits⟩ :=
  ⟨hlow, hhigh, hleast, hvalid⟩

end Pending

/-- Holds of what no byte of ASCII means. -/
def Start.Foreign : Start → Prop
  | .whole c => 0x80 ≤ c.toNat
  | .opens p => p.Sound
  | .stray => True

theorem start_of_ascii {b : UInt8} (ascii : b.toNat < 0x80) :
    start b = .whole (asciiChar b) := by
  rw [start, if_pos ascii, asciiChar]

/-- Every byte outside of ASCII that opens a character opens one outside of it. -/
theorem start_foreign {b : UInt8} (byte : 0x80 ≤ b.toNat) : (start b).Foreign := by
  have small := b.toNat_lt
  generalize hn : b.toNat = n at byte small
  simp only [start, hn]
  split
  · omega
  split
  · trivial
  -- the bounds of the second byte are what keeps a character out of ASCII
  split
  · apply Pending.sound_of_bounds <;> omega
  split
  · apply Pending.sound_of_bounds <;> omega
  split
  · apply Pending.sound_of_bounds <;> omega
  split
  · apply Pending.sound_of_bounds <;> omega
  split
  · apply Pending.sound_of_bounds <;> omega
  split
  · apply Pending.sound_of_bounds <;> omega
  split
  · apply Pending.sound_of_bounds <;> omega
  · trivial

theorem Pending.Sound.next_of_ascii {p : Pending} (sound : p.Sound) {b : UInt8}
    (ascii : b.toNat < 0x80) : p.next b = none := by
  have low := sound.low
  rw [Pending.next, if_neg (by omega)]

/-- A byte that goes on with an open character leaves it as it was, or ends it
outside of ASCII. -/
theorem Pending.Sound.next {p : Pending} (sound : p.Sound) {b : UInt8} {s : Start}
    (h : p.next b = some s) : s.Foreign := by
  obtain ⟨after, low, high, bits⟩ := p
  obtain ⟨hlow, hhigh, least, valid⟩ := sound
  simp only [Pending.least, Pending.bound] at hlow hhigh least valid
  unfold Pending.next at h
  split at h
  · next bounds =>
    obtain ⟨above, below⟩ := bounds
    simp only at above below
    generalize more : b.toNat - 0x80 = m at h
    cases after with
    | zero =>
        obtain rfl := Option.some.inj h
        have number : (Char.ofNat (bits * 64 + m)).toNat = bits * 64 + m := by
          apply toNat_ofNat
          unfold Nat.isValidChar
          omega
        change 0x80 ≤ (Char.ofNat (bits * 64 + m)).toNat
        omega
    | succ after =>
        obtain rfl := Option.some.inj h
        have lower : (bits * 64 + (low - 0x80)) * 64 ^ (after + 1) ≤
            ((bits * 64 + m) * 64 + (0x80 - 0x80)) * 64 ^ after := by
          rw [Nat.pow_succ, Nat.mul_comm (64 ^ after), ← Nat.mul_assoc]
          apply Nat.mul_le_mul_right
          omega
        have upper : ((bits * 64 + m) * 64 + (0xBF - 0x80) + 1) * 64 ^ after ≤
            (bits * 64 + (high - 0x80) + 1) * 64 ^ (after + 1) := by
          rw [Nat.pow_succ, Nat.mul_comm (64 ^ after), ← Nat.mul_assoc]
          apply Nat.mul_le_mul_right
          omega
        apply Pending.sound_of_bounds (Nat.le_refl _) (Nat.le_refl _)
          (Nat.le_trans least lower)
        rcases valid with valid | ⟨late, valid⟩
        · exact Or.inl (Nat.le_trans upper valid)
        · exact Or.inr ⟨Nat.le_trans late lower, Nat.le_trans upper valid⟩
  · cases h

/-- The characters that the lenient reading gives from some state on. -/
def lenient (open? : Option Pending) (bytes : List UInt8) : List Char :=
  (items open? bytes).map (·.getD replacement)

theorem lenient_of_ascii {b : UInt8} (ascii : b.toNat < 0x80)
    (bytes : List UInt8) :
    lenient none (b :: bytes) = asciiChar b :: lenient none bytes := by
  rw [lenient, items_of_start (start_of_ascii ascii)]
  rfl

/-- From an open character on, the bytes up to its end are shown as one character
outside of ASCII; `b` is the byte that was read last. -/
theorem shows_lenient (bytes : List UInt8) :
    Shows bytes (lenient none bytes) ∧
      ∀ p : Pending, p.Sound → ∀ b : UInt8, 0x80 ≤ b.toNat →
        Shows (b :: bytes) (lenient (some p) bytes) := by
  induction bytes with
  | nil =>
      refine ⟨.nothing, ?_⟩
      intro p sound b byte
      exact .other byte (by decide) .nothing
  | cons next rest ih =>
      obtain ⟨closed, opened⟩ := ih
      have fresh : Shows (next :: rest) (lenient none (next :: rest)) := by
        by_cases ascii : next.toNat < 0x80
        · rw [lenient_of_ascii ascii]
          exact .ascii ascii closed
        · have byte := Nat.not_lt.mp ascii
          have foreign := start_foreign byte
          rw [lenient, items_of_start rfl]
          cases begun : start next with
          | whole c =>
              rw [begun] at foreign
              exact .other byte foreign closed
          | opens p =>
              rw [begun] at foreign
              exact opened p foreign next byte
          | stray => exact .other byte (by decide) closed
      refine ⟨fresh, ?_⟩
      intro p sound b byte
      cases taken : p.next next with
      | none =>
          -- the character is broken off, and `next` is read again
          have broken : lenient (some p) (next :: rest) =
              replacement :: lenient none (next :: rest) := by
            simp [lenient, items, step, taken]
          rw [broken]
          exact .other byte (by decide) fresh
      | some s =>
          have foreign := sound.next taken
          have same : 0x80 ≤ next.toNat := by
            by_contra ascii
            rw [sound.next_of_ascii (Nat.not_le.mp ascii)] at taken
            cases taken
          apply Shows.moreBytes byte same
          rw [lenient, items_of_next taken]
          cases s with
          | whole c => exact .other same foreign closed
          | opens q => exact opened q foreign next same
          | stray => exact .other same (by decide) closed

/-- The lenient reading of bytes shows them. -/
theorem shows_decodeLossy (bytes : List UInt8) :
    Shows bytes (decodeLossy bytes) :=
  (shows_lenient bytes).1

namespace Shows

/-- At the front both are of ASCII, and the same, or neither is. -/
theorem front {bytes : List UInt8} {cs : List Char} (h : Shows bytes cs) :
    (bytes = [] ∧ cs = []) ∨
      (∃ b moreBytes moreChars, b.toNat < 0x80 ∧ bytes = b :: moreBytes ∧
        cs = asciiChar b :: moreChars ∧ Shows moreBytes moreChars) ∨
      ∃ b moreBytes c moreChars, 0x80 ≤ b.toNat ∧ 0x80 ≤ c.toNat ∧
        bytes = b :: moreBytes ∧ cs = c :: moreChars := by
  induction h with
  | nothing => exact Or.inl ⟨rfl, rfl⟩
  | ascii plain more => exact Or.inr (Or.inl ⟨_, _, _, plain, rfl, rfl, more⟩)
  | other byte char more =>
      exact Or.inr (Or.inr ⟨_, _, _, _, byte, char, rfl, rfl⟩)
  | moreBytes byte same more ih =>
      rcases ih with ⟨empty, -⟩ | ⟨b, _, _, plain, begun, -⟩ |
        ⟨_, _, c, cs, -, char, -, rfl⟩
      · cases empty
      · obtain ⟨rfl, -⟩ := List.cons.inj begun
        omega
      · exact Or.inr (Or.inr ⟨_, _, c, cs, byte, char, rfl, rfl⟩)

/-- A text is cut where its bytes are cut at a byte of ASCII. -/
theorem cut {xs ys : List UInt8} {b : UInt8} {cs : List Char}
    (plain : b.toNat < 0x80) (h : Shows (xs ++ b :: ys) cs) :
    ∃ front back, cs = front ++ asciiChar b :: back ∧ Shows xs front ∧
      Shows ys back := by
  generalize whole : xs ++ b :: ys = bytes at h
  induction h generalizing xs with
  | nothing => exact absurd whole (by simp)
  | @ascii a bytes cs other more ih =>
      rcases xs with _ | ⟨x, xs⟩
      · obtain ⟨rfl, rfl⟩ := List.cons.inj whole
        exact ⟨[], cs, rfl, .nothing, more⟩
      · obtain ⟨rfl, rest⟩ := List.cons.inj whole
        obtain ⟨front, back, rfl, before, behind⟩ := ih rest
        exact ⟨asciiChar x :: front, back, rfl, .ascii other before, behind⟩
  | @other a c bytes cs byte char more ih =>
      rcases xs with _ | ⟨x, xs⟩
      · obtain ⟨rfl, -⟩ := List.cons.inj whole
        omega
      · obtain ⟨rfl, rest⟩ := List.cons.inj whole
        obtain ⟨front, back, rfl, before, behind⟩ := ih rest
        exact ⟨c :: front, back, rfl, .other byte char before, behind⟩
  | @moreBytes a next bytes cs byte same more ih =>
      rcases xs with _ | ⟨x, xs⟩
      · obtain ⟨rfl, -⟩ := List.cons.inj whole
        omega
      · obtain ⟨rfl, rest⟩ := List.cons.inj whole
        obtain ⟨front, back, rfl, before, behind⟩ := ih rest
        rcases xs with _ | ⟨y, xs⟩
        · obtain ⟨rfl, -⟩ := List.cons.inj rest
          omega
        · obtain ⟨rfl, -⟩ := List.cons.inj rest
          exact ⟨front, back, rfl, .moreBytes byte same before, behind⟩

/-- A text holds no character of ASCII but those that its bytes hold. -/
theorem not_mem {bytes : List UInt8} {cs : List Char} (h : Shows bytes cs)
    {b : UInt8} (plain : b.toNat < 0x80) (absent : b ∉ bytes) :
    asciiChar b ∉ cs := by
  have number := toNat_asciiChar plain
  induction h with
  | nothing => exact List.not_mem_nil
  | @ascii a bytes cs other more ih =>
      rw [List.mem_cons, not_or] at absent ⊢
      refine ⟨?_, ih absent.2⟩
      intro same
      have bytes := congrArg Char.toNat same
      rw [number, toNat_asciiChar other] at bytes
      exact absent.1 (UInt8.toNat_inj.mp bytes)
  | @other a c bytes cs byte char more ih =>
      rw [List.mem_cons, not_or] at absent ⊢
      refine ⟨?_, ih absent.2⟩
      rintro rfl
      omega
  | moreBytes byte same more ih =>
      rw [List.mem_cons, not_or] at absent
      exact ih absent.2

end Shows

/-- Holds of bytes that are the same but for bytes outside of ASCII, which may be
any others outside of it. -/
def SameAscii (xs ys : List UInt8) : Prop :=
  List.Forall₂ (fun x y => x = y ∨ 0x80 ≤ x.toNat ∧ 0x80 ≤ y.toNat) xs ys

theorem Shows.of_sameAscii {xs ys : List UInt8} {cs : List Char}
    (h : Shows xs cs) (same : SameAscii xs ys) : Shows ys cs := by
  have outside : ∀ {x y : UInt8}, 0x80 ≤ x.toNat →
      (x = y ∨ 0x80 ≤ x.toNat ∧ 0x80 ≤ y.toNat) → 0x80 ≤ y.toNat := by
    rintro x y byte (rfl | ⟨-, other⟩)
    · exact byte
    · exact other
  induction h generalizing ys with
  | nothing =>
      cases same
      exact .nothing
  | ascii plain more ih =>
      rcases same with _ | ⟨rfl | ⟨byte, -⟩, rest⟩
      · exact .ascii plain (ih rest)
      · omega
  | other byte char more ih =>
      rcases same with _ | ⟨first, rest⟩
      exact .other (outside byte first) char (ih rest)
  | moreBytes byte next more ih =>
      rcases same with _ | ⟨first, rest⟩
      rcases rest with _ | ⟨second, rest⟩
      exact .moreBytes (outside byte first) (outside next second)
        (ih (.cons second rest))

end IssuerAudit.Text.Utf8
