import Mathlib.Data.List.Basic
import IssuerAudit.Text.Utf8
/-!
The strict reading of UTF-8 gives back every text that was written: `decode?_encode`.
-/

namespace IssuerAudit.Text.Utf8

theorem items_of_start {b : UInt8} {s : Start} (h : start b = s)
    (rest : List UInt8) :
    items none (b :: rest) = (ofStart s).1 ++ items (ofStart s).2 rest := by
  simp [items, step, h]

theorem items_of_next {p : Pending} {b : UInt8} {s : Start}
    (h : p.next b = some s) (rest : List UInt8) :
    items (some p) (b :: rest) = (ofStart s).1 ++ items (ofStart s).2 rest := by
  simp [items, step, h]

/-- What six more bits make of an open character. -/
def Pending.extend (p : Pending) (bits : Nat) : Start :=
  match p.after with
  | 0 => .whole (Char.ofNat (p.bits * 64 + bits))
  | after + 1 => .opens ⟨after, 0x80, 0xBF, p.bits * 64 + bits⟩

/-- A byte that may follow brings six more bits. -/
theorem next_of_bounds {p : Pending} {b : UInt8} {bits : Nat}
    (byte : b.toNat = bits + 0x80) (low : p.low ≤ bits + 0x80)
    (high : bits + 0x80 ≤ p.high) : p.next b = some (p.extend bits) := by
  unfold Pending.next Pending.extend
  rw [byte, if_pos ⟨low, high⟩, Nat.add_sub_cancel]
  cases p.after <;> rfl

/-- The last byte of a character ends it. -/
theorem items_last {low high bits more : Nat} {b : UInt8}
    (byte : b.toNat = more + 0x80) (hlow : low ≤ more + 0x80)
    (hhigh : more + 0x80 ≤ high) (rest : List UInt8) :
    items (some ⟨0, low, high, bits⟩) (b :: rest) =
      some (Char.ofNat (bits * 64 + more)) :: items none rest := by
  rw [items_of_next (next_of_bounds byte hlow hhigh)]
  rfl

/-- Every other byte leaves it open. -/
theorem items_more {after low high bits more : Nat} {b : UInt8}
    (byte : b.toNat = more + 0x80) (hlow : low ≤ more + 0x80)
    (hhigh : more + 0x80 ≤ high) (rest : List UInt8) :
    items (some ⟨after + 1, low, high, bits⟩) (b :: rest) =
      items (some ⟨after, 0x80, 0xBF, bits * 64 + more⟩) rest := by
  rw [items_of_next (next_of_bounds byte hlow hhigh)]
  rfl

theorem items_one {b : UInt8} {n : Nat} (byte : b.toNat = n) (h : n < 0x80)
    (rest : List UInt8) :
    items none (b :: rest) = some (Char.ofNat n) :: items none rest := by
  have first : start b = .whole (Char.ofNat n) := by simp [start, byte, h]
  rw [items_of_start first]
  rfl

theorem items_two {b c : UInt8} {x y : Nat} (hb : b.toNat = x + 0xC0)
    (hc : c.toNat = y + 0x80) (low : 2 ≤ x) (hx : x < 32) (hy : y < 64)
    (rest : List UInt8) :
    items none (b :: c :: rest) =
      some (Char.ofNat (x * 64 + y)) :: items none rest := by
  have first : start b = .opens ⟨0, 0x80, 0xBF, x⟩ := by
    simp only [start, hb]
    rw [if_neg (by omega), if_neg (by omega), if_pos (by omega),
      Nat.add_sub_cancel]
  rw [items_of_start first]
  exact items_last hc (by omega) (by omega) rest

/-- The second of three bytes has to rule out overlong forms and surrogates. -/
theorem items_three {b c d : UInt8} {x y z : Nat} (hb : b.toNat = x + 0xE0)
    (hc : c.toNat = y + 0x80) (hd : d.toNat = z + 0x80) (hx : x < 16)
    (hy : y < 64) (hz : z < 64) (short : x = 0 → 32 ≤ y)
    (surrogate : x = 13 → y < 32) (rest : List UInt8) :
    items none (b :: c :: d :: rest) =
      some (Char.ofNat ((x * 64 + y) * 64 + z)) :: items none rest := by
  obtain ⟨low, high, first, hlow, hhigh⟩ : ∃ low high,
      start b = .opens ⟨1, low, high, x⟩ ∧ low ≤ y + 0x80 ∧
        y + 0x80 ≤ high := by
    simp only [start, hb]
    rw [if_neg (by omega), if_neg (by omega), if_neg (by omega)]
    by_cases zero : x = 0
    · exact ⟨0xA0, 0xBF, by simp [zero], by omega, by omega⟩
    rw [if_neg (by omega)]
    by_cases thirteen : x = 13
    · exact ⟨0x80, 0x9F, by simp [thirteen], by omega, by omega⟩
    rw [if_neg (by omega), if_pos (by omega), Nat.add_sub_cancel]
    exact ⟨0x80, 0xBF, rfl, by omega, by omega⟩
  rw [items_of_start first]
  exact (items_more hc hlow hhigh _).trans
    (items_last hd (by omega) (by omega) rest)

/-- The second of four bytes has to rule out overlong forms and what is too
great. -/
theorem items_four {a b c d : UInt8} {w x y z : Nat} (ha : a.toNat = w + 0xF0)
    (hb : b.toNat = x + 0x80) (hc : c.toNat = y + 0x80)
    (hd : d.toNat = z + 0x80) (hw : w < 5) (hx : x < 64) (hy : y < 64)
    (hz : z < 64) (short : w = 0 → 16 ≤ x) (great : w = 4 → x < 16)
    (rest : List UInt8) :
    items none (a :: b :: c :: d :: rest) =
      some (Char.ofNat (((w * 64 + x) * 64 + y) * 64 + z)) ::
        items none rest := by
  obtain ⟨low, high, first, hlow, hhigh⟩ : ∃ low high,
      start a = .opens ⟨2, low, high, w⟩ ∧ low ≤ x + 0x80 ∧
        x + 0x80 ≤ high := by
    simp only [start, ha]
    rw [if_neg (by omega), if_neg (by omega), if_neg (by omega),
      if_neg (by omega), if_neg (by omega), if_neg (by omega)]
    by_cases zero : w = 0
    · exact ⟨0x90, 0xBF, by simp [zero], by omega, by omega⟩
    rw [if_neg (by omega)]
    by_cases four : w = 4
    · exact ⟨0x80, 0x8F, by simp [four], by omega, by omega⟩
    rw [if_pos (by omega), Nat.add_sub_cancel]
    exact ⟨0x80, 0xBF, rfl, by omega, by omega⟩
  rw [items_of_start first]
  exact (items_more hb hlow hhigh _).trans
    ((items_more hc (by omega) (by omega) _).trans
      (items_last hd (by omega) (by omega) rest))

/-- A character is read from its bytes. -/
theorem items_encodeChar (c : Char) (rest : List UInt8) :
    items none (String.utf8EncodeChar c ++ rest) =
      some c :: items none rest := by
  obtain ⟨n, hn⟩ : ∃ n, n = c.val.toNat := ⟨_, rfl⟩
  have valid : n < 0xD800 ∨ 0xDFFF < n ∧ n < 0x110000 := hn ▸ c.valid
  have back : Char.ofNat n = c := hn ▸ Char.ofNat_toNat c
  have last := UInt8.toNat_ofNat_of_lt' (show n % 64 + 128 < 256 by omega)
  have middle := UInt8.toNat_ofNat_of_lt' (show n / 64 % 64 + 128 < 256 by omega)
  have second :=
    UInt8.toNat_ofNat_of_lt' (show n / 4096 % 64 + 128 < 256 by omega)
  rw [String.utf8EncodeChar.eq_1, ← hn]
  by_cases one : n ≤ 0x7F
  · rw [if_pos one, List.singleton_append,
      items_one (UInt8.toNat_ofNat_of_lt' (show n < 256 by omega)) (by omega),
      back]
  by_cases two : n ≤ 0x7FF
  · have first :=
      UInt8.toNat_ofNat_of_lt' (show n / 64 % 32 + 192 < 256 by omega)
    have value : n / 64 % 32 * 64 + n % 64 = n := by omega
    have read := items_two first last (by omega) (by omega) (by omega) rest
    rw [if_neg one, if_pos two]
    rwa [value, back] at read
  by_cases three : n ≤ 0xFFFF
  · have first :=
      UInt8.toNat_ofNat_of_lt' (show n / 4096 % 16 + 224 < 256 by omega)
    have value : (n / 4096 % 16 * 64 + n / 64 % 64) * 64 + n % 64 = n := by
      omega
    have read := items_three first middle last (by omega) (by omega) (by omega)
      (by omega) (by omega) rest
    rw [if_neg one, if_neg two, if_pos three]
    rwa [value, back] at read
  · have first :=
      UInt8.toNat_ofNat_of_lt' (show n / 262144 % 8 + 240 < 256 by omega)
    have value : ((n / 262144 % 8 * 64 + n / 4096 % 64) * 64 + n / 64 % 64) * 64 +
        n % 64 = n := by omega
    have read := items_four first second middle last (by omega) (by omega)
      (by omega) (by omega) (by omega) (by omega) rest
    rw [if_neg one, if_neg two, if_neg three]
    rwa [value, back] at read

/-- Every text is read from its bytes. -/
theorem decode?_encode (cs : List Char) : decode? (encode cs) = some cs := by
  unfold decode?
  induction cs with
  | nil => rfl
  | cons c rest ih =>
      have bytes : encode (c :: rest) =
          String.utf8EncodeChar c ++ encode rest := List.flatMap_cons
      rw [bytes, items_encodeChar, List.mapM_cons, ih]
      rfl

/-- A byte of ASCII stands only for its own character. -/
theorem ofNat_eq_of_mem_encodeChar {b : UInt8} (ascii : b.toNat < 0x80) {c : Char}
    (h : b ∈ String.utf8EncodeChar c) : Char.ofNat b.toNat = c := by
  have high : ∀ {n : Nat}, 0x80 ≤ n → n < 0x100 → b ≠ UInt8.ofNat n := by
    rintro n low great rfl
    rw [UInt8.toNat_ofNat_of_lt' great] at ascii
    exact Nat.not_lt.mpr low ascii
  rw [String.utf8EncodeChar.eq_1] at h
  split at h
  · next one =>
    obtain rfl := List.mem_singleton.mp h
    rw [UInt8.toNat_ofNat_of_lt' (show c.val.toNat < 256 by omega)]
    exact Char.ofNat_toNat c
  · exfalso
    split at h
    · simp only [List.mem_cons, List.not_mem_nil, or_false] at h
      rcases h with h | h
      all_goals exact high (by omega) (by omega) h
    split at h
    · simp only [List.mem_cons, List.not_mem_nil, or_false] at h
      rcases h with h | h | h
      all_goals exact high (by omega) (by omega) h
    · simp only [List.mem_cons, List.not_mem_nil, or_false] at h
      rcases h with h | h | h | h
      all_goals exact high (by omega) (by omega) h

theorem ofNat_mem_of_mem_encode {b : UInt8} (ascii : b.toNat < 0x80)
    {cs : List Char} (h : b ∈ encode cs) : Char.ofNat b.toNat ∈ cs := by
  obtain ⟨c, hc, hb⟩ := List.mem_flatMap.mp h
  rwa [ofNat_eq_of_mem_encodeChar ascii hb]

end IssuerAudit.Text.Utf8
