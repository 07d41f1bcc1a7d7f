/-!
White space and its removal.  Two operations use it: trimming, which touches only the
ends of a text, and squeezing, which drops every blank character wherever it stands.
-/

namespace IssuerAudit.Text

/-- The characters with the Unicode property White_Space.  The property is wider than
ASCII and narrower than "looks empty": U+200B and U+FEFF do not have it. -/
def isBlank (c : Char) : Bool :=
  let n := c.toNat
  (0x09 ≤ n && n ≤ 0x0D) || n == 0x20 || n == 0x85 || n == 0xA0 || n == 0x1680 ||
    (0x2000 ≤ n && n ≤ 0x200A) || n == 0x2028 || n == 0x2029 || n == 0x202F ||
    n == 0x205F || n == 0x3000

def trimChars (cs : List Char) : List Char :=
  ((cs.dropWhile isBlank).reverse.dropWhile isBlank).reverse

def trim (s : String) : String :=
  String.ofList (trimChars s.toList)

/-- Drops every blank character. -/
def squeezeChars (cs : List Char) : List Char :=
  cs.filter (fun c => !isBlank c)

def squeeze (s : String) : String :=
  String.ofList (squeezeChars s.toList)

/-- Holds of a text in which nothing but blank characters occurs, the empty text
included. -/
def isBlankText (s : String) : Bool :=
  s.toList.all isBlank

theorem isBlank_eq_false_of_mem_squeezeChars {cs : List Char} {c : Char}
    (h : c ∈ squeezeChars cs) : isBlank c = false := by
  simpa using (List.mem_filter.1 h).2

theorem all_dropWhile_isBlank (cs : List Char) :
    (cs.dropWhile isBlank).all isBlank = cs.all isBlank := by
  induction cs with
  | nil => rfl
  | cons c rest ih =>
      by_cases h : isBlank c = true
      · rw [List.dropWhile_cons_of_pos h, ih, List.all_cons, h, Bool.true_and]
      · rw [List.dropWhile_cons_of_neg h]

theorem isBlankText_trim (s : String) : isBlankText (trim s) = isBlankText s := by
  simp only [isBlankText, trim, trimChars, String.toList_ofList, List.all_reverse,
    all_dropWhile_isBlank]

end IssuerAudit.Text
