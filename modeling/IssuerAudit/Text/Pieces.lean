/-!
Pieces of a text between separators.  Putting the separators back gives the text again,
so nothing is lost by cutting.
-/

namespace IssuerAudit.Text

/-- The pieces of a text between the places where `sep` stands.  There is one more piece
than there are separators. -/
def pieces (sep : Char) : List Char → List (List Char)
  | [] => [[]]
  | c :: rest =>
      if c = sep then [] :: pieces sep rest
      else
        match pieces sep rest with
        | [] => [[c]]
        | first :: more => (c :: first) :: more

theorem pieces_ne_nil (sep : Char) (cs : List Char) : pieces sep cs ≠ [] := by
  cases cs with
  | nil => simp [pieces]
  | cons c rest =>
      unfold pieces
      split
      · simp
      · split <;> simp

def joinPieces (sep : Char) : List (List Char) → List Char
  | [] => []
  | [last] => last
  | first :: more => first ++ sep :: joinPieces sep more

theorem joinPieces_pieces (sep : Char) (cs : List Char) :
    joinPieces sep (pieces sep cs) = cs := by
  induction cs with
  | nil => rfl
  | cons c rest ih =>
      obtain ⟨first, more, h⟩ := List.exists_cons_of_ne_nil (pieces_ne_nil sep rest)
      rw [h] at ih
      by_cases hc : c = sep
      · simp [pieces, hc, h, joinPieces, ih]
      · cases more with
        | nil => simpa [pieces, hc, h, joinPieces] using ih
        | cons second others => simpa [pieces, hc, h, joinPieces] using ih

theorem pieces_of_whole {sep : Char} {cs : List Char} (whole : sep ∉ cs) :
    pieces sep cs = [cs] := by
  induction cs with
  | nil => rfl
  | cons c rest ih =>
      rw [List.mem_cons, not_or] at whole
      rw [pieces, if_neg (Ne.symm whole.1), ih whole.2]

/-- A separator that is put between two texts separates their pieces. -/
theorem pieces_append (sep : Char) (front rest : List Char) :
    pieces sep (front ++ sep :: rest) = pieces sep front ++ pieces sep rest := by
  induction front with
  | nil => simp [pieces]
  | cons c front ih =>
      obtain ⟨first, more, h⟩ := List.exists_cons_of_ne_nil (pieces_ne_nil sep front)
      by_cases hc : c = sep
      · simp [pieces, hc, ih]
      · simp [pieces, hc, ih, h]

theorem pieces_append_sep {sep : Char} {front : List Char} (whole : sep ∉ front)
    (rest : List Char) :
    pieces sep (front ++ sep :: rest) = front :: pieces sep rest := by
  rw [pieces_append, pieces_of_whole whole, List.singleton_append]

/-- Pieces of which each has a separator behind it are found again, and nothing is left
behind the last separator. -/
theorem pieces_flatMap_sep {sep : Char} {ls : List (List Char)}
    (whole : ∀ l ∈ ls, sep ∉ l) : pieces sep (ls.flatMap (· ++ [sep])) = ls ++ [[]] := by
  induction ls with
  | nil => rfl
  | cons l rest ih =>
      have others : ∀ m ∈ rest, sep ∉ m := fun m hm => whole m (List.mem_cons_of_mem l hm)
      rw [List.flatMap_cons, List.append_assoc, List.singleton_append,
        pieces_append_sep (whole l List.mem_cons_self), ih others, List.cons_append]

end IssuerAudit.Text
