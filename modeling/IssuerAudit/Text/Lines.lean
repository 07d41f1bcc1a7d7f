/-!
Lines of a text.  A line ends at a line feed, and one carriage return directly before
the line feed belongs to the line's end; a carriage return elsewhere is an ordinary
character.
-/

namespace IssuerAudit.Text

/-- The lines of a text, without their ends.  A text that ends in a line feed has no
further, empty line after it. -/
def lines : List Char → List (List Char)
  | [] => []
  | '\n' :: rest => [] :: lines rest
  | '\r' :: '\n' :: rest => [] :: lines rest
  | c :: rest =>
      match lines rest with
      | [] => [[c]]
      | first :: more => (c :: first) :: more

/-- A line without the carriage return that belongs to its end. -/
def withoutReturn (line : List Char) : List Char :=
  if line.getLast? = some '\r' then line.dropLast else line

theorem lines_cons_of_ne {c : Char} (hn : c ≠ '\n') {rest : List Char}
    (hr : c = '\r' → rest.head? ≠ some '\n') :
    lines (c :: rest) =
      match lines rest with
      | [] => [[c]]
      | first :: more => (c :: first) :: more := by
  rw [lines.eq_def]
  split
  · next h => cases h
  · next h => exact absurd (List.cons.inj h).1 hn
  · next h =>
    obtain ⟨hc, hrest⟩ := List.cons.inj h
    exact absurd (congrArg List.head? hrest) (hr hc)
  · next h =>
    obtain ⟨rfl, rfl⟩ := List.cons.inj h
    rfl

theorem withoutReturn_cons {c d : Char} {line : List Char} :
    withoutReturn (c :: d :: line) = c :: withoutReturn (d :: line) := by
  unfold withoutReturn
  rw [List.getLast?_cons_cons, List.dropLast_cons_cons]
  split <;> rfl

theorem lines_append_newline {line : List Char} (h : '\n' ∉ line) (rest : List Char) :
    lines (line ++ '\n' :: rest) = withoutReturn line :: lines rest := by
  induction line with
  | nil => simp [lines, withoutReturn]
  | cons c line ih =>
      rw [List.mem_cons, not_or] at h
      have tail := ih h.2
      cases line with
      | nil =>
          by_cases hr : c = '\r'
          · subst hr
            simp [lines, withoutReturn]
          · rw [List.cons_append,
              lines_cons_of_ne (Ne.symm h.1) (fun hc => absurd hc hr), tail]
            simp [withoutReturn, hr]
      | cons d line =>
          have next : ((d :: line) ++ '\n' :: rest).head? ≠ some '\n' := by
            simpa using fun hd : d = '\n' => h.2 (hd ▸ List.mem_cons_self)
          rw [List.cons_append, lines_cons_of_ne (Ne.symm h.1) (fun _ => next), tail,
            withoutReturn_cons]

/-- Lines that are put under each other are found again. -/
theorem lines_flatMap_newline {ls : List (List Char)}
    (h : ∀ line ∈ ls, '\n' ∉ line ∧ '\r' ∉ line) :
    lines (ls.flatMap (· ++ ['\n'])) = ls := by
  induction ls with
  | nil => rfl
  | cons line rest ih =>
      obtain ⟨hn, hr⟩ := h line List.mem_cons_self
      have same : withoutReturn line = line :=
        if_neg fun last => hr (List.mem_of_getLast? last)
      rw [List.flatMap_cons, List.append_assoc, List.singleton_append,
        lines_append_newline hn, same, ih fun l hl => h l (List.mem_cons_of_mem _ hl)]

end IssuerAudit.Text
