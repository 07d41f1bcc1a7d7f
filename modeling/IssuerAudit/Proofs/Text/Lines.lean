import Mathlib.Data.List.Basic
import IssuerAudit.Text.Lines
/-!
What the lines of a text are.  `HasLines` says it without cutting: the lines and
their ends make up the text.  Every text has just the lines that are cut out of it:
`hasLines_iff`.
-/

namespace IssuerAudit.Text

/-- Holds of a text and its lines.  A line ends at a line feed, together with the
carriage return directly before that if there is one; the last line may lack its
end, but is then not empty. -/
inductive HasLines : List Char → List (List Char) → Prop
  | nothing : HasLines [] []
  | last {line : List Char} (some : line ≠ []) (whole : '\n' ∉ line) :
      HasLines line [line]
  | feed {line rest : List Char} {ls : List (List Char)} (whole : '\n' ∉ line)
      (plain : line.getLast? ≠ some '\r') (more : HasLines rest ls) :
      HasLines (line ++ '\n' :: rest) (line :: ls)
  | returnFeed {line rest : List Char} {ls : List (List Char)}
      (whole : '\n' ∉ line) (more : HasLines rest ls) :
      HasLines (line ++ '\r' :: '\n' :: rest) (line :: ls)

/-- Characters or bytes are gone through from one place where `feed` stands to the
next. -/
@[elab_as_elim]
theorem feedInduction {α : Type} (feed : α) {motive : List α → Prop}
    (whole : ∀ line, feed ∉ line → motive line)
    (ended : ∀ line rest, feed ∉ line → motive rest →
      motive (line ++ feed :: rest))
    (cs : List α) : motive cs := by
  induction h : cs.length using Nat.strongRecOn generalizing cs with
  | _ n ih =>
  by_cases mem : feed ∈ cs
  · obtain ⟨line, rest, rfl, first⟩ := List.eq_append_cons_of_mem mem
    have shorter : rest.length < n := by
      rw [List.length_append, List.length_cons] at h
      omega
    exact ended line rest first (ih rest.length shorter rest rfl)
  · exact whole cs mem

/-- A text without a line feed is one line, whatever carriage returns it has. -/
theorem lines_of_whole {line : List Char} (some : line ≠ [])
    (whole : '\n' ∉ line) : lines line = [line] := by
  induction line with
  | nil => exact absurd rfl some
  | cons c rest ih =>
      rw [List.mem_cons, not_or] at whole
      have next : rest.head? ≠ Option.some '\n' := by
        intro feed
        exact whole.2 (List.mem_of_mem_head? feed)
      rw [lines_cons_of_ne (Ne.symm whole.1) (fun _ => next)]
      cases rest with
      | nil => rfl
      | cons d rest => rw [ih (List.cons_ne_nil d rest) whole.2]

theorem withoutReturn_append_return (line : List Char) :
    withoutReturn (line ++ ['\r']) = line := by
  unfold withoutReturn
  rw [if_pos List.getLast?_concat, List.dropLast_concat]

/-- Every text is made up of its lines. -/
theorem hasLines_lines (cs : List Char) : HasLines cs (lines cs) := by
  induction cs using feedInduction '\n' with
  | whole line whole =>
      by_cases empty : line = []
      · rw [empty]
        exact .nothing
      · rw [lines_of_whole empty whole]
        exact .last empty whole
  | ended line rest whole more =>
      rw [lines_append_newline whole]
      by_cases last : line.getLast? = some '\r'
      · obtain ⟨front, rfl⟩ := List.getLast?_eq_some_iff.mp last
        rw [withoutReturn_append_return, List.append_assoc]
        apply HasLines.returnFeed _ more
        intro inside
        exact whole (List.mem_append_left _ inside)
      · rw [withoutReturn, if_neg last]
        exact .feed whole last more

/-- The lines that are cut out of a text are its lines, and it has no others. -/
theorem hasLines_iff {cs : List Char} {ls : List (List Char)} :
    HasLines cs ls ↔ lines cs = ls := by
  constructor
  · intro h
    induction h with
    | nothing => rfl
    | last some whole => exact lines_of_whole some whole
    | feed whole plain more ih =>
        rw [lines_append_newline whole, withoutReturn, if_neg plain, ih]
    | @returnFeed line rest ls whole more ih =>
        have unbroken : '\n' ∉ line ++ ['\r'] := by simp [whole]
        have ended := lines_append_newline unbroken rest
        rw [List.append_assoc, withoutReturn_append_return, ih] at ended
        exact ended
  · rintro rfl
    exact hasLines_lines cs

/-- Behind a line feed a new line starts. -/
theorem lines_append_of_ended {front : List Char}
    (ended : front = [] ∨ front.getLast? = some '\n') (rest : List Char) :
    lines (front ++ rest) = lines front ++ lines rest := by
  induction front using feedInduction '\n' with
  | whole line whole =>
      rcases ended with rfl | last
      · rfl
      · exact absurd (List.mem_of_getLast? last) whole
  | ended line more whole ih =>
      have moreEnded : more = [] ∨ more.getLast? = some '\n' := by
        rcases more with _ | ⟨c, more⟩
        · exact Or.inl rfl
        · rcases ended with empty | last
          · exact absurd empty (by simp)
          · right
            rwa [List.getLast?_append_cons, List.getLast?_cons_cons] at last
      rw [List.append_assoc, List.cons_append, lines_append_newline whole,
        ih moreEnded, lines_append_newline whole, List.cons_append]

end IssuerAudit.Text
