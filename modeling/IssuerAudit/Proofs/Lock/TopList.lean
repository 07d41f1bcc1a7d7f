import IssuerAudit.Command.Check
import IssuerAudit.Proofs.Lock.Offences
import IssuerAudit.Proofs.Lock.Reading
/-!
Texts whose top is not an object.  Such a text is refused, but for a list that is
empty or holds one item that could stand under `channels`:
`ofText_of_no_object`.
-/

namespace IssuerAudit.Lock

open Json (SpellsText Value depthLimit skipSpace)

theorem not_spellsText_list {cs : List Char} {items : List Value}
    (bracket : (skipSpace cs).head? ≠ some '[') : ¬ SpellsText cs (.list items) := by
  rintro ⟨rest, spelled, -⟩
  have room : depthLimit = depthLimit - 1 + 1 := rfl
  rw [room] at spelled
  obtain ⟨a, text, -⟩ := Json.spells_list_iff.mp spelled
  exact bracket (by rw [text]; rfl)

/-- A text without an object at the top is refused, but for the empty list, the
list of null, and the list of one object that would load under `channels`. -/
theorem ofText_of_no_object {text : String}
    (brace : (skipSpace text.toList).head? ≠ some '\x7b') :
    (∃ e, ofText text = .error e) ↔
      ¬ (SpellsText text.toList (.list []) ∨
        SpellsText text.toList (.list [.null]) ∨
        ∃ channels, SpellsText text.toList (.list [.object channels]) ∧
          WellShaped channels) := by
  have refused : (∃ e, ofText text = .error e) ↔ ¬ ∃ d, ofText text = .ok d := by
    cases ofText text <;> simp
  rw [refused, exists_ofText_ok_iff, readText_iff_standsFor brace]
  simp only [readText_iff_standsFor brace]
  refine not_congr ⟨?_, ?_⟩
  · rintro (⟨v, stands, spelled⟩ | ⟨channels, ⟨v, stands, spelled⟩, shaped⟩)
    · cases stands with
      | empty => exact Or.inl spelled
      | null => exact Or.inr (Or.inl spelled)
    · cases stands with
      | object => exact Or.inr (Or.inr ⟨channels, spelled, shaped⟩)
  · rintro (spelled | spelled | ⟨channels, spelled, shaped⟩)
    · exact Or.inl ⟨_, .empty, spelled⟩
    · exact Or.inl ⟨_, .null, spelled⟩
    · exact Or.inr ⟨channels, ⟨_, .object channels, spelled⟩, shaped⟩

theorem ofText_of_no_object_number :
    (skipSpace "7".toList).head? ≠ some '\x7b' ∧ ∃ e, ofText "7" = .error e := by
  have brace : (skipSpace "7".toList).head? ≠ some '\x7b' := by decide
  have bracket : (skipSpace "7".toList).head? ≠ some '[' := by decide
  refine ⟨brace, (ofText_of_no_object brace).mpr ?_⟩
  rintro (spelled | spelled | ⟨channels, spelled, -⟩)
  · exact not_spellsText_list bracket spelled
  · exact not_spellsText_list bracket spelled
  · exact not_spellsText_list bracket spelled

/-- Surroundings in which there is only a lock file, and that an empty list. -/
def emptyList : Command.Surroundings Unit where
  environment := ⟨some "/home/me", none, none⟩
  files path := if path = "lock.json" then .regular "[]".toUTF8.toList else .absent
  client := .unconnected
  disk := .endless
  execute _ _ _ := (.error .notFound, ())
  words _ := ""
  sink := .endless

/-- The empty list is taken for a document without channels, and all is well with
that. -/
theorem ofText_empty_list : SpellsText "[]".toList (.list []) ∧
    ofText "[]" = .ok ⟨[]⟩ ∧
    (Command.run emptyList () ["lock.json"]).code = Command.fine := by
  refine ⟨⟨[], .list (a := [']']) rfl (.noItems rfl), rfl⟩, rfl, ?_⟩
  decide +kernel

end IssuerAudit.Lock
