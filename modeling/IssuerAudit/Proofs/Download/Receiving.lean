import Mathlib.Data.List.Basic
import IssuerAudit.Download
/-!
What a disk makes of a transfer.  Either it takes all pieces, and then the file holds
them all and the transfer ends as the client says (`receive_of_taken`); or it refuses
one, and then nothing happens after that piece and the refusal is what is remembered
(`receive_of_refused`).
-/

namespace IssuerAudit

/-- Holds of the events that leave a temporary file where it is. -/
def Event.Stays : Event → Prop
  | .requested _ | .refused | .filled _ | .inspected => True
  | .created | .removed => False

namespace TempFiles

theorem since_append (files : List (List UInt8)) (events more : List Event) :
    since files (events ++ more) = since (since files events) more :=
  List.foldl_append

theorem since_nil (files : List (List UInt8)) : since files [] = files :=
  rfl

theorem since_cons (files : List (List UInt8)) (e : Event) (events : List Event) :
    since files (e :: events) = since (after files e) events :=
  rfl

end TempFiles

namespace Transfer

variable {σ : Type} {disk : Disk}

/-- What a transfer does outside if all of its pieces are taken. -/
def events : Transfer σ → List Event
  | .ends _ => []
  | .asks address rest => .requested address :: rest.events
  | .hands piece _ rest => .filled piece :: rest.events

theorem events_stay (t : Transfer σ) : ∀ e ∈ t.events, e.Stays := by
  induction t with
  | ends finish => exact List.forall_mem_nil _
  | asks address rest ih => exact List.forall_mem_cons.mpr ⟨trivial, ih⟩
  | hands piece refused rest ih => exact List.forall_mem_cons.mpr ⟨trivial, ih⟩

theorem filterMap_events (t : Transfer σ) :
    t.events.filterMap Event.asked? = t.requests := by
  induction t with
  | ends finish => rfl
  | asks address rest ih => exact congrArg (address :: ·) ih
  | hands piece refused rest ih => exact ih

theorem inspected_not_mem_events (t : Transfer σ) : Event.inspected ∉ t.events := by
  induction t with
  | ends finish => exact List.not_mem_nil
  | asks address rest ih => simpa [events] using ih
  | hands piece refused rest ih => simpa [events] using ih

/-- The latest file takes the pieces behind what it holds. -/
theorem since_events (t : Transfer σ) (latest : List UInt8)
    (files : List (List UInt8)) :
    TempFiles.since (latest :: files) t.events =
      (latest ++ t.pieces.flatten) :: files := by
  induction t generalizing latest with
  | ends finish => simp [events, pieces, TempFiles.since_nil]
  | asks address rest ih => exact ih latest
  | hands piece refused rest ih =>
      have taken : TempFiles.after (latest :: files) (.filled piece) =
          (latest ++ piece) :: files := rfl
      rw [events, TempFiles.since_cons, taken, ih, pieces, List.flatten_cons,
        List.append_assoc]

/-- Holds if a disk takes all pieces of a transfer that begins after some events. -/
inductive Taken (disk : Disk) : List Event → Transfer σ → Prop
  | ends {events : List Event} {finish : Finish σ} : Taken disk events (.ends finish)
  | asks {events : List Event} {address : String} {rest : Transfer σ}
      (h : Taken disk (events ++ [.requested address]) rest) :
      Taken disk events (.asks address rest)
  | hands {events : List Event} {piece : List UInt8} {refused : Finish σ}
      {rest : Transfer σ} (write : disk.write events piece = none)
      (h : Taken disk (events ++ [.filled piece]) rest) :
      Taken disk events (.hands piece refused rest)

/-- Holds of the error with which a disk refuses a piece of a transfer that begins after
some events, where it takes the pieces before. -/
inductive Refused (disk : Disk) (e : FileError) : List Event → Transfer σ → Prop
  | here {events : List Event} {piece : List UInt8} {refused : Finish σ}
      {rest : Transfer σ} {taken : Nat}
      (write : disk.write events piece = some (taken, e)) :
      Refused disk e events (.hands piece refused rest)
  | asks {events : List Event} {address : String} {rest : Transfer σ}
      (h : Refused disk e (events ++ [.requested address]) rest) :
      Refused disk e events (.asks address rest)
  | hands {events : List Event} {piece : List UInt8} {refused : Finish σ}
      {rest : Transfer σ} (write : disk.write events piece = none)
      (h : Refused disk e (events ++ [.filled piece]) rest) :
      Refused disk e events (.hands piece refused rest)

theorem taken_or_refused (disk : Disk) (t : Transfer σ) (events : List Event) :
    t.Taken disk events ∨ ∃ e, t.Refused disk e events := by
  induction t generalizing events with
  | ends finish => exact .inl .ends
  | asks address rest ih =>
      obtain taken | ⟨e, refused⟩ := ih (events ++ [.requested address])
      · exact .inl (.asks taken)
      · exact .inr ⟨e, .asks refused⟩
  | hands piece finish rest ih =>
      cases write : disk.write events piece with
      | some failure => exact .inr ⟨failure.2, .here write⟩
      | none =>
          obtain taken | ⟨e, refused⟩ := ih (events ++ [.filled piece])
          · exact .inl (.hands write taken)
          · exact .inr ⟨e, .hands write refused⟩

theorem taken_of_writable (writable : disk.Writable) (t : Transfer σ)
    (events : List Event) : t.Taken disk events := by
  induction t generalizing events with
  | ends finish => exact .ends
  | asks address rest ih => exact .asks (ih _)
  | hands piece refused rest ih => exact .hands (writable.write _ _) (ih _)

theorem Refused.not_of_writable {e : FileError} {events : List Event} {t : Transfer σ}
    (h : t.Refused disk e events) (writable : disk.Writable) : False := by
  induction h with
  | here write => cases (writable.write _ _).symm.trans write
  | asks h ih => exact ih
  | hands write h ih => exact ih

end Transfer

namespace Download

variable {σ : Type} {disk : Disk} {events : List Event} {t : Transfer σ}

/-- A file that takes all pieces holds them one behind the other, and has counted their
bytes. -/
theorem receive_of_taken (h : t.Taken disk events) (f : Stored) :
    receive disk f events t =
      ⟨⟨f.content ++ t.pieces.flatten, f.size + t.pieces.flatten.length⟩, none,
        t.finish.answer, t.finish.outside, events ++ t.events⟩ := by
  induction h generalizing f with
  | ends => simp [receive, Transfer.pieces, Transfer.finish, Transfer.events]
  | asks h ih =>
      rw [receive, ih]
      simp [Transfer.pieces, Transfer.finish, Transfer.events]
  | hands write h ih =>
      rw [receive]
      simp only [write]
      rw [ih]
      simp [Stored.take, Transfer.pieces, Transfer.finish, Transfer.events,
        Nat.add_assoc]

/-- Up to a piece that is refused a transfer does what it would have done anyway. -/
theorem receive_of_refused {e : FileError} (h : t.Refused disk e events) (f : Stored) :
    ∃ made, (receive disk f events t).refusal = some e ∧
      (receive disk f events t).session.events = events ++ made ∧
      (∀ e ∈ made, e.Stays) ∧
      made.filterMap Event.asked? <+: t.requests ∧ Event.inspected ∉ made := by
  induction h generalizing f with
  | @here events piece refused rest taken write =>
      refine ⟨[.filled (piece.take taken)], ?_, ?_, ?_, List.nil_prefix, ?_⟩
      · simp only [receive, write]
      · simp only [receive, write]
      · exact List.forall_mem_singleton.mpr trivial
      · simp
  | @asks events address rest h ih =>
      obtain ⟨made, refusal, added, stays, asked, none⟩ := ih f
      refine ⟨.requested address :: made, refusal, ?_, ?_, ?_, ?_⟩
      · rw [receive, added, List.append_assoc]
        rfl
      · exact List.forall_mem_cons.mpr ⟨trivial, stays⟩
      · exact (List.prefix_cons_inj address).mpr asked
      · simpa using none
  | @hands events piece refused rest write h ih =>
      obtain ⟨made, refusal, added, stays, asked, none⟩ := ih (f.take piece)
      refine ⟨.filled piece :: made, ?_, ?_, ?_, asked, ?_⟩
      · simpa only [receive, write] using refusal
      · simp only [receive, write]
        rw [added, List.append_assoc]
        rfl
      · exact List.forall_mem_cons.mpr ⟨trivial, stays⟩
      · simpa using none

end Download

end IssuerAudit
