import IssuerAudit.Report
import IssuerAudit.Text.Pieces
/-!
The outline of a report: its channels, and for each component whether it got the
favourable verdict.  An outline can be taken from a report, and it can be read back from
the text of one, line by line.
-/

namespace IssuerAudit.Report

/-- What a line of a report is, told by its first characters. -/
inductive LineKind where
  | channel (name : List Char)
  | component (fine : Bool)
  | blank
  | closing (text : List Char)
  deriving DecidableEq, Repr

/-- The end of the lines of components with the favourable verdict. -/
def fineEnd : List Char := " status=OK".toList

def kindOf (line : List Char) : LineKind :=
  match line with
  | [] => .blank
  | '[' :: name => .channel name.dropLast
  | ' ' :: ' ' :: component => .component (fineEnd.isSuffixOf component)
  | text => .closing text

structure ChannelOutline where
  name : List Char
  /-- For each component, whether it got the favourable verdict. -/
  fine : List Bool
  deriving DecidableEq, Repr

structure Outline where
  channels : List ChannelOutline
  summary : List Char
  deriving DecidableEq, Repr

def outline (r : Report) : Outline :=
  ⟨r.channels.map fun c => ⟨c.name.toList, c.components.map (·.outcome.isOk)⟩,
    r.summary.toList⟩

def Outline.mismatches (o : Outline) : Nat :=
  (o.channels.flatMap (·.fine)).countP fun fine => !fine

/-- Reads the lines of components up to the next line of another kind. -/
def readFine : List LineKind → List Bool × List LineKind
  | .component fine :: rest =>
      let (more, rest) := readFine rest
      (fine :: more, rest)
  | rest => ([], rest)

theorem readFine_length (lines : List LineKind) :
    (readFine lines).2.length ≤ lines.length := by
  induction lines with
  | nil => exact Nat.le_refl 0
  | cons line rest ih =>
      cases line with
      | component fine => exact Nat.le_succ_of_le ih
      | channel name => exact Nat.le_refl _
      | blank => exact Nat.le_refl _
      | closing text => exact Nat.le_refl _

/-- Reads an outline from lines: channels with their components, a blank line, the
closing line, and the nothing behind its end. -/
def readOutline? : List LineKind → Option Outline
  | .channel name :: rest =>
      (readOutline? (readFine rest).2).map fun o =>
        { o with channels := ⟨name, (readFine rest).1⟩ :: o.channels }
  | [.blank, .closing text, .blank] => some ⟨[], text⟩
  | _ => none
termination_by lines => lines.length
decreasing_by exact Nat.lt_succ_of_le (readFine_length rest)

/-- The outline that the text of a report shows. -/
def outlineOfText? (text : String) : Option Outline :=
  readOutline? ((Text.pieces '\n' text.toList).map kindOf)

end IssuerAudit.Report
