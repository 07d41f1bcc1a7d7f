import IssuerAudit.Toml.Scan
/-!
TOML values and the rules by which keys and headers put them into tables.  What has been
defined once cannot be defined again, and which tables can still be added to depends on
how they came to be.
-/

namespace IssuerAudit.Toml

inductive Origin where
  | header
  /-- By a header that names a table inside it. -/
  | passing
  | dotted
  deriving DecidableEq, Repr

inductive Value where
  | text (s : String)
  | whole (n : Int)
  | fractional
  | boolean (b : Bool)
  /-- A date, a time or both. -/
  | moment
  | array (items : List Value)
  /-- A table in braces, to which nothing can be added. -/
  | inline (fields : List (String × Value))
  | table (origin : Origin) (fields : List (String × Value))
  /-- A list of tables, each with a header of its own. -/
  | tables (elements : List (List (String × Value)))

/-- The fields of a table in the order in which they were defined. -/
abbrev Fields : Type := List (String × Value)

def Fields.get? (fields : Fields) (key : String) : Option Value :=
  fields.lookup key

/-- Gives a key a value; a key that is there keeps its place. -/
def Fields.set (key : String) (value : Value) : Fields → Fields
  | [] => [(key, value)]
  | (k, v) :: rest =>
      if k = key then (k, value) :: rest else (k, v) :: Fields.set key value rest

def splitLast? {α : Type} : List α → Option (List α × α)
  | [] => none
  | [x] => some ([], x)
  | x :: rest => (splitLast? rest).map fun (init, last) => (x :: init, last)

/-- Defines a key with dots.  The tables on the way come to be or were made by such keys
as well; one made in passing by a header, or the last of a list of tables, can be gone
through but not added to. -/
def Fields.define (path : List String) (last : String) (value : Value) (fields : Fields) :
    Option Fields :=
  match path with
  | [] =>
      match fields.get? last with
      | some _ => none
      | none => some (fields ++ [(last, value)])
  | k :: path =>
      match fields.get? k with
      | none =>
          (Fields.define path last value []).map fun inner =>
            fields.set k (.table .dotted inner)
      | some (.table .dotted inner) =>
          (Fields.define path last value inner).map fun inner =>
            fields.set k (.table .dotted inner)
      | some (.table .passing inner) =>
          if path.isEmpty then none
          else
            (Fields.define path last value inner).map fun inner =>
              fields.set k (.table .passing inner)
      | some (.tables elements) =>
          if path.isEmpty then none
          else
            match splitLast? elements with
            | none => none
            | some (before, element) =>
                (Fields.define path last value element).map fun element =>
                  fields.set k (.tables (before ++ [element]))
      | some _ => none

/-- Changes the table at the end of a path of a header.  Tables that are not there come
to be in passing. -/
def Fields.within (path : List String) (change : Fields → Option Fields)
    (fields : Fields) : Option Fields :=
  match path with
  | [] => change fields
  | k :: path =>
      match fields.get? k with
      | none =>
          (Fields.within path change []).map fun inner =>
            fields.set k (.table .passing inner)
      | some (.table origin inner) =>
          (Fields.within path change inner).map fun inner =>
            fields.set k (.table origin inner)
      | some (.tables elements) =>
          match splitLast? elements with
          | none => none
          | some (before, element) =>
              (Fields.within path change element).map fun element =>
                fields.set k (.tables (before ++ [element]))
      | some _ => none

structure Pair where
  key : Key
  value : Value

def Fields.defineAll (fields : Fields) (pairs : List Pair) : Option Fields :=
  pairs.foldlM
    (fun fields pair => fields.define pair.key.path pair.key.last pair.value) fields

/-- A header: the key of a table, and whether the table is one of a list. -/
structure Heading where
  element : Bool
  key : Key
  deriving DecidableEq, Repr

structure Section where
  heading : Heading
  pairs : List Pair

/-- Adds a section.  A table can be opened by a header if it is new or was only passed
before. -/
def Fields.addSection (fields : Fields) (s : Section) : Option Fields :=
  let last := s.heading.key.last
  fields.within s.heading.key.path fun parent =>
    if s.heading.element then
      match parent.get? last with
      | none =>
          (Fields.defineAll [] s.pairs).map fun inner => parent.set last (.tables [inner])
      | some (.tables elements) =>
          (Fields.defineAll [] s.pairs).map fun inner =>
            parent.set last (.tables (elements ++ [inner]))
      | some _ => none
    else
      match parent.get? last with
      | none =>
          (Fields.defineAll [] s.pairs).map fun inner =>
            parent.set last (.table .header inner)
      | some (.table .passing inner) =>
          (Fields.defineAll inner s.pairs).map fun inner =>
            parent.set last (.table .header inner)
      | some _ => none

end IssuerAudit.Toml
