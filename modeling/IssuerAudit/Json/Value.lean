import IssuerAudit.Number.Shortest
import IssuerAudit.Text.Quoted
/-!
JSON values.  An object is a list of fields in the order in which their keys first
occur; reading never produces two fields with one key.
-/

namespace IssuerAudit.Json

/-- A JSON value.  A number is whole if it is written without point and power and fits
into 64 bits, and else a binary64 number with its sign. -/
inductive Value where
  | null
  | bool (b : Bool)
  | whole (n : Int)
  | float (negative : Bool) (x : Number.Binary64)
  | string (s : String)
  | list (items : List Value)
  | object (fields : List (String × Value))
  deriving Repr

/-- Puts a field into an object: a new key goes to the end, and a key that is already
there keeps its place and takes the new value. -/
def putField {α : Type} (key : String) (value : α) : List (String × α) → List (String × α)
  | [] => [(key, value)]
  | (k, v) :: rest =>
      if k = key then (k, value) :: rest else (k, v) :: putField key value rest

def field? {α : Type} (key : String) (fields : List (String × α)) : Option α :=
  fields.findSome? fun f => if f.1 = key then some f.2 else none

/-- What kind of value was met where another was needed, in words. -/
inductive Kind where
  | null
  | bool (b : Bool)
  | whole (n : Int)
  | float (negative : Bool) (x : Number.Binary64)
  | string (s : String)
  | list
  | object
  deriving DecidableEq, Repr

def Value.kind : Value → Kind
  | .null => .null
  | .bool b => .bool b
  | .whole n => .whole n
  | .float negative x => .float negative x
  | .string s => .string s
  | .list _ => .list
  | .object _ => .object

/-- The words for a kind of value.  Scalars are shown with their value. -/
def Kind.text : Kind → String
  | .null => "null"
  | .bool true => "boolean `true`"
  | .bool false => "boolean `false`"
  | .whole n => "integer `" ++ toString n ++ "`"
  | .float negative x =>
      "floating point `" ++ String.ofList (Number.floatText negative x) ++ "`"
  | .string s => "string " ++ Text.Quoted.encode s
  | .list => "sequence"
  | .object => "map"

end IssuerAudit.Json
