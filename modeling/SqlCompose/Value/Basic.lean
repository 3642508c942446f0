import SqlCompose.Calendar.Timestamp
import SqlCompose.Json.Writer
import SqlCompose.Uuid

/-!
# Bound values

The literals that a statement binds to its placeholders, their text, and two ways to tell them
apart: equality, in which the two zeros of a float are equal, and the fingerprint that a table of
values is keyed by, in which they differ. Floats are finite: NaN and the infinities, which no JSON
document can hold, are left out.
-/
namespace SqlCompose

inductive Value where
  | int (value : Int64)
  | uint (value : UInt64)
  | float (value : Binary64)
  | string (value : String)
  | bool (value : Bool)
  | json (value : Json)
  | uuid (value : Uuid)
  | bytes (value : List UInt8)
  | date (value : Date)
  | timestamp (value : Timestamp)
  | null

namespace Value

/-- Floats are written out in full, whole ones without a fraction. -/
def floatLayout : Binary64.Layout := ⟨.up, false, none⟩

/-- The text of a value; bytes and null have none. -/
def text? : Value → Option String
  | .int n => some (toString n.toInt)
  | .uint n => some (toString n.toNat)
  | .float x => some (x.text floatLayout)
  | .string s => some s
  | .bool b => some (if b then "true" else "false")
  | .json j => some j.toText
  | .uuid u => some u.toText
  | .bytes _ => none
  | .date d => some d.toText
  | .timestamp t => some t.toText
  | .null => none

/-- The text shown to people: bytes are counted. -/
def display : Value → String
  | .bytes content => "<" ++ toString content.length ++ " bytes>"
  | .null => "NULL"
  | v => v.text?.getD ""

def isNull : Value → Bool
  | .null => true
  | _ => false

/-- Equality, kind by kind; floats, also inside documents, are compared as numbers. -/
def eqv : Value → Value → Bool
  | .int a, .int b => a == b
  | .uint a, .uint b => a == b
  | .float a, .float b => a.numEq b
  | .string a, .string b => a == b
  | .bool a, .bool b => a == b
  | .json a, .json b => a.eqv b
  | .uuid a, .uuid b => a == b
  | .bytes a, .bytes b => a == b
  | .date a, .date b => a == b
  | .timestamp a, .timestamp b => a == b
  | .null, .null => true
  | _, _ => false

/-- What a hash table sees of a value. -/
inductive Fingerprint where
  | int (value : Int64)
  | uint (value : UInt64)
  | float (code : Binary64)
  | string (value : String)
  | bool (value : Bool)
  | json (text : String)
  | uuid (value : Uuid)
  | bytes (value : List UInt8)
  | date (value : Date)
  | timestamp (value : Timestamp)
  | null
  deriving DecidableEq

/-- Floats count by sign and code, documents by their text. -/
def fingerprint : Value → Fingerprint
  | .int n => .int n
  | .uint n => .uint n
  | .float x => .float x
  | .string s => .string s
  | .bool b => .bool b
  | .json j => .json j.toText
  | .uuid u => .uuid u
  | .bytes b => .bytes b
  | .date d => .date d
  | .timestamp t => .timestamp t
  | .null => .null

end Value
end SqlCompose
