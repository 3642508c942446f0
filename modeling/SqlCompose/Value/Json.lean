import SqlCompose.Json.Fields
import SqlCompose.Value.Basic

/-!
# JSON form of values

A value is an object with the name of its kind as the only key; null is the word `Null`.
-/
namespace SqlCompose.Value

def toJson : Value → Json
  | .int n => .object [("Int", .int n.toInt)]
  | .uint n => .object [("Uint", .int n.toNat)]
  | .float x => .object [("Float", .float x)]
  | .string s => .object [("String", .string s)]
  | .bool b => .object [("Boolean", .bool b)]
  | .json j => .object [("Json", j)]
  | .uuid u => .object [("Uuid", .string u.toText)]
  | .bytes content => .object [("Bytes", .array (content.map fun b => .int b.toNat))]
  | .date d => .object [("Date", .string d.toText)]
  | .timestamp t => .object [("Timestamp", .string t.toZulu)]
  | .null => .string "Null"

/-- The content under the name of a kind. -/
def ofKind? (place : Json.Place) (kind : String) (content : Json) : Option Value :=
  match kind with
  | "Int" => content.int64?.map .int
  | "Uint" => content.uint64?.map .uint
  | "Float" => content.float?.map .float
  | "String" => content.string?.map .string
  | "Boolean" => content.bool?.map .bool
  | "Json" => some (.json content)
  | "Uuid" => do return .uuid (← Uuid.ofText? (← content.string?))
  | "Bytes" => (content.list? Json.uint8?).map .bytes
  | "Date" => do return .date (← Date.ofText? (← content.string?))
  | "Timestamp" => do return .timestamp (← Timestamp.ofText? (← content.string?))
  | "Null" => if content.isNothing place then some .null else none
  | _ => none

def ofJsonAt? (place : Json.Place) : Json → Option Value
  | .string "Null" => some .null
  | .object [(kind, content)] => ofKind? place kind content
  | _ => none

def ofJson? (j : Json) : Option Value := ofJsonAt? .plain j

end SqlCompose.Value
