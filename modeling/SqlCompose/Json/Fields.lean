import SqlCompose.Json.Basic

/-!
# Reading parts of JSON values

Readers for scalars of fixed ranges, for words and for the fields of an object. A field is
required, or has a default when it is missing, or is optional and may be missing or null. A word
may be written as an object, a little more freely beneath a tag than in the open.
-/
namespace SqlCompose.Json

variable {α : Type}

def string? : Json → Option String
  | .string s => some s
  | _ => none

def bool? : Json → Option Bool
  | .bool b => some b
  | _ => none

/-- A whole number from `low` up to below `high`. -/
def intIn? (low high : Int) : Json → Option Int
  | .int n => if low ≤ n ∧ n < high then some n else none
  | _ => none

def int64? (j : Json) : Option Int64 :=
  (j.intIn? (-0x8000000000000000) 0x8000000000000000).map Int64.ofInt

def uint64? (j : Json) : Option UInt64 :=
  (j.intIn? 0 0x10000000000000000).map fun n => UInt64.ofNat n.toNat

def uint32? (j : Json) : Option UInt32 :=
  (j.intIn? 0 0x100000000).map fun n => UInt32.ofNat n.toNat

def uint8? (j : Json) : Option UInt8 :=
  (j.intIn? 0 0x100).map fun n => UInt8.ofNat n.toNat

/-- A float; a whole number is rounded to one. -/
def float? : Json → Option Binary64
  | .float x => some x
  | .int n => Binary64.ofInt? n
  | _ => none

def members? : Json → Option (List (String × Json))
  | .object members => some members
  | _ => none

/-- Every item read. -/
def allOf? (read? : Json → Option α) : List Json → Option (List α)
  | [] => some []
  | item :: items => do return (← read? item) :: (← allOf? read? items)

def list? (read? : Json → Option α) : Json → Option (List α)
  | .array items => allOf? read? items
  | _ => none

/-- Where a value stands: in the open, or somewhere beneath the tag of a part. -/
inductive Place where
  | plain
  | tagged
  deriving DecidableEq, Repr

/-- What may stand under a word that is written as an object: null, and beneath a tag also the empty
object. -/
def isNothing (place : Place) : Json → Bool
  | .null => true
  | .object [] => place == .tagged
  | _ => false

/-- A word, also as an object that holds nothing under it. -/
def word? (place : Place) : Json → Option String
  | .string s => some s
  | .object [(s, content)] => if content.isNothing place then some s else none
  | _ => none

/-- A word with a meaning. -/
def oneOf? (meanings : List (String × α)) (place : Place) (j : Json) : Option α := do
  meanings.lookup (← j.word? place)

/-- A tag: one of the names, or the position of one. -/
def tag? (names : List String) : Json → Option String
  | .string s => if s ∈ names then some s else none
  | .int n => if 0 ≤ n then names[n.toNat]? else none
  | _ => none

abbrev Members := List (String × Json)

namespace Members

def required? (members : Members) (key : String) (read? : Json → Option α) : Option α := do
  read? (← List.lookup key members)

def defaulted? (members : Members) (key : String) (read? : Json → Option α) (value : α) :
    Option α :=
  match List.lookup key members with
  | none => some value
  | some j => read? j

def optional? (members : Members) (key : String) (read? : Json → Option α) : Option (Option α) :=
  match List.lookup key members with
  | none => some none
  | some .null => some none
  | some j => (read? j).map some

end Members

/-- Null for none. -/
def ofOption (write : α → Json) : Option α → Json
  | none => .null
  | some a => write a

def ofStrings (texts : List String) : Json := .array (texts.map .string)

def ofOptionString : Option String → Json := ofOption .string

def ofUInt32 (n : UInt32) : Json := .int n.toNat

def ofOptionUInt32 : Option UInt32 → Json := ofOption ofUInt32

end SqlCompose.Json
