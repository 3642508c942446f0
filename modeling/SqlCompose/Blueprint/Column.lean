import SqlCompose.Name

/-!
# Columns

A column of a table as data. Each type names what is stored; a dialect spells it in its own words.
-/
namespace SqlCompose

inductive ColumnType where
  | char (length : UInt32)
  | string (length : UInt32)
  | text
  | mediumText
  | longText
  | integer
  | bigInteger
  | mediumInteger
  | smallInteger
  | tinyInteger
  | float (total places : Option UInt32)
  | double (total places : Option UInt32)
  | decimal (total places : UInt32)
  | bool
  | enumeration (allowed : List String)
  | json
  | jsonb
  | date
  | dateTime (precision : Option UInt32)
  | dateTimeTz (precision : Option UInt32)
  | time (precision : Option UInt32)
  | timeTz (precision : Option UInt32)
  | timestamp (precision : Option UInt32)
  | timestampTz (precision : Option UInt32)
  | year
  | binary
  | uuid
  | ipAddress
  | macAddress
  deriving DecidableEq, Repr

namespace ColumnType

/-- The types that can count up by themselves. -/
def isInteger : ColumnType → Bool
  | .integer | .bigInteger | .mediumInteger | .smallInteger | .tinyInteger => true
  | _ => false

def isTimestamp : ColumnType → Bool
  | .timestamp _ | .timestampTz _ => true
  | _ => false

def isNumeric : ColumnType → Bool
  | .float _ _ | .double _ _ | .decimal _ _ => true
  | type => type.isInteger

end ColumnType

structure Column where
  name : String
  type : ColumnType
  nullable : Bool := false
  default : Option Operand := none
  autoIncrement : Bool := false
  unsigned : Bool := false
  charset : Option String := none
  collation : Option String := none
  comment : Option String := none
  /-- Stands after this column. -/
  after : Option String := none
  /-- Stands before all columns. -/
  first : Bool := false
  /-- A timestamp that defaults to the current time. -/
  useCurrent : Bool := false
  primary : Bool := false
  unique : Bool := false
  index : Bool := false

end SqlCompose
