import SqlCompose.Json.Basic
import SqlCompose.Binary64.Text
import SqlCompose.Text.Digits
import SqlCompose.Text.Split

/-!
# Compact JSON text

No blanks, members in key order. Strings escape the quote, the backslash and the controls below
U+0020, and nothing else.
-/
namespace SqlCompose.Json

/-- Floats keep a fraction and are written positionally from `1e-5` up to below `1e16`. -/
def floatLayout : Binary64.Layout := ⟨.even, true, some (-5, 15)⟩

/-- One character of a string. -/
def escapeChar (c : Char) : List Char :=
  let n := c.toNat
  if c = '"' then ['\\', '"']
  else if c = '\\' then ['\\', '\\']
  else if n = 0x08 then ['\\', 'b']
  else if n = 0x09 then ['\\', 't']
  else if n = 0x0A then ['\\', 'n']
  else if n = 0x0C then ['\\', 'f']
  else if n = 0x0D then ['\\', 'r']
  else if n < 0x20 then '\\' :: 'u' :: Text.fixedDigits 16 n 4
  else [c]

def stringText (s : String) : String :=
  String.ofList ('"' :: (s.toList.flatMap escapeChar ++ ['"']))

mutual
def toText : Json → String
  | .null => "null"
  | .bool b => if b then "true" else "false"
  | .int n => toString n
  | .float x => x.text floatLayout
  | .string s => stringText s
  | .array items => "[" ++ Text.joinWith "," (itemTexts items) ++ "]"
  | .object members => "\x7b" ++ Text.joinWith "," (memberTexts members) ++ "\x7d"

def itemTexts : List Json → List String
  | [] => []
  | item :: items => toText item :: itemTexts items

def memberTexts : List (String × Json) → List String
  | [] => []
  | (key, value) :: members => (stringText key ++ ":" ++ toText value) :: memberTexts members
end

end SqlCompose.Json
