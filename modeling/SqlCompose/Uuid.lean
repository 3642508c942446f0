import SqlCompose.Text.Digits

/-!
# Universally unique identifiers

128 bits, written as 32 lower-case hexadecimal digits in groups of 8, 4, 4, 4 and 12. They are
read in that form, without the hyphens, in braces, or after `urn:uuid:`, with all letters in either
case.
-/
namespace SqlCompose

structure Uuid where
  bits : BitVec 128
  deriving DecidableEq, Repr

namespace Uuid

/-- A list with a hyphen after its first `n` items. -/
def hyphenAfter (n : Nat) (rest : List Char → List Char) (cs : List Char) : List Char :=
  cs.take n ++ '-' :: rest (cs.drop n)

/-- The hyphens of the grouped form put in. -/
def group : List Char → List Char :=
  hyphenAfter 8 (hyphenAfter 4 (hyphenAfter 4 (hyphenAfter 4 id)))

/-- The digits between the hyphens of the grouped form. -/
def ungroup? (cs : List Char) : Option (List Char) :=
  let digits := cs.filter (· != '-')
  if digits.length = 32 ∧ group digits = cs then some digits else none

def ofDigits? (cs : List Char) : Option Uuid := do return ⟨BitVec.ofNat 128 (← Text.ofHex? 0 cs)⟩

def toText (u : Uuid) : String := String.ofList (group (Text.fixedDigits 16 u.bits.toNat 32))

/-- The name that may stand in front. -/
def scheme : List Char := "urn:uuid:".toList

/-- What stands inside the braces or after the scheme name. -/
def body (cs : List Char) : List Char :=
  match cs with
  | '\x7b' :: inner => if inner.getLast? = some '\x7d' then inner.dropLast else cs
  | _ =>
    if (cs.take scheme.length).map Char.toLower = scheme then cs.drop scheme.length else cs

def ofText? (s : String) : Option Uuid :=
  let cs := s.toList
  if cs.length = 32 then ofDigits? cs
  else do ofDigits? (← ungroup? (body cs))

end Uuid
end SqlCompose
