import SqlCompose.Text.Lowercase.Runs
import SqlCompose.Text.Lowercase.Context

/-!
# Lower-casing

The full lower-case mapping: one character each, but for the dotted capital I, which becomes two,
and the capital sigma, which has a form of its own at the end of a word.
-/
namespace SqlCompose.Text

/-- The lower-case form of a character outside any context. -/
def lowerChar (c : Char) : List Char :=
  let n := c.toNat
  if n < 0x80 then [c.toLower]
  else if n = 0x130 then ['i', Char.ofNat 0x307]
  else match lowerRuns.find? (·.covers n) with
    | some run => [Char.ofNat (n + run.distance).toNat]
    | none => [c]

/-- Whether the first character that is not ignorable is a cased one. -/
def startsCased (cs : List Char) : Bool :=
  match cs.dropWhile isIgnorable with
  | c :: _ => isCased c
  | [] => false

/-- The lower-case form of the rest of a text; `before` is the text before it, last character
first. A capital sigma after a cased character and before none is a final sigma. -/
def lowerAfter (before : List Char) : List Char → List Char
  | [] => []
  | c :: cs =>
    let lower :=
      if c.toNat = 0x3A3 then
        [Char.ofNat (if startsCased before && !startsCased cs then 0x3C2 else 0x3C3)]
      else lowerChar c
    lower ++ lowerAfter (c :: before) cs

def lowercase (s : String) : String := String.ofList (lowerAfter [] s.toList)

end SqlCompose.Text
