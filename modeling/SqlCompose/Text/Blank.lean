/-!
# White space

The characters with the Unicode property `White_Space`, and trimming by them. Zero-width characters
such as U+200B and U+FEFF do not have the property and stay.
-/
namespace SqlCompose.Text

/-- The property `White_Space`. -/
def isBlank (c : Char) : Bool :=
  let n := c.toNat
  (0x09 ≤ n && n ≤ 0x0D) || n == 0x20 || n == 0x85 || n == 0xA0 || n == 0x1680
    || (0x2000 ≤ n && n ≤ 0x200A) || n == 0x2028 || n == 0x2029 || n == 0x202F
    || n == 0x205F || n == 0x3000

/-- Drops the leading blanks. -/
def dropBlank (cs : List Char) : List Char := cs.dropWhile isBlank

/-- Drops the trailing blanks. -/
def dropBlankEnd (cs : List Char) : List Char := (dropBlank cs.reverse).reverse

/-- Drops the blanks on both sides. -/
def trimBlank (cs : List Char) : List Char := dropBlankEnd (dropBlank cs)

def trimEnd (s : String) : String := String.ofList (dropBlankEnd s.toList)

def trim (s : String) : String := String.ofList (trimBlank s.toList)

@[simp] theorem trim_empty : trim "" = "" := by decide

@[simp] theorem trimEnd_empty : trimEnd "" = "" := by decide

end SqlCompose.Text
