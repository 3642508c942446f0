import SqlCompose.Json.Number

/-!
# JSON tokens

A text is read character by character. A string whose escapes leave a surrogate alone, and a
number beyond the floats, are tokens without a value: whether that matters is up to the reader of
the document.
-/
namespace SqlCompose.Json

inductive Token where
  | beginArray
  | endArray
  | beginObject
  | endObject
  | comma
  | colon
  | null
  | bool (value : Bool)
  | number (value : Option Number)
  | string (value : Option String)

/-- A character of a string, or a 16-bit unit given by its number. -/
inductive Piece where
  | char (c : Char)
  | unit (n : Nat)

def isHighSurrogate (n : Nat) : Bool := 0xD800 ≤ n && n ≤ 0xDBFF

def isLowSurrogate (n : Nat) : Bool := 0xDC00 ≤ n && n ≤ 0xDFFF

/-- The characters of the pieces; a high surrogate joins the low one right after it. -/
def joinPieces? : List Piece → Option (List Char)
  | [] => some []
  | .char c :: rest => do return c :: (← joinPieces? rest)
  | .unit n :: .unit m :: rest =>
    if isHighSurrogate n && isLowSurrogate m then do
      return Char.ofNat (0x10000 + (n - 0xD800) * 0x400 + (m - 0xDC00)) :: (← joinPieces? rest)
    else if isHighSurrogate n || isLowSurrogate n then none
    else do return Char.ofNat n :: (← joinPieces? (.unit m :: rest))
  | .unit n :: rest =>
    if isHighSurrogate n || isLowSurrogate n then none
    else do return Char.ofNat n :: (← joinPieces? rest)

/-- What is being read; the parts read so far stand last first. -/
inductive Mode where
  | idle
  | bare (seen : List Char)
  | string (pieces : List Piece)
  | escape (pieces : List Piece)
  | hex (pieces : List Piece) (value : Nat) (left : Nat)

/-- The characters of numbers and words. -/
def isBare (c : Char) : Bool := c.isAlphanum || c == '+' || c == '-' || c == '.'

def bareToken? (cs : List Char) : Option Token :=
  if cs = ['n', 'u', 'l', 'l'] then some .null
  else if cs = ['t', 'r', 'u', 'e'] then some (.bool true)
  else if cs = ['f', 'a', 'l', 's', 'e'] then some (.bool false)
  else do return .number (← Numeral.ofChars? cs).number?

/-- The tokens and the mode after a character between tokens. -/
def start? (tokens : List Token) (c : Char) : Option (List Token × Mode) :=
  if c = ' ' ∨ c = '\t' ∨ c = '\n' ∨ c = '\r' then some (tokens, .idle)
  else if c = '[' then some (.beginArray :: tokens, .idle)
  else if c = ']' then some (.endArray :: tokens, .idle)
  else if c = '\x7b' then some (.beginObject :: tokens, .idle)
  else if c = '\x7d' then some (.endObject :: tokens, .idle)
  else if c = ',' then some (.comma :: tokens, .idle)
  else if c = ':' then some (.colon :: tokens, .idle)
  else if c = '"' then some (tokens, .string [])
  else if isBare c then some (tokens, .bare [c])
  else none

/-- The character that a one-letter escape stands for. -/
def escaped? (c : Char) : Option Char :=
  if c = '"' ∨ c = '\\' ∨ c = '/' then some c
  else if c = 'b' then some '\x08'
  else if c = 'f' then some '\x0c'
  else if c = 'n' then some '\n'
  else if c = 'r' then some '\r'
  else if c = 't' then some '\t'
  else none

/-- One character; the tokens stand last first. -/
def step? (tokens : List Token) (c : Char) : Mode → Option (List Token × Mode)
  | .idle => start? tokens c
  | .bare seen =>
    if isBare c then some (tokens, .bare (c :: seen))
    else do start? ((← bareToken? seen.reverse) :: tokens) c
  | .string pieces =>
    if c = '"' then
      some (.string ((joinPieces? pieces.reverse).map String.ofList) :: tokens, .idle)
    else if c = '\\' then some (tokens, .escape pieces)
    else if c.toNat < 0x20 then none
    else some (tokens, .string (.char c :: pieces))
  | .escape pieces =>
    if c = 'u' then some (tokens, .hex pieces 0 3)
    else do return (tokens, .string (.char (← escaped? c) :: pieces))
  | .hex pieces value left => do
    let value := 16 * value + (← Text.hexDigit? c)
    match left with
    | 0 => return (tokens, .string (.unit value :: pieces))
    | left + 1 => return (tokens, .hex pieces value left)

def tokensFrom? (tokens : List Token) (mode : Mode) : List Char → Option (List Token)
  | [] =>
    match mode with
    | .idle => some tokens.reverse
    | .bare seen => do return ((← bareToken? seen.reverse) :: tokens).reverse
    | _ => none
  | c :: cs =>
    match step? tokens c mode with
    | some (tokens, mode) => tokensFrom? tokens mode cs
    | none => none

/-- The tokens of a text. -/
def tokens? (s : String) : Option (List Token) := tokensFrom? [] .idle s.toList

end SqlCompose.Json
