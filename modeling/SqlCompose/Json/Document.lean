import SqlCompose.Json.Basic
import SqlCompose.Json.Token

/-!
# JSON documents

A document is a text as written: members in their order, with repeated keys, and scalars that may
have no value. It becomes a JSON value if every scalar in it has one; of a repeated key the last
member stays.
-/
namespace SqlCompose.Json

inductive Document where
  | null
  | bool (value : Bool)
  | number (value : Option Number)
  | string (value : Option String)
  | array (items : List Document)
  | object (members : List (Option String × Document))

/-- An unfinished array or object, its parts last first; `member` waits for the value of a key. -/
inductive Frame where
  | array (items : List Document)
  | object (members : List (Option String × Document))
  | member (members : List (Option String × Document)) (key : Option String)

/-- What may come next. -/
inductive Expected where
  | value
  | valueOrEnd
  | key
  | keyOrEnd
  | colon
  | separator

/-- Where the reader stands: inside the given frames, or past the whole document. -/
inductive Position where
  | inside (expected : Expected) (frames : List Frame)
  | past (document : Document)

/-- A finished value goes into the innermost frame. -/
def Position.place? (document : Document) : List Frame → Option Position
  | [] => some (.past document)
  | .array items :: frames => some (.inside .separator (.array (document :: items) :: frames))
  | .member members key :: frames =>
    some (.inside .separator (.object ((key, document) :: members) :: frames))
  | .object _ :: _ => none

/-- A token where a value starts. -/
def Position.value? (frames : List Frame) : Token → Option Position
  | .null => place? .null frames
  | .bool b => place? (.bool b) frames
  | .number n => place? (.number n) frames
  | .string s => place? (.string s) frames
  | .beginArray => some (.inside .valueOrEnd (.array [] :: frames))
  | .beginObject => some (.inside .keyOrEnd (.object [] :: frames))
  | _ => none

/-- A token where a key stands. -/
def Position.key? : List Frame → Token → Option Position
  | .object members :: frames, .string key => some (.inside .colon (.member members key :: frames))
  | _, _ => none

/-- A token after a value. -/
def Position.separate? : List Frame → Token → Option Position
  | .array items :: frames, .comma => some (.inside .value (.array items :: frames))
  | .array items :: frames, .endArray => place? (.array items.reverse) frames
  | .object members :: frames, .comma => some (.inside .key (.object members :: frames))
  | .object members :: frames, .endObject => place? (.object members.reverse) frames
  | _, _ => none

def Position.step? (token : Token) : Position → Option Position
  | .past _ => none
  | .inside .value frames => value? frames token
  | .inside .valueOrEnd frames =>
    match token with
    | .endArray => separate? frames token
    | _ => value? frames token
  | .inside .key frames => key? frames token
  | .inside .keyOrEnd frames =>
    match token with
    | .endObject => separate? frames token
    | _ => key? frames token
  | .inside .colon frames =>
    match token with
    | .colon => some (.inside .value frames)
    | _ => none
  | .inside .separator frames => separate? frames token

def Position.run? (position : Position) : List Token → Option Position
  | [] => some position
  | token :: tokens =>
    match position.step? token with
    | some position => position.run? tokens
    | none => none

/-- The one document that a text holds. -/
def Document.ofText? (s : String) : Option Document := do
  match ← (Position.inside .value []).run? (← tokens? s) with
  | .past document => some document
  | .inside _ _ => none

mutual
def ofDocument? : Document → Option Json
  | .null => some .null
  | .bool b => some (.bool b)
  | .number n => n.map fun
    | .int n => .int n
    | .float x => .float x
  | .string s => s.map .string
  | .array items => do return .array (← itemsOf? items)
  | .object members => do return .object (Keyed.ofList (← membersOf? members))

def itemsOf? : List Document → Option (List Json)
  | [] => some []
  | item :: items => do return (← ofDocument? item) :: (← itemsOf? items)

def membersOf? : List (Option String × Document) → Option (List (String × Json))
  | [] => some []
  | (key, value) :: members => do
    return (← key, ← ofDocument? value) :: (← membersOf? members)
end

/-- The value that a text holds. -/
def ofText? (s : String) : Option Json := do ofDocument? (← Document.ofText? s)

/-! ## What is read is in order -/

mutual
theorem ordered_ofDocument : ∀ {document : Document} {j : Json}, ofDocument? document = some j →
    j.Ordered
  | .null, _, read => by
    cases read
    exact .null
  | .bool b, _, read => by
    cases read
    exact .bool b
  | .number n, _, read => by
    obtain ⟨number, -, rfl⟩ := Option.map_eq_some_iff.mp read
    cases number with
    | int n => exact .int n
    | float x => exact .float x
  | .string s, _, read => by
    obtain ⟨text, -, rfl⟩ := Option.map_eq_some_iff.mp read
    exact .string text
  | .array items, _, read => by
    obtain ⟨values, inside, read⟩ := Option.bind_eq_some_iff.mp read
    cases read
    exact .array (ordered_itemsOf inside)
  | .object members, _, read => by
    obtain ⟨values, inside, read⟩ := Option.bind_eq_some_iff.mp read
    cases read
    exact .object (Keyed.sorted_ofList values) fun m member =>
      ordered_membersOf inside m (Keyed.mem_ofList member)

theorem ordered_itemsOf : ∀ {items : List Document} {values : List Json},
    itemsOf? items = some values → ∀ j ∈ values, j.Ordered
  | [], _, read => by
    cases read
    exact nofun
  | item :: items, _, read => by
    obtain ⟨first, here, read⟩ := Option.bind_eq_some_iff.mp read
    obtain ⟨others, later, read⟩ := Option.bind_eq_some_iff.mp read
    cases read
    exact List.forall_mem_cons.mpr ⟨ordered_ofDocument here, ordered_itemsOf later⟩

theorem ordered_membersOf : ∀ {members : List (Option String × Document)}
    {values : List (String × Json)}, membersOf? members = some values → ∀ m ∈ values, m.2.Ordered
  | [], _, read => by
    cases read
    exact nofun
  | (key, value) :: members, _, read => by
    obtain ⟨name, -, read⟩ := Option.bind_eq_some_iff.mp read
    obtain ⟨first, here, read⟩ := Option.bind_eq_some_iff.mp read
    obtain ⟨others, later, read⟩ := Option.bind_eq_some_iff.mp read
    cases read
    exact List.forall_mem_cons.mpr ⟨ordered_ofDocument here, ordered_membersOf later⟩
end

/-- The objects of a value that is read have their members in key order, one for each key. -/
theorem ordered_ofText {s : String} {j : Json} (read : ofText? s = some j) : j.Ordered := by
  obtain ⟨document, -, read⟩ := Option.bind_eq_some_iff.mp read
  exact ordered_ofDocument read

end SqlCompose.Json
