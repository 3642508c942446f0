import SqlCompose.Json.Fields

/-!
# Reading fields back

A form `write` is read back by `read?` if every written value is read as itself. Lists of such
values are read back as lists, and a field that may be null as long as no value is written as null.
A field is found by its key, whatever the order of the fields.
-/
namespace SqlCompose.Json

variable {α : Type} {write : α → Json} {read? : Json → Option α}

/-- Everything written is read as what it was written for. -/
def ReadsBack (write : α → Json) (read? : Json → Option α) : Prop :=
  ∀ a, read? (write a) = some a

/-- Nothing is written as null. -/
def NeverNull (write : α → Json) : Prop := ∀ a, write a ≠ .null

theorem allOf?_map (back : ReadsBack write read?) (items : List α) :
    allOf? read? (items.map write) = some items := by
  induction items with
  | nil => rfl
  | cons item items ih => simp [allOf?, back item, ih]

theorem ReadsBack.list (back : ReadsBack write read?) :
    ReadsBack (fun items => .array (items.map write)) (list? read?) :=
  allOf?_map back

theorem list_ne_null : NeverNull fun items : List α => .array (items.map write) := fun _ => nofun

/-! ## Numbers, words and texts -/

theorem intIn?_eq_some {low high n : Int} (above : low ≤ n) (below : n < high) :
    intIn? low high (.int n) = some n :=
  if_pos ⟨above, below⟩

theorem int64_readsBack : ReadsBack (fun n : Int64 => .int n.toInt) int64? := by
  intro n
  have above : -0x8000000000000000 ≤ n.toInt := n.le_toInt
  have below : n.toInt < 0x8000000000000000 := n.toInt_lt
  rw [int64?, intIn?_eq_some above below, Option.map_some, Int64.ofInt_toInt]

theorem uint64_readsBack : ReadsBack (fun n : UInt64 => .int n.toNat) uint64? := by
  intro n
  have below := n.toNat_lt
  rw [uint64?, intIn?_eq_some (by omega) (by omega), Option.map_some, Int.toNat_natCast,
    UInt64.ofNat_toNat]

theorem uint64_ne_null : NeverNull fun n : UInt64 => .int n.toNat := fun _ => nofun

theorem uint32_readsBack : ReadsBack ofUInt32 uint32? := by
  intro n
  have below := n.toNat_lt
  rw [ofUInt32, uint32?, intIn?_eq_some (by omega) (by omega), Option.map_some, Int.toNat_natCast,
    UInt32.ofNat_toNat]

theorem uint32_ne_null : NeverNull ofUInt32 := fun _ => nofun

theorem uint8_readsBack : ReadsBack (fun n : UInt8 => .int n.toNat) uint8? := by
  intro n
  have below := n.toNat_lt
  rw [uint8?, intIn?_eq_some (by omega) (by omega), Option.map_some, Int.toNat_natCast,
    UInt8.ofNat_toNat]

theorem string_readsBack : ReadsBack .string string? := fun _ => rfl

theorem string_ne_null : NeverNull .string := fun _ => nofun

theorem bool_readsBack : ReadsBack .bool bool? := fun _ => rfl

theorem strings_readsBack : ReadsBack ofStrings (list? string?) := string_readsBack.list

/-! ## Fields -/

/-- The keys of an object. -/
def keys : Json → List String
  | .object fields => fields.map Prod.fst
  | _ => []

/-- One field is read, and then the others. -/
theorem bind_read {β γ : Type} {field : Option β} {b : β} {others : β → Option γ} {c : γ}
    (read : field = some b) (rest : others b = some c) : (field >>= others) = some c := by
  rw [read]
  exact rest

namespace Members

variable {members : Members} {key : String}

theorem required?_of_lookup {a : α} (back : ReadsBack write read?)
    (found : List.lookup key members = some (write a)) : required? members key read? = some a := by
  simp [required?, found, back a]

theorem defaulted?_of_lookup {a : α} (back : ReadsBack write read?)
    (found : List.lookup key members = some (write a)) (value : α) :
    defaulted? members key read? value = some a := by
  simp [defaulted?, found, back a]

theorem optional?_of_lookup {o : Option α} (back : ReadsBack write read?)
    (full : NeverNull write) (found : List.lookup key members = some (ofOption write o)) :
    optional? members key read? = some o := by
  rw [optional?, found]
  cases o with
  | none => rfl
  | some a =>
    rw [ofOption]
    split
    · contradiction
    · rename_i null
      exact absurd (Option.some.inj null) (full a)
    · rename_i j written
      rw [← Option.some.inj written, back a]
      rfl

/-- The first fields do not have the key. -/
theorem lookup_append {fields rest : Members} (other : ∀ m ∈ fields, m.1 ≠ key) :
    List.lookup key (fields ++ rest) = List.lookup key rest := by
  induction fields with
  | nil => rfl
  | cons field fields ih =>
    have here : (key == field.1) = false := by simpa using (other field (by simp)).symm
    rw [List.cons_append, List.lookup_cons, here]
    exact ih fun m member => other m (by simp [member])

end Members
end SqlCompose.Json
