import SqlCompose.Value.Basic

/-!
# Equality and fingerprints

Equal values differ in nothing but the signs of zeros, as equality compares floats as numbers. Fingerprints
keep these signs, so two equal values have one fingerprint if the zeros in them have the same signs, and only
values without a zero share theirs with everything equal to them (`fingerprints_agree_iff`).
-/
namespace SqlCompose

namespace Binary64

theorem codeLimit_pos : 0 < codeLimit := by decide

/-- The zero of a sign. -/
def zero (negative : Bool) : Binary64 := ⟨negative, ⟨0, codeLimit_pos⟩⟩

/-- The sign of a zero; other numbers have none. -/
def zeroSigns (x : Binary64) : List Bool := if x.isZero then [x.negative] else []

/-- A zero with the other sign; any other number as it is. -/
def turned (x : Binary64) : Binary64 := if x.isZero then { x with negative := !x.negative } else x

variable {x y : Binary64}

/-- Two numbers that are equal are the same or both zeros. -/
theorem numEq_cases (same : x.numEq y = true) : x = y ∨ (x.isZero = true ∧ y.isZero = true) := by
  simpa [numEq] using same

theorem eq_of_zeros (left : x.isZero = true) (right : y.isZero = true) (sign : x.negative = y.negative) :
    x = y := by
  simp only [isZero, beq_iff_eq] at left right
  have code : x.code = y.code := Fin.ext (left.trans right.symm)
  cases x
  cases y
  simp_all

theorem isZero_turned (x : Binary64) : x.turned.isZero = x.isZero := by
  unfold turned
  split <;> simp [isZero]

theorem numEq_turned (x : Binary64) : x.numEq x.turned = true := by
  cases zero : x.isZero with
  | true => simp [numEq, isZero_turned, zero]
  | false => simp [numEq, turned, zero]

theorem zeroSigns_turned (x : Binary64) : x.turned.zeroSigns = x.zeroSigns.map (!·) := by
  unfold zeroSigns
  rw [isZero_turned]
  split
  · next zero => simp [turned, zero]
  · simp

/-- The texts of two zeros differ in their first character, or not at all. -/
theorem eq_of_zero_texts {layout : Layout} {rest rest' : List Char} (left : x.isZero = true)
    (right : y.isZero = true)
    (written : (x.text layout).toList ++ rest = (y.text layout).toList ++ rest') :
    x = y ∧ rest = rest' := by
  have same : x.negative = y.negative ∧ rest = rest' := by
    cases fraction : layout.keepFraction <;>
      cases negative : x.negative <;>
      cases negative' : y.negative <;>
      simp_all [text, magnitudeText]
  exact ⟨eq_of_zeros left right same.1, same.2⟩

end Binary64

namespace Json

/-! ## Documents written piece by piece -/

/-- A way to write documents, lists of items and lists of members. -/
structure Spelling (α : Type) where
  whole : Json → List α
  items : List Json → List α
  members : List (String × Json) → List α

/-- Parts are written one after the other between fixed marks, and the signs of zeros can be told from
what is written first. -/
structure Spelling.Parted {α : Type} (s : Spelling α) : Prop where
  zeros : ∀ {x y : Binary64} {rest rest' : List α}, x.isZero = true → y.isZero = true →
    s.whole (.float x) ++ rest = s.whole (.float y) ++ rest' → x = y ∧ rest = rest'
  array : ∃ opening closing, ∀ items, s.whole (.array items) = opening ++ (s.items items ++ closing)
  object : ∃ opening closing, ∀ members,
    s.whole (.object members) = opening ++ (s.members members ++ closing)
  item : ∀ item, s.items [item] = s.whole item
  nextItem : ∃ mark, ∀ item next items,
    s.items (item :: next :: items) = s.whole item ++ (mark ++ s.items (next :: items))
  member : ∀ key, ∃ label, (∀ value, s.members [(key, value)] = label ++ s.whole value) ∧
    ∃ mark, ∀ value next members,
      s.members ((key, value) :: next :: members) =
        label ++ (s.whole value ++ (mark ++ s.members (next :: members)))

namespace Spelling.Parted

variable {α : Type} {s : Spelling α}

-- Both documents are taken apart together: what follows a part is equal once the parts are.
mutual
theorem whole_cancel (parted : s.Parted) : ∀ {a b : Json} {rest rest' : List α}, a.eqv b = true →
    s.whole a ++ rest = s.whole b ++ rest' → a = b ∧ rest = rest'
  | .null, b, _, _, same, written => by
    cases b <;> simp_all [eqv]
  | .bool _, b, _, _, same, written => by
    cases b <;> simp_all [eqv]
  | .int _, b, _, _, same, written => by
    cases b <;> simp_all [eqv]
  | .string _, b, _, _, same, written => by
    cases b <;> simp_all [eqv]
  | .float x, .float y, _, _, same, written => by
    cases Binary64.numEq_cases same with
    | inl identical => simp_all
    | inr zeros =>
      have cancelled := parted.zeros zeros.1 zeros.2 written
      simp_all
  | .array items, .array items', _, _, same, written => by
    obtain ⟨opening, closing, array⟩ := parted.array
    simp only [array, List.append_assoc, List.append_cancel_left_eq] at written
    have cancelled := items_cancel parted same written
    simp_all
  | .object members, .object members', _, _, same, written => by
    obtain ⟨opening, closing, object⟩ := parted.object
    simp only [object, List.append_assoc, List.append_cancel_left_eq] at written
    have cancelled := members_cancel parted same written
    simp_all

theorem items_cancel (parted : s.Parted) : ∀ {as bs : List Json} {rest rest' : List α},
    eqvItems as bs = true → s.items as ++ rest = s.items bs ++ rest' → as = bs ∧ rest = rest'
  | [], [], _, _, _, written => by simpa using written
  | [a], [b], _, _, same, written => by
    simp only [eqvItems, Bool.and_true] at same
    rw [parted.item, parted.item] at written
    have cancelled := whole_cancel parted same written
    simp_all
  | a :: a' :: as, b :: b' :: bs, _, _, same, written => by
    rw [eqvItems, Bool.and_eq_true] at same
    obtain ⟨mark, more⟩ := parted.nextItem
    simp only [more, List.append_assoc] at written
    obtain ⟨head, behind⟩ := whole_cancel parted same.1 written
    have cancelled := items_cancel parted same.2 (List.append_cancel_left behind)
    simp_all
  | [_], _ :: _ :: _, _, _, same, _ => by simp [eqvItems] at same
  | _ :: _ :: _, [_], _, _, same, _ => by simp [eqvItems] at same

theorem members_cancel (parted : s.Parted) : ∀ {as bs : List (String × Json)} {rest rest' : List α},
    eqvMembers as bs = true → s.members as ++ rest = s.members bs ++ rest' → as = bs ∧ rest = rest'
  | [], [], _, _, _, written => by simpa using written
  | [(k, a)], [(l, b)], _, _, same, written => by
    simp only [eqvMembers, Bool.and_true, Bool.and_eq_true, beq_iff_eq] at same
    obtain ⟨label, one, -⟩ := parted.member k
    rw [← same.1, one, one, List.append_assoc, List.append_assoc] at written
    have cancelled := whole_cancel parted same.2 (List.append_cancel_left written)
    simp_all
  | (k, a) :: m :: as, (l, b) :: n :: bs, _, _, same, written => by
    simp only [eqvMembers.eq_2, Bool.and_eq_true, beq_iff_eq] at same
    obtain ⟨label, -, mark, more⟩ := parted.member k
    rw [← same.1.1] at written
    simp only [more, List.append_assoc] at written
    obtain ⟨head, behind⟩ := whole_cancel parted same.1.2 (List.append_cancel_left written)
    have cancelled := members_cancel parted same.2 (List.append_cancel_left behind)
    simp_all
  | [_], _ :: _ :: _, _, _, same, _ => by simp [eqvMembers] at same
  | _ :: _ :: _, [_], _, _, same, _ => by simp [eqvMembers] at same
end

/-- Equal documents that are written alike are the same. -/
theorem whole_eq_iff (parted : s.Parted) {a b : Json} (same : a.eqv b = true) :
    s.whole a = s.whole b ↔ a = b := by
  constructor
  · intro written
    have alone : s.whole a ++ [] = s.whole b ++ [] := by rw [written]
    exact (parted.whole_cancel same alone).1
  · exact congrArg s.whole

/-- A document of which nothing is written is equal to no other. -/
theorem eq_of_whole_nil (parted : s.Parted) {a b : Json} (same : a.eqv b = true) (none : s.whole a = []) :
    a = b := by
  have written : s.whole a ++ s.whole b = s.whole b ++ [] := by simp [none]
  exact (parted.whole_cancel same written).1

end Spelling.Parted

/-! ## Texts and signs of zeros -/

/-- The text of a document. -/
def texts : Spelling Char where
  whole a := a.toText.toList
  items as := (Text.joinWith "," (itemTexts as)).toList
  members as := (Text.joinWith "," (memberTexts as)).toList

theorem texts_parted : texts.Parted where
  zeros left right written := Binary64.eq_of_zero_texts left right (by simpa [texts, toText] using written)
  array := ⟨['['], [']'], fun items => by simp [texts, toText]⟩
  object := ⟨['\x7b'], ['\x7d'], fun members => by simp [texts, toText]⟩
  item item := by simp [texts, itemTexts]
  nextItem := ⟨[','], fun item next items => by simp [texts, itemTexts]⟩
  member key := by
    obtain ⟨label, labelled⟩ : ∃ label, label = (stringText key).toList ++ [':'] := ⟨_, rfl⟩
    refine ⟨label, fun value => ?_, [','], fun value next members => ?_⟩
    · simp [texts, memberTexts, labelled]
    · simp [texts, memberTexts, labelled]

mutual
/-- The signs of the zeros in a document, in their order. -/
def zeroSigns : Json → List Bool
  | .float x => x.zeroSigns
  | .array items => itemSigns items
  | .object members => memberSigns members
  | _ => []

def itemSigns : List Json → List Bool
  | [] => []
  | item :: items => zeroSigns item ++ itemSigns items

def memberSigns : List (String × Json) → List Bool
  | [] => []
  | (_, value) :: members => zeroSigns value ++ memberSigns members
end

theorem zeroSigns_parted : (⟨zeroSigns, itemSigns, memberSigns⟩ : Spelling Bool).Parted where
  zeros left right signs := by
    simp only [zeroSigns, Binary64.zeroSigns, left, right, if_true, List.singleton_append,
      List.cons.injEq] at signs
    exact ⟨Binary64.eq_of_zeros left right signs.1, signs.2⟩
  array := ⟨[], [], fun items => by simp [zeroSigns]⟩
  object := ⟨[], [], fun members => by simp [zeroSigns]⟩
  item item := by simp [itemSigns]
  nextItem := ⟨[], fun item next items => by simp [itemSigns]⟩
  member key := ⟨[], by simp [memberSigns], [], by simp [memberSigns]⟩

/-! ## All zeros turned -/

mutual
/-- The document with the other sign at every zero. -/
def turned : Json → Json
  | .float x => .float x.turned
  | .array items => .array (turnedItems items)
  | .object members => .object (turnedMembers members)
  | a => a

def turnedItems : List Json → List Json
  | [] => []
  | item :: items => turned item :: turnedItems items

def turnedMembers : List (String × Json) → List (String × Json)
  | [] => []
  | (key, value) :: members => (key, turned value) :: turnedMembers members
end

mutual
theorem eqv_turned : ∀ a : Json, a.eqv a.turned = true
  | .null | .bool _ | .int _ | .string _ => by simp [turned, eqv]
  | .float x => by simp [turned, eqv, x.numEq_turned]
  | .array items => by simp [turned, eqv, eqvItems_turned items]
  | .object members => by simp [turned, eqv, eqvMembers_turned members]

theorem eqvItems_turned : ∀ items, eqvItems items (turnedItems items) = true
  | [] => by simp [turnedItems, eqvItems]
  | item :: items => by simp [turnedItems, eqvItems, eqv_turned item, eqvItems_turned items]

theorem eqvMembers_turned : ∀ members, eqvMembers members (turnedMembers members) = true
  | [] => by simp [turnedMembers, eqvMembers]
  | (key, value) :: members => by
    simp [turnedMembers, eqvMembers, eqv_turned value, eqvMembers_turned members]
end

mutual
theorem zeroSigns_turned : ∀ a : Json, a.turned.zeroSigns = a.zeroSigns.map (!·)
  | .null | .bool _ | .int _ | .string _ => by simp [turned, zeroSigns]
  | .float x => by simp [turned, zeroSigns, x.zeroSigns_turned]
  | .array items => by simp [turned, zeroSigns, itemSigns_turned items]
  | .object members => by simp [turned, zeroSigns, memberSigns_turned members]

theorem itemSigns_turned : ∀ items, itemSigns (turnedItems items) = (itemSigns items).map (!·)
  | [] => by simp [turnedItems, itemSigns]
  | item :: items => by
    simp [turnedItems, itemSigns, zeroSigns_turned item, itemSigns_turned items]

theorem memberSigns_turned : ∀ members,
    memberSigns (turnedMembers members) = (memberSigns members).map (!·)
  | [] => by simp [turnedMembers, memberSigns]
  | (key, value) :: members => by
    simp [turnedMembers, memberSigns, zeroSigns_turned value, memberSigns_turned members]
end

end Json

namespace Value

/-- The signs of the zeros in a value. -/
def zeroSigns : Value → List Bool
  | .float x => x.zeroSigns
  | .json j => j.zeroSigns
  | _ => []

/-- The value with the other sign at every zero. -/
def turned : Value → Value
  | .float x => .float x.turned
  | .json j => .json j.turned
  | v => v

variable {a b : Value}

theorem eqv_turned (a : Value) : a.eqv a.turned = true := by
  cases a with
  | float x => exact x.numEq_turned
  | json j => exact j.eqv_turned
  | _ => simp [turned, eqv]

theorem zeroSigns_turned (a : Value) : a.turned.zeroSigns = a.zeroSigns.map (!·) := by
  cases a with
  | float x => exact x.zeroSigns_turned
  | json j => exact j.zeroSigns_turned
  | _ => simp [turned, zeroSigns]

/-- Equal values with one fingerprint are the same. -/
theorem fingerprint_eq_iff (same : a.eqv b = true) : a.fingerprint = b.fingerprint ↔ a = b := by
  cases a with
  | json j =>
    cases b with
    | json j' =>
      have texts := Json.texts_parted.whole_eq_iff same
      simpa [fingerprint, Json.texts, String.toList_inj] using texts
    | _ => simp [eqv] at same
  | _ => cases b <;> simp_all [eqv, fingerprint]

/-- Equal values whose zeros have the same signs are the same. -/
theorem zeroSigns_eq_iff (same : a.eqv b = true) : a.zeroSigns = b.zeroSigns ↔ a = b := by
  cases a with
  | json j =>
    cases b with
    | json j' => simpa [zeroSigns] using Json.zeroSigns_parted.whole_eq_iff same
    | _ => simp [eqv] at same
  | float x =>
    cases b with
    | float y =>
      have same : (Json.float x).eqv (.float y) = true := same
      simpa [zeroSigns, Json.zeroSigns] using Json.zeroSigns_parted.whole_eq_iff same
    | _ => simp [eqv] at same
  | _ => cases b <;> simp_all [eqv, zeroSigns]

/-- A value without zeros is equal to no other. -/
theorem eq_of_zeroSigns_nil (same : a.eqv b = true) (none : a.zeroSigns = []) : a = b := by
  cases a with
  | json j =>
    cases b with
    | json j' => exact congrArg json (Json.zeroSigns_parted.eq_of_whole_nil same none)
    | _ => simp [eqv] at same
  | float x =>
    cases b with
    | float y =>
      have same : (Json.float x).eqv (.float y) = true := same
      simpa using Json.zeroSigns_parted.eq_of_whole_nil same none
    | _ => simp [eqv] at same
  | _ => cases b <;> simp_all [eqv]

/-- Two equal values have one fingerprint just if their zeros have the same signs. A value shares its
fingerprint with every value that is equal to it just if no zero is in it. -/
theorem fingerprints_agree_iff (a : Value) :
    (∀ b, a.eqv b = true → (a.fingerprint = b.fingerprint ↔ a.zeroSigns = b.zeroSigns)) ∧
    ((∀ b, a.eqv b = true → a.fingerprint = b.fingerprint) ↔ a.zeroSigns = []) := by
  have signs : ∀ b, a.eqv b = true → (a.fingerprint = b.fingerprint ↔ a.zeroSigns = b.zeroSigns) :=
    fun b same => (fingerprint_eq_iff same).trans (zeroSigns_eq_iff same).symm
  refine ⟨signs, ?_⟩
  constructor
  · intro agree
    -- Equal to the value with all zeros turned, its signs would be their own negation.
    have kept := (signs a.turned a.eqv_turned).mp (agree a.turned a.eqv_turned)
    rw [zeroSigns_turned] at kept
    cases found : a.zeroSigns with
    | nil => trivial
    | cons sign others => simp [found] at kept
  · intro none b same
    rw [eq_of_zeroSigns_nil same none]

/-- Two equal documents, one with each zero, have different fingerprints. -/
theorem fingerprints_agree_iff_zeros :
    let a := json (.array [.float (.zero false)])
    let b := json (.array [.float (.zero true)])
    a.eqv b = true ∧ a.fingerprint ≠ b.fingerprint ∧
      ¬ ∀ c, a.eqv c = true → a.fingerprint = c.fingerprint := by
  intro a b
  obtain ⟨agree, always⟩ := a.fingerprints_agree_iff
  have same : a.eqv b = true := by decide
  have signs : a.zeroSigns = [false] ∧ b.zeroSigns = [true] := by decide
  refine ⟨same, ?_, ?_⟩
  · rw [ne_eq, agree b same, signs.1, signs.2]
    simp
  · rw [always, signs.1]
    simp

end Value
end SqlCompose
