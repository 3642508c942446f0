import Mathlib.Data.List.Infix
import SqlCompose.Quoter

/-!
# How a name is taken apart

Where the word ` as ` stands in a name for the first time, in any mix of ASCII cases, the name ends and an
alias begins; both are trimmed. This says what a name and its alias are without the search for the word
(`spelled_none_iff`, `spelled_some_iff`), and where the word can stand in names that are put together.
-/
namespace SqlCompose

namespace Text

/-- The word ` as ` in any mix of ASCII cases. -/
def IsAs (word : List Char) : Prop := word.map Char.toLower = " as ".toList

/-- The word stands somewhere in the text. -/
def HasAs (cs : List Char) : Prop := ∃ word, IsAs word ∧ word <:+: cs

/-- The texts before and behind the first place where the word stands. -/
structure FirstAs (cs front back : List Char) : Prop where
  parted : ∃ word, IsAs word ∧ cs = front ++ word ++ back
  first {front' word back' : List Char} (isAs : IsAs word) (parted : cs = front' ++ word ++ back') :
    front.length ≤ front'.length

/-! ## The word -/

theorem toNat_toLower (c : Char) :
    c.toLower.toNat = if 65 ≤ c.toNat ∧ c.toNat ≤ 90 then c.toNat + 32 else c.toNat := by
  unfold Char.toLower
  by_cases capital : c.val ≥ 'A'.val ∧ c.val ≤ 'Z'.val
  · have bounds : 65 ≤ c.toNat ∧ c.toNat ≤ 90 := by
      simpa [UInt32.le_iff_toNat_le] using capital
    have small : c.val.toNat ≤ 90 := bounds.2
    rw [dif_pos capital, if_pos bounds]
    show (c.val + ('a'.val - 'A'.val)).toNat = c.val.toNat + 32
    rw [UInt32.toNat_add]
    exact Nat.mod_eq_of_lt (by simp; omega)
  · have bounds : ¬ (65 ≤ c.toNat ∧ c.toNat ≤ 90) := by
      simpa [UInt32.le_iff_toNat_le] using capital
    rw [dif_neg capital, if_neg bounds]

theorem toLower_eq_space {c : Char} : c.toLower = ' ' ↔ c = ' ' := by
  have space : ' '.toNat = 32 := rfl
  rw [← Char.toNat_inj, ← Char.toNat_inj, toNat_toLower]
  split <;> omega

/-- A small letter is the lower-case form of itself and of its capital. -/
theorem toLower_eq_letter {c small capital : Char} (letter : 97 ≤ small.toNat ∧ small.toNat ≤ 122)
    (paired : small.toNat = capital.toNat + 32) : c.toLower = small ↔ c = small ∨ c = capital := by
  rw [← Char.toNat_inj, ← Char.toNat_inj, ← Char.toNat_inj, toNat_toLower]
  split <;> omega

theorem isAs_iff {word : List Char} : IsAs word ↔
    ∃ a s, word = [' ', a, s, ' '] ∧ (a = 'a' ∨ a = 'A') ∧ (s = 's' ∨ s = 'S') := by
  have letter_a {c : Char} : c.toLower = 'a' ↔ c = 'a' ∨ c = 'A' := toLower_eq_letter (by decide) rfl
  have letter_s {c : Char} : c.toLower = 's' ↔ c = 's' ∨ c = 'S' := toLower_eq_letter (by decide) rfl
  constructor
  · intro isAs
    have four : word.length = 4 := by simpa using congrArg List.length isAs
    match word, four with
    | [b, a, s, e], _ =>
      have each : b.toLower = ' ' ∧ a.toLower = 'a' ∧ s.toLower = 's' ∧ e.toLower = ' ' := by
        simpa [IsAs] using isAs
      rw [toLower_eq_space, letter_a, letter_s, toLower_eq_space] at each
      obtain ⟨rfl, first, second, rfl⟩ := each
      exact ⟨a, s, rfl, first, second⟩
  · rintro ⟨a, s, rfl, first, second⟩
    simp [IsAs, letter_a.mpr first, letter_s.mpr second]

theorem IsAs.length_eq {word : List Char} (isAs : IsAs word) : word.length = 4 := by
  simpa using congrArg List.length isAs

/-- A character that is none of the word's stands nowhere in it. -/
theorem IsAs.not_mem {word : List Char} (isAs : IsAs word) {sep : Char}
    (apart : sep.toLower ∉ " as ".toList) : sep ∉ word :=
  fun member => apart (isAs ▸ List.mem_map_of_mem member)

theorem afterAs?_eq_some {cs rest : List Char} :
    afterAs? cs = some rest ↔ ∃ word, IsAs word ∧ cs = word ++ rest := by
  constructor
  · intro found
    unfold afterAs? at found
    split at found
    · next a s rest' =>
      split at found
      · next letters =>
        cases found
        exact ⟨[' ', a, s, ' '], isAs_iff.mpr ⟨a, s, rfl, letters⟩, rfl⟩
      · cases found
    · cases found
  · rintro ⟨word, isAs, rfl⟩
    obtain ⟨a, s, rfl, letters⟩ := isAs_iff.mp isAs
    simp [afterAs?, letters]

/-! ## The first place of the word -/

/-- The word stands in front, or else nowhere but behind the first character. -/
theorem hasAs_cons {c : Char} {cs : List Char} :
    HasAs (c :: cs) ↔ (∃ rest, afterAs? (c :: cs) = some rest) ∨ HasAs cs := by
  constructor
  · rintro ⟨word, isAs, inside⟩
    rcases List.infix_cons_iff.mp inside with ⟨rest, front⟩ | later
    · exact .inl ⟨rest, afterAs?_eq_some.mpr ⟨word, isAs, front.symm⟩⟩
    · exact .inr ⟨word, isAs, later⟩
  · rintro (⟨rest, found⟩ | ⟨word, isAs, inside⟩)
    · obtain ⟨word, isAs, whole⟩ := afterAs?_eq_some.mp found
      exact ⟨word, isAs, [], rest, by simp [whole]⟩
    · exact ⟨word, isAs, List.infix_cons inside⟩

theorem splitAs?_eq_none {cs : List Char} : splitAs? cs = none ↔ ¬ HasAs cs := by
  induction cs with
  | nil =>
    refine ⟨?_, fun _ => rfl⟩
    rintro - ⟨word, isAs, inside⟩
    obtain rfl := List.infix_nil.mp inside
    cases isAs.length_eq
  | cons c cs ih =>
    rw [splitAs?, hasAs_cons]
    cases found : afterAs? (c :: cs) with
    | some rest => simp
    | none => simp [ih]

/-- Where the word is in front, nothing stands before it. -/
theorem firstAs_front {cs rest front back : List Char} (found : afterAs? cs = some rest) :
    FirstAs cs front back ↔ front = [] ∧ back = rest := by
  obtain ⟨word, isAs, rfl⟩ := afterAs?_eq_some.mp found
  constructor
  · rintro ⟨⟨word', isAs', whole⟩, first⟩
    have none_before : front.length ≤ ([] : List Char).length := first isAs rfl
    obtain rfl : front = [] := by simpa using none_before
    have words := List.append_inj whole (by simp [isAs.length_eq, isAs'.length_eq])
    exact ⟨rfl, words.2.symm⟩
  · rintro ⟨rfl, rfl⟩
    exact ⟨⟨word, isAs, rfl⟩, fun _ _ => Nat.zero_le _⟩

/-- Where it is not, the first character stands before it. -/
theorem firstAs_cons {c : Char} {cs front back : List Char} (never : afterAs? (c :: cs) = none) :
    FirstAs (c :: cs) front back ↔ ∃ before, front = c :: before ∧ FirstAs cs before back := by
  have behind {word back' : List Char} (isAs : IsAs word) : c :: cs ≠ word ++ back' := by
    intro front
    rw [afterAs?_eq_some.mpr ⟨word, isAs, front⟩] at never
    cases never
  constructor
  · rintro ⟨⟨word, isAs, whole⟩, first⟩
    cases front with
    | nil => exact absurd whole (behind isAs)
    | cons d before =>
      obtain ⟨rfl, rest⟩ := List.cons.inj whole
      refine ⟨before, rfl, ⟨word, isAs, rest⟩, fun {front' word' back'} isAs' whole' => ?_⟩
      have longer : c :: cs = (c :: front') ++ word' ++ back' := congrArg (c :: ·) whole'
      exact Nat.le_of_succ_le_succ (first isAs' longer)
  · rintro ⟨before, rfl, ⟨⟨word, isAs, rfl⟩, first⟩⟩
    refine ⟨⟨word, isAs, rfl⟩, fun {front' word' back'} isAs' whole' => ?_⟩
    cases front' with
    | nil => exact absurd whole' (behind isAs')
    | cons d before' =>
      have shorter := first isAs' (List.cons.inj whole').2
      simpa using shorter

theorem splitAs?_eq_some {cs front back : List Char} :
    splitAs? cs = some (front, back) ↔ FirstAs cs front back := by
  induction cs generalizing front with
  | nil =>
    constructor
    · intro found
      cases found
    · rintro ⟨⟨word, isAs, whole⟩, -⟩
      have length := congrArg List.length whole
      simp only [List.length_nil, List.length_append, isAs.length_eq] at length
      omega
  | cons c cs ih =>
    rw [splitAs?]
    cases found : afterAs? (c :: cs) with
    | some rest =>
      rw [firstAs_front found]
      simp [eq_comm]
    | none =>
      rw [firstAs_cons found]
      simp only [Option.map_eq_some_iff, Prod.exists, Prod.mk.injEq, ← ih]
      constructor
      · rintro ⟨before, rest, split, rfl, rfl⟩
        exact ⟨before, rfl, split⟩
      · rintro ⟨before, rfl, split⟩
        exact ⟨before, back, split, rfl, rfl⟩

/-- In two texts with a sign between them, the word stands in the one or the other. -/
theorem hasAs_parted {sep : Char} (apart : sep.toLower ∉ " as ".toList) {a b : List Char} :
    HasAs (a ++ sep :: b) ↔ HasAs a ∨ HasAs b := by
  constructor
  · rintro ⟨word, isAs, inside⟩
    have never := isAs.not_mem apart
    have nothing {part : List Char} (front : part <+: sep :: b) (never : sep ∉ part) : part = [] := by
      rcases List.prefix_cons_iff.mp front with empty | ⟨rest, rfl, -⟩
      · exact empty
      · simp at never
    rcases List.infix_append_iff.mp inside with left | right | ⟨u, v, rfl, left, right⟩
    · exact .inl ⟨word, isAs, left⟩
    · rcases List.infix_cons_iff.mp right with front | later
      · cases nothing front never ▸ isAs.length_eq
      · exact .inr ⟨word, isAs, later⟩
    · obtain rfl := nothing right fun member => never (by simp [member])
      rw [List.append_nil] at isAs
      exact .inl ⟨u, isAs, left.isInfix⟩
  · rintro (⟨word, isAs, inside⟩ | ⟨word, isAs, inside⟩)
    · exact ⟨word, isAs, inside.trans (List.prefix_append _ _).isInfix⟩
    · exact ⟨word, isAs, inside.trans ((List.suffix_cons _ _).trans (List.suffix_append _ _)).isInfix⟩

end Text

/-- The name without its alias, and the alias if there is one. -/
inductive Spelled (name : String) : String → Option String → Prop
  | plain (never : ¬ Text.HasAs name.toList) : Spelled name name none
  | aliased {front back : List Char} (split : Text.FirstAs name.toList front back) :
    Spelled name (Text.trim (String.ofList front)) (some (Text.trim (String.ofList back)))

theorem spelled_none_iff {name base : String} :
    Spelled name base none ↔ splitAlias? name = none ∧ base = name := by
  rw [splitAlias?, Option.map_eq_none_iff, Text.splitAs?_eq_none]
  constructor
  · rintro (never | _)
    exact ⟨never, rfl⟩
  · rintro ⟨never, rfl⟩
    exact .plain never

theorem spelled_some_iff {name base knownAs : String} :
    Spelled name base (some knownAs) ↔ splitAlias? name = some (base, knownAs) := by
  rw [splitAlias?, Option.map_eq_some_iff]
  constructor
  · intro spelled
    cases spelled with
    | aliased split => exact ⟨_, Text.splitAs?_eq_some.mpr split, rfl⟩
  · rintro ⟨⟨front, back⟩, split, same⟩
    cases same
    exact .aliased (Text.splitAs?_eq_some.mp split)

/-- Every name is taken apart in one way. -/
theorem name_spelled (name : String) : ∃ base knownAs, Spelled name base knownAs ∧
    ∀ base' knownAs', Spelled name base' knownAs' ↔ base' = base ∧ knownAs' = knownAs := by
  cases split : splitAlias? name with
  | none =>
    refine ⟨name, none, spelled_none_iff.mpr ⟨split, rfl⟩, fun base' knownAs' => ?_⟩
    cases knownAs' with
    | none => simp [spelled_none_iff, split]
    | some knownAs' => simp [spelled_some_iff, split]
  | some texts =>
    obtain ⟨base, knownAs⟩ := texts
    refine ⟨base, some knownAs, spelled_some_iff.mpr split, fun base' knownAs' => ?_⟩
    cases knownAs' with
    | none => simp [spelled_none_iff, split]
    | some knownAs' => simp [spelled_some_iff, split, eq_comm]

end SqlCompose
