import Mathlib.Algebra.Ring.Nat
import SqlCompose.Proofs.Schema.Clean

/-!
# The words that declare a primary key

How often `primary key` stands in a text outside quotes. Two texts put together can spell it where they
meet. They do not if a keyword parts them that the phrase cannot overlap (`Spells.parted`), or if no word
of theirs starts with a `k` (`Keyless`).
-/
namespace SqlCompose

open Quotation

/-! ## Phrases in lists -/

section

variable {α : Type} [DecidableEq α]

/-- The number of places where a phrase stands in a list. -/
def occurrences (phrase : List α) : List α → Nat
  | [] => 0
  | x :: xs => (if phrase <+: x :: xs then 1 else 0) + occurrences phrase xs

theorem occurrences_eq_zero {phrase xs : List α} (never : ¬ phrase <:+: xs) :
    occurrences phrase xs = 0 := by
  induction xs with
  | nil => rfl
  | cons x xs ih =>
    rw [List.infix_cons_iff, not_or] at never
    rw [occurrences, if_neg never.1, ih never.2]

omit [DecidableEq α] in
/-- What two lists start with is what the first one starts with, or reaches into the second one. -/
theorem prefix_append_cases {phrase xs ys : List α} (starts : phrase <+: xs ++ ys) :
    phrase <+: xs ∨ ∃ n < phrase.length, phrase.take n = xs ∧ phrase.drop n <+: ys := by
  rcases List.prefix_or_prefix_of_prefix starts (List.prefix_append xs ys) with inner | ⟨back, rfl⟩
  · exact .inl inner
  · cases back with
    | nil => exact .inl (by simp)
    | cons y back =>
      refine .inr ⟨xs.length, by simp, List.take_left, ?_⟩
      rwa [List.drop_left, ← List.prefix_append_right_inj xs]

/-- A phrase stands as often in two lists as in both together, if no front of it ends the one while the
rest of it starts the other. -/
theorem occurrences_append {phrase xs ys : List α}
    (apart : ∀ n, 0 < n → n < phrase.length → phrase.take n <:+ xs → ¬ phrase.drop n <+: ys) :
    occurrences phrase (xs ++ ys) = occurrences phrase xs + occurrences phrase ys := by
  induction xs with
  | nil => simp [occurrences]
  | cons x xs ih =>
    have rest := ih fun n some less ends => apart n some less (ends.trans (List.suffix_cons x xs))
    have here : phrase <+: x :: (xs ++ ys) ↔ phrase <+: x :: xs := by
      rw [← List.cons_append]
      refine ⟨fun starts => ?_, fun starts => starts.trans (List.prefix_append (x :: xs) ys)⟩
      rcases prefix_append_cases starts with inner | ⟨n, less, front, back⟩
      · exact inner
      · have some : 0 < n := by
          rw [Nat.pos_iff_ne_zero]
          rintro rfl
          cases front
        exact absurd back (apart n some less (front ▸ List.suffix_refl _))
    rw [List.cons_append, occurrences, occurrences, rest, Nat.add_assoc]
    simp only [here]

end

/-! ## The phrase outside quotes -/

/-- The phrase, as it stands in the outline of a text. -/
def keyPhrase : List (Option Char) := "primary key".toList.map some

/-- No word of the items starts with a `k`; a word may start behind a blank or a mark. -/
def keyless : Option Char → List (Option Char) → Bool
  | _, [] => true
  | last, item :: items =>
    (item ≠ some 'k' || (last ≠ none && last ≠ some ' ')) && keyless item items

theorem keyless_behind {items : List (Option Char)} (last : Option Char)
    (known : keyless none items = true) : keyless last items = true := by
  cases items with
  | nil => rfl
  | cons item items =>
    simp only [keyless, Bool.and_eq_true, Bool.or_eq_true] at known ⊢
    exact known.imp_left fun first => .inl (by simpa using first)

theorem keyless_append {last : Option Char} {xs ys : List (Option Char)}
    (left : keyless last xs = true) (right : keyless none ys = true) :
    keyless last (xs ++ ys) = true := by
  induction xs generalizing last with
  | nil => exact keyless_behind last right
  | cons x xs ih =>
    rw [keyless, Bool.and_eq_true] at left
    rw [List.cons_append, keyless, Bool.and_eq_true]
    exact ⟨left.1, ih left.2⟩

theorem occurrences_keyless {last : Option Char} {items : List (Option Char)}
    (known : keyless last items = true) : occurrences keyPhrase items = 0 := by
  induction items generalizing last with
  | nil => rfl
  | cons item items ih =>
    have never : ¬ keyPhrase <+: item :: items := by
      rintro ⟨rest, whole⟩
      have spelled : keyless last (keyPhrase ++ rest) = false := rfl
      rw [whole, known] at spelled
      cases spelled
    rw [occurrences, if_neg never]
    rw [keyless, Bool.and_eq_true] at known
    exact (Nat.zero_add _).trans (ih known.2)

/-- A keyword in which the phrase stands a number of times, and into which it cannot reach from outside. -/
def parting (k : Nat) (cs : List Char) : Bool :=
  let items := cs.map some
  cs ≠ [] && cs.all harmless && occurrences keyPhrase items == k &&
    (List.range' 1 (keyPhrase.length - 1)).all fun n =>
      !(keyPhrase.take n).isSuffixOf items && !(keyPhrase.drop n).isPrefixOf items &&
        !items.isPrefixOf (keyPhrase.drop n)

/-- In front of it and behind it, other phrases begin and end. -/
theorem parting_apart {k : Nat} {cs : List Char} (known : parting k cs = true) {n : Nat} (some : 0 < n)
    (less : n < keyPhrase.length) : ¬ keyPhrase.take n <:+ cs.map Option.some ∧
      ∀ rest, ¬ keyPhrase.drop n <+: cs.map Option.some ++ rest := by
  simp only [parting, Bool.and_eq_true, List.all_eq_true] at known
  have within : n ∈ List.range' 1 (keyPhrase.length - 1) := List.mem_range'_1.mpr ⟨some, less⟩
  obtain ⟨⟨ends, starts⟩, longer⟩ := known.2 n within
  simp only [Bool.not_eq_true', Bool.eq_false_iff, ne_eq, List.isSuffixOf_iff_suffix,
    List.isPrefixOf_iff_prefix] at ends starts longer
  refine ⟨ends, fun rest front => ?_⟩
  rcases List.prefix_or_prefix_of_prefix front (List.prefix_append _ rest) with short | long
  · exact starts short
  · exact longer long

namespace SchemaDialect

variable {d : SchemaDialect}

/-- The phrase stands a number of times in the text, which ends its quotes. -/
structure Spells (d : SchemaDialect) (n : Nat) (s : String) : Prop where
  closed : d.quotation.Closed s.toList
  count : occurrences keyPhrase (d.quotation.outline s) = n

theorem spells_empty : d.Spells 0 "" := ⟨.outside, rfl⟩

theorem Spells.parted {n k m : Nat} {s t : String} {cs : List Char} (left : d.Spells n s)
    (known : parting k cs = true) (right : d.Spells m t) :
    d.Spells (n + k + m) (s ++ String.ofList cs ++ t) := by
  have apart := fun {n} => parting_apart (n := n) known
  simp only [parting, Bool.and_eq_true, decide_eq_true_eq, beq_iff_eq] at known
  obtain ⟨⟨⟨some, plain⟩, spelled⟩, -⟩ := known
  obtain ⟨c, cs, rfl⟩ := List.exists_cons_of_ne_nil some
  have quiet : ∀ e ∈ c :: cs, d.quotation.opens e = false := fun e member =>
    opens_harmless (List.all_eq_true.mp plain e member)
  constructor
  · rw [String.toList_append, String.toList_append, String.toList_ofList]
    exact left.closed.parted quiet right.closed
  · unfold outline
    rw [String.toList_append, String.toList_append, String.toList_ofList,
      outlineFrom_parted left.closed quiet, List.append_assoc, occurrences_append, occurrences_append,
      spelled, Nat.add_assoc]
    · rw [← left.count, ← right.count]
      rfl
    · intro n positive less ends
      exact absurd ends (apart positive less).1
    · intro n positive less _
      exact (apart positive less).2 _

/-- The text adds occurrences of the phrase behind any other one. -/
def Adds (d : SchemaDialect) (k : Nat) (t : String) : Prop :=
  ∀ n s, d.Spells n s → d.Spells (n + k) (s ++ t)

theorem adds_empty : d.Adds 0 "" := by
  intro n s left
  simpa using left

theorem adds_behind {k m : Nat} {cs : List Char} {t : String} (known : parting k cs = true)
    (right : d.Spells m t) : d.Adds (k + m) (String.ofList cs ++ t) := by
  intro n s left
  rw [← Nat.add_assoc, ← String.append_assoc]
  exact left.parted known right

theorem adds_fixed {k : Nat} {cs : List Char} (known : parting k cs = true) :
    d.Adds k (String.ofList cs) := by
  simpa using adds_behind known spells_empty

theorem Adds.append {k m : Nat} {s t : String} (first : d.Adds k s) (rest : d.Adds m t) :
    d.Adds (k + m) (s ++ t) := by
  intro n front left
  rw [← Nat.add_assoc, ← String.append_assoc]
  exact rest _ _ (first _ _ left)

theorem Adds.spells {k : Nat} {t : String} (adds : d.Adds k t) : d.Spells k t := by
  simpa using adds _ _ spells_empty

/-- What stands in front of a joined list stands in front of its first text. -/
theorem append_joinWith (sep front s : String) (texts : List String) :
    front ++ Text.joinWith sep (s :: texts) = Text.joinWith sep ((front ++ s) :: texts) := by
  cases texts with
  | nil => rfl
  | cons t texts => simp [String.append_assoc]

theorem adds_joined {m : Nat} {t : String} (first : d.Adds m t) {sep : List Char}
    (between : parting 0 sep = true) {ks : List Nat} {texts : List String}
    (others : List.Forall₂ d.Spells ks texts) :
    d.Adds (m + ks.sum) (Text.joinWith (String.ofList sep) (t :: texts)) := by
  induction others generalizing m t with
  | nil => exact first
  | @cons k s ks texts one others ih =>
    have joined : d.Adds (m + (0 + k)) (t ++ (String.ofList sep ++ s)) :=
      first.append (adds_behind between one)
    have rest := ih joined
    rw [← append_joinWith, ← append_joinWith, ← String.append_assoc] at rest
    simpa [Nat.add_assoc] using rest

/-! ## Texts without the phrase -/

/-- Every quoted text is ended, and no word outside of them starts with a `k`. -/
structure Keyless (d : SchemaDialect) (s : String) : Prop where
  closed : d.quotation.Closed s.toList
  words : keyless none (d.quotation.outline s) = true

theorem Keyless.spells {s : String} (h : d.Keyless s) : d.Spells 0 s :=
  ⟨h.closed, occurrences_keyless h.words⟩

theorem Keyless.append {s t : String} (left : d.Keyless s) (right : d.Keyless t) :
    d.Keyless (s ++ t) := by
  obtain ⟨closed, marks⟩ := outlineFrom_clear left.closed right.closed
  have words : keyless none (d.quotation.outlineFrom (d.quotation.walk .outside s.toList) t.toList) =
      true := by
    have whole := right.words
    unfold outline at whole
    rcases marks with same | less
    · rwa [same]
    · rw [← less, keyless, Bool.and_eq_true] at whole
      exact whole.2
  constructor
  · unfold Closed
    rwa [String.toList_append, walk_append]
  · unfold outline
    rw [String.toList_append, outlineFrom_append]
    exact keyless_append left.words words

theorem keyless_fixed {cs : List Char} (known : cs.all harmless = true)
    (words : keyless none (cs.map some) = true) : d.Keyless (String.ofList cs) := by
  have chars : ∀ c ∈ (String.ofList cs).toList, harmless c = true := by simpa using known
  obtain ⟨closed, shown⟩ := outline_chars (d := d) chars
  exact ⟨closed, by rwa [shown, String.toList_ofList]⟩

theorem keyless_of_not_mem {s : String} (closed : d.quotation.Closed s.toList)
    (never : some 'k' ∉ d.quotation.outline s) : d.Keyless s := by
  refine ⟨closed, ?_⟩
  generalize d.quotation.outline s = items at never
  generalize (none : Option Char) = last
  induction items generalizing last with
  | nil => rfl
  | cons item items ih =>
    rw [List.mem_cons, not_or] at never
    rw [keyless, ih never.2 item]
    simpa using .inl (Ne.symm never.1)

end SchemaDialect
end SqlCompose
