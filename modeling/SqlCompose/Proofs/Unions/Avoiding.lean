import SqlCompose.Proofs.Unions.Words

/-!
# Clauses without the words that close a select

The words that start an order, a bound, a lock or the next query of a union stand nowhere else at the
top of a statement without trusted SQL. Being balanced and without these words is a property that
goes through all clauses but those; being balanced goes through whole queries.
-/
namespace SqlCompose

open Text (Balanced Solitary)

/-- The words that start an order, a bound or a lock. -/
def boundingWords : List String := ["order", "limit", "offset", "for", "lock"]

/-- The words that start what follows the clauses of a select. -/
def closingWords : List String := boundingWords ++ ["union"]

/-- The text is balanced, and its words are none of these. -/
def Avoids (quote : Char) (banned : List String) (s : String) : Prop :=
  Balanced quote s.toList ∧ ∀ w ∈ Text.words quote s, w ∉ banned

instance (quote : Char) (banned : List String) (s : String) :
    Decidable (Avoids quote banned s) :=
  inferInstanceAs (Decidable (_ ∧ _))

/-- A character of none of the words that close a select. -/
def Sign (c : Char) : Prop := ∀ w ∈ closingWords, c ∉ w.toList

instance (c : Char) : Decidable (Sign c) := inferInstanceAs (Decidable (∀ _ ∈ _, _))

/-- The quote character stands for nothing else in what closes a select. -/
structure Quotes (quote : Char) : Prop where
  shown : Text.isBlank quote = false
  letter : quote.isAlphanum = false
  brackets : quote ≠ '(' ∧ quote ≠ ')'
  sign : Sign quote

namespace Avoids

variable {quote : Char} {banned : List String} {s t : String}

theorem mono (h : Avoids quote closingWords s) (part : banned ⊆ closingWords) :
    Avoids quote banned s :=
  ⟨h.1, fun w member other => h.2 w member (part other)⟩

theorem space (shown : Text.isBlank quote = false) (left : Avoids quote banned s)
    (right : Avoids quote banned t) : Avoids quote banned (s ++ " " ++ t) := by
  refine ⟨Text.balanced_space shown left.1 right.1, ?_⟩
  intro w member
  rw [Text.words_space shown left.1, List.mem_append] at member
  rcases member with member | member
  · exact left.2 w member
  · exact right.2 w member

/-- A word with a sign in it. -/
theorem of_solitary (part : banned ⊆ closingWords) (solitary : Solitary quote s.toList) {c : Char}
    (sign : Sign c) (inside : c ∈ s.toList) : Avoids quote banned s := by
  refine ⟨solitary.1, ?_⟩
  intro w member other
  have whole := Text.mem_words member
  rw [solitary.2, List.mem_singleton] at whole
  have letters := sign w (part other)
  rw [whole] at letters
  exact letters inside

/-- Texts with a sign between them, without blanks around it. -/
theorem glued (part : banned ⊆ closingWords) (left : Avoids quote banned s) {mid : String}
    (solitary : Solitary quote mid.toList) {c : Char} (sign : Sign c) (inside : c ∈ mid.toList)
    (right : Avoids quote banned t) : Avoids quote banned (s ++ mid ++ t) := by
  have chars : (s ++ mid ++ t).toList = s.toList ++ (mid.toList ++ t.toList) := by simp
  refine ⟨by rw [chars]; exact left.1.append (solitary.1.append right.1), ?_⟩
  intro w member other
  have filled : w.toList ≠ [] := by
    obtain ⟨cs, kept, rfl⟩ := List.mem_map.mp member
    simpa using (List.mem_filter.mp kept).2
  have banned_of {u : String} (inChunks : w.toList ∈ Text.chunks quote .top u.toList)
      (avoids : Avoids quote banned u) : False := by
    refine avoids.2 w (List.mem_map.mpr ⟨w.toList, ?_, String.ofList_toList⟩) other
    exact List.mem_filter.mpr ⟨inChunks, by simpa using filled⟩
  have whole := Text.mem_words member
  rw [chars, Text.chunks_append left.1, Text.chunks_append solitary.1, solitary.2] at whole
  cases last : Text.chunks quote .top t.toList with
  | nil => exact Text.chunks_ne_nil _ _ last
  | cons v r =>
    rw [last] at whole
    rcases Text.mem_glue whole with before | behind | ⟨u, spelled⟩
    · exact banned_of before left
    · exact banned_of (by rw [last]; exact List.mem_cons_of_mem _ behind) right
    · refine sign w (part other) ?_
      rw [spelled]
      exact List.mem_append_right _ (List.mem_append_left _ inside)

theorem empty : Avoids quote banned "" := by
  refine ⟨rfl, ?_⟩
  simp

/-- A text with a word behind it that has a sign. -/
theorem behind (part : banned ⊆ closingWords) (left : Avoids quote banned s) {mid : String}
    (solitary : Solitary quote mid.toList) {c : Char} (sign : Sign c) (inside : c ∈ mid.toList) :
    Avoids quote banned (s ++ mid) := by
  have nothing : Avoids quote banned "" := empty
  have both := glued part left solitary sign inside nothing
  rwa [String.append_empty] at both

theorem bracket (part : banned ⊆ closingWords) (ordinary : quote ≠ '(' ∧ quote ≠ ')')
    (balanced : Balanced quote s.toList) : Avoids quote banned ("(" ++ s ++ ")") :=
  of_solitary part (Text.solitary_parentheses ordinary balanced) (by decide : Sign '(') (by simp)

/-- A word with something in parentheses right behind it. -/
theorem call (part : banned ⊆ closingWords) (ordinary : quote ≠ '(' ∧ quote ≠ ')')
    (left : Avoids quote banned s) (balanced : Balanced quote t.toList) :
    Avoids quote banned (s ++ ("(" ++ t ++ ")")) :=
  behind part left (Text.solitary_parentheses ordinary balanced) (by decide : Sign '(') (by simp)

theorem trim (shown : Text.isBlank quote = false) (h : Avoids quote banned s) :
    Avoids quote banned (Text.trim s) :=
  ⟨Text.balanced_trim shown h.1, by rw [Text.words_trim shown h.1]; exact h.2⟩

theorem trimEnd (shown : Text.isBlank quote = false) (h : Avoids quote banned s) :
    Avoids quote banned (Text.trimEnd s) :=
  ⟨Text.balanced_trimEnd shown h.1, by rw [Text.words_trimEnd shown h.1]; exact h.2⟩

theorem quoted (part : banned ⊆ closingWords) (shown : Text.isBlank quote = false)
    (sign : Sign quote) (name : String) : Avoids quote banned (Text.quoted quote name) :=
  of_solitary part (Text.solitary_quoted shown name) sign (by simp [Text.quoted])

end Avoids
end SqlCompose
