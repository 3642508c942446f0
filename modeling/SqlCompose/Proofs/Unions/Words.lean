import Mathlib.Data.List.DropRight
import SqlCompose.Proofs.Fragments
import SqlCompose.Text.Digits
import SqlCompose.Text.Quoted

/-!
# The words of a statement

A statement is read as words parted by blanks, where blanks in quoted names and in parentheses do not
count. In a balanced text names are closed again and parentheses match, so that the words of texts
put together with a blank are the words of the one and then those of the other.
-/
namespace SqlCompose

/-- Where a reader stands: in a quoted name or not, and in how many parentheses. -/
structure Nesting where
  inside : Bool
  depth : Nat
  deriving DecidableEq

namespace Nesting

def top : Nesting := ⟨false, 0⟩

/-- One character further; only a parenthesis that was opened can be closed. -/
def next (quote : Char) : Nesting → Char → Option Nesting
  | ⟨true, n⟩, c => some ⟨c ≠ quote, n⟩
  | ⟨false, n⟩, c =>
    if c = quote then some ⟨true, n⟩
    else if c = '(' then some ⟨false, n + 1⟩
    else if c = ')' then
      match n with
      | 0 => none
      | n + 1 => some ⟨false, n⟩
    else some ⟨false, n⟩

def walk (quote : Char) (s : Nesting) (cs : List Char) : Option Nesting := cs.foldlM (next quote) s

@[simp] theorem walk_nil (quote : Char) (s : Nesting) : walk quote s [] = some s := rfl

theorem walk_cons (quote : Char) (s : Nesting) (c : Char) (cs : List Char) :
    walk quote s (c :: cs) = (s.next quote c).bind fun e => walk quote e cs := rfl

theorem walk_append (quote : Char) (s : Nesting) (a b : List Char) :
    walk quote s (a ++ b) = (walk quote s a).bind fun e => walk quote e b :=
  List.foldlM_append ..

/-- One more parenthesis around everything changes nothing else. -/
theorem next_deeper {quote c : Char} {s e : Nesting} (step : s.next quote c = some e) :
    next quote ⟨s.inside, s.depth + 1⟩ c = some ⟨e.inside, e.depth + 1⟩ := by
  obtain ⟨inside, depth⟩ := s
  cases inside with
  | true =>
    cases Option.some.inj step
    rfl
  | false =>
    simp only [next] at step ⊢
    split at step
    · next h => cases step; rw [if_pos h]
    · next h =>
      rw [if_neg h]
      split at step
      · next h => cases step; rw [if_pos h]
      · next h =>
        rw [if_neg h]
        split at step
        · next h =>
          rw [if_pos h]
          cases depth with
          | zero => cases step
          | succ n => cases step; rfl
        · next h => cases step; rw [if_neg h]

theorem walk_deeper {quote : Char} {s e : Nesting} {cs : List Char}
    (walked : walk quote s cs = some e) :
    walk quote ⟨s.inside, s.depth + 1⟩ cs = some ⟨e.inside, e.depth + 1⟩ := by
  induction cs generalizing s with
  | nil => cases walked; rfl
  | cons c cs ih =>
    rw [walk_cons] at walked
    obtain ⟨next, step, walked⟩ := Option.bind_eq_some_iff.mp walked
    rw [walk_cons, next_deeper step, Option.bind_some]
    exact ih walked

end Nesting

namespace Text

open Nesting

/-- Two lists of chunks, the last of the one and the first of the other being one chunk. -/
def glue : List (List Char) → List (List Char) → List (List Char)
  | [], r => r
  | [w], [] => [w]
  | [w], v :: r => (w ++ v) :: r
  | w :: x :: ws, r => w :: glue (x :: ws) r

theorem glue_ne_nil {a b : List (List Char)} (h : b ≠ []) : glue a b ≠ [] := by
  match a, b, h with
  | [], _, h => exact h
  | [_], _ :: _, _ => simp [glue]
  | _ :: _ :: _, _, _ => simp [glue]

theorem glue_append_singleton (a : List (List Char)) (w v : List Char) (r : List (List Char)) :
    glue (a ++ [w]) (v :: r) = a ++ (w ++ v) :: r := by
  induction a with
  | nil => rfl
  | cons x a ih =>
    cases a with
    | nil => rfl
    | cons y a => simpa [glue] using ih

/-- Gluing takes nothing away and makes two chunks one. -/
theorem glue_counts {a r : List (List Char)} (ha : a ≠ []) (hr : r ≠ []) :
    (glue a r).flatten = a.flatten ++ r.flatten ∧ (glue a r).length + 1 = a.length + r.length := by
  obtain ⟨b, w, rfl⟩ := (List.eq_nil_or_concat a).resolve_left ha
  obtain ⟨v, r, rfl⟩ := List.exists_cons_of_ne_nil hr
  rw [List.concat_eq_append, glue_append_singleton]
  constructor
  · simp
  · simp only [List.length_append, List.length_cons, List.length_nil]
    omega

theorem glue_assoc (a : List (List Char)) {b c : List (List Char)} (hb : b ≠ []) (hc : c ≠ []) :
    glue (glue a b) c = glue a (glue b c) := by
  induction a with
  | nil => rfl
  | cons w ws ih =>
    cases ws with
    | nil =>
      match b, c, hb, hc with
      | [v], u :: r, _, _ => simp [glue]
      | v :: x :: rest, c, _, _ => simp [glue]
    | cons x ws =>
      have inner := glue_ne_nil (a := x :: ws) hb
      cases whole : glue (x :: ws) b with
      | nil => exact absurd whole inner
      | cons y rest =>
        rw [whole] at ih
        simp only [glue, whole, ← ih]

/-- An empty chunk in front keeps the two lists apart. -/
theorem glue_empty_cons {a : List (List Char)} (h : a ≠ []) (r : List (List Char)) :
    glue a ([] :: r) = a ++ r := by
  induction a with
  | nil => exact absurd rfl h
  | cons w ws ih =>
    cases ws with
    | nil => simp [glue]
    | cons x ws => simp [glue, ih]

theorem mem_glue {a r : List (List Char)} {v w : List Char} (h : w ∈ glue a (v :: r)) :
    w ∈ a ∨ w ∈ r ∨ ∃ u, w = u ++ v := by
  induction a with
  | nil =>
    rcases List.mem_cons.mp h with rfl | member
    · exact .inr (.inr ⟨[], rfl⟩)
    · exact .inr (.inl member)
  | cons x ws ih =>
    cases ws with
    | nil =>
      rcases List.mem_cons.mp h with rfl | member
      · exact .inr (.inr ⟨x, rfl⟩)
      · exact .inr (.inl member)
    | cons y ws =>
      rcases List.mem_cons.mp h with rfl | member
      · exact .inl (by simp)
      · exact (ih member).imp_left (List.mem_cons_of_mem _)

/-- A character on its own: a blank at the top ends a chunk. -/
def cut (s : Nesting) (c : Char) : List (List Char) :=
  if s = top ∧ isBlank c = true then [[], []] else [[c]]

/-- The texts between the blanks at the top. -/
def chunks (quote : Char) : Nesting → List Char → List (List Char)
  | _, [] => [[]]
  | s, c :: cs => glue (cut s c) (chunks quote ((s.next quote c).getD s) cs)

/-- The words of a text. -/
def words (quote : Char) (s : String) : List String :=
  ((chunks quote top s.toList).filter (· ≠ [])).map String.ofList

/-- Every name and every parenthesis is closed again. -/
def Balanced (quote : Char) (cs : List Char) : Prop := walk quote top cs = some top

instance (quote : Char) (cs : List Char) : Decidable (Balanced quote cs) :=
  inferInstanceAs (Decidable (_ = _))

variable {quote : Char}

theorem chunks_ne_nil (s : Nesting) (cs : List Char) : chunks quote s cs ≠ [] := by
  induction cs generalizing s with
  | nil => simp [chunks]
  | cons c cs ih => exact glue_ne_nil (ih _)

/-- Between two chunks one blank is left out. -/
theorem length_chunks (s : Nesting) (cs : List Char) :
    (chunks quote s cs).flatten.length + (chunks quote s cs).length = cs.length + 1 := by
  induction cs generalizing s with
  | nil => rfl
  | cons c cs ih =>
    have first : cut s c ≠ [] ∧ (cut s c).flatten.length + (cut s c).length = 2 := by
      unfold cut
      split <;> simp
    have rest := ih ((s.next quote c).getD s)
    obtain ⟨texts, count⟩ := glue_counts first.1 (chunks_ne_nil ((s.next quote c).getD s) cs)
    rw [chunks, texts, List.length_append, List.length_cons]
    omega

theorem chunks_append {s e : Nesting} {a : List Char} (walked : walk quote s a = some e)
    (b : List Char) : chunks quote s (a ++ b) = glue (chunks quote s a) (chunks quote e b) := by
  induction a generalizing s with
  | nil =>
    cases walked
    cases h : chunks quote e b with
    | nil => exact absurd h (chunks_ne_nil e b)
    | cons v r => simp [chunks, glue, h]
  | cons c a ih =>
    rw [walk_cons] at walked
    obtain ⟨next, step, walked⟩ := Option.bind_eq_some_iff.mp walked
    have rest := ih walked
    rw [List.cons_append, chunks, chunks, step, Option.getD_some, rest,
      glue_assoc _ (chunks_ne_nil _ _) (chunks_ne_nil _ _)]

theorem Balanced.append {a b : List Char} (left : Balanced quote a) (right : Balanced quote b) :
    Balanced quote (a ++ b) := by
  unfold Balanced
  rw [walk_append, left, Option.bind_some, right]

/-- A text in which no blank ends a chunk. -/
def Solitary (quote : Char) (cs : List Char) : Prop :=
  Balanced quote cs ∧ chunks quote top cs = [cs]

instance (quote : Char) (cs : List Char) : Decidable (Solitary quote cs) :=
  inferInstanceAs (Decidable (_ ∧ _))

theorem Solitary.append {a b : List Char} (left : Solitary quote a) (right : Solitary quote b) :
    Solitary quote (a ++ b) := by
  refine ⟨left.1.append right.1, ?_⟩
  rw [chunks_append left.1, left.2, right.2]
  rfl

theorem words_of_solitary {s : String} (solitary : Solitary quote s.toList) (some : s ≠ "") :
    words quote s = [s] := by
  have chars : s.toList ≠ [] := mt String.toList_eq_nil_iff.mp some
  simp [words, solitary.2, chars]

theorem mem_words {s w : String} (h : w ∈ words quote s) :
    w.toList ∈ chunks quote top s.toList := by
  obtain ⟨cs, member, rfl⟩ := List.mem_map.mp h
  simpa using (List.mem_filter.mp member).1

@[simp] theorem words_empty : words quote "" = [] := rfl

/-- In parentheses nothing ends a chunk. -/
theorem chunks_deeper {s e : Nesting} {cs : List Char} (walked : walk quote s cs = some e) :
    chunks quote ⟨s.inside, s.depth + 1⟩ cs = [cs] := by
  induction cs generalizing s with
  | nil => rfl
  | cons c cs ih =>
    rw [walk_cons] at walked
    obtain ⟨next, step, walked⟩ := Option.bind_eq_some_iff.mp walked
    have below : (⟨s.inside, s.depth + 1⟩ : Nesting) ≠ top := by simp [top]
    rw [chunks, next_deeper step, Option.getD_some, ih walked, cut, if_neg fun h => below h.1]
    rfl

theorem solitary_bracket (ordinary : quote ≠ '(' ∧ quote ≠ ')') {cs : List Char}
    (balanced : Balanced quote cs) : Solitary quote ('(' :: (cs ++ [')'])) := by
  have opening : top.next quote '(' = some ⟨false, 1⟩ := by
    simp [next, top, ordinary.1.symm]
  have closing : next quote ⟨false, 1⟩ ')' = some top := by
    simp [next, top, ordinary.2.symm]
  have inner : walk quote ⟨false, 1⟩ cs = some ⟨false, 1⟩ := walk_deeper balanced
  constructor
  · simp only [Balanced]
    rw [walk_cons, opening, Option.bind_some, walk_append, inner, Option.bind_some, walk_cons,
      closing]
    rfl
  · have one : chunks quote ⟨false, 1⟩ cs = [cs] := chunks_deeper balanced
    have last : chunks quote ⟨false, 1⟩ [')'] = [[')']] := by
      rw [chunks, closing]
      rfl
    rw [chunks, opening, Option.getD_some, chunks_append inner, one, last]
    simp [cut, isBlank, glue]

theorem solitary_parentheses (ordinary : quote ≠ '(' ∧ quote ≠ ')') {s : String}
    (balanced : Balanced quote s.toList) : Solitary quote ("(" ++ s ++ ")").toList := by
  have chars : ("(" ++ s ++ ")").toList = '(' :: (s.toList ++ [')']) := by simp
  rw [chars]
  exact solitary_bracket ordinary balanced

/-- A doubled quote character leaves a name and starts it again, so all of it is one chunk. -/
theorem doubled_chunk (shown : isBlank quote = false) (cs : List Char) :
    walk quote ⟨true, 0⟩ (doubled quote cs ++ [quote]) = some top ∧
      chunks quote ⟨true, 0⟩ (doubled quote cs ++ [quote]) = [doubled quote cs ++ [quote]] := by
  have opening : top.next quote quote = some ⟨true, 0⟩ := by simp [next, top]
  have closing : next quote ⟨true, 0⟩ quote = some top := by simp [next, top]
  have cut_outside : cut top quote = [[quote]] := by simp [cut, shown]
  have cut_inside (c : Char) : cut ⟨true, 0⟩ c = [[c]] := by simp [cut, top]
  induction cs with
  | nil =>
    constructor
    · simp [doubled, walk_cons, closing]
    · simp [doubled, chunks, cut_inside, glue]
  | cons c cs ih =>
    by_cases same : c = quote
    · have step : doubled quote (c :: cs) ++ [quote] =
          quote :: quote :: (doubled quote cs ++ [quote]) := by
        simp [doubled, replaceChar, same]
      rw [step]
      constructor
      · rw [walk_cons, closing, Option.bind_some, walk_cons, opening, Option.bind_some, ih.1]
      · rw [chunks, closing, Option.getD_some, chunks, opening, Option.getD_some, ih.2,
          cut_inside, cut_outside]
        rfl
    · have step : doubled quote (c :: cs) ++ [quote] = c :: (doubled quote cs ++ [quote]) := by
        simp [doubled, replaceChar, same]
      have stays : next quote ⟨true, 0⟩ c = some ⟨true, 0⟩ := by simp [next, same]
      rw [step]
      constructor
      · rw [walk_cons, stays, Option.bind_some, ih.1]
      · rw [chunks, stays, Option.getD_some, ih.2, cut_inside]
        rfl

theorem solitary_quoted (shown : isBlank quote = false) (s : String) :
    Solitary quote (quoted quote s).toList := by
  have opening : top.next quote quote = some ⟨true, 0⟩ := by simp [next, top]
  have first : cut top quote = [[quote]] := by simp [cut, shown]
  have chars : (quoted quote s).toList = quote :: (doubled quote s.toList ++ [quote]) := by
    simp [quoted]
  obtain ⟨walked, one⟩ := doubled_chunk shown s.toList
  rw [chars]
  constructor
  · unfold Balanced
    rw [walk_cons, opening, Option.bind_some, walked]
  · rw [chunks, opening, Option.getD_some, one, first]
    rfl

/-- A text without quotes, parentheses and blanks. -/
theorem solitary_of_plain {cs : List Char}
    (plain : ∀ c ∈ cs, top.next quote c = some top ∧ isBlank c = false) : Solitary quote cs := by
  induction cs with
  | nil => exact ⟨rfl, rfl⟩
  | cons c cs ih =>
    obtain ⟨stays, shown⟩ := plain c (by simp)
    obtain ⟨balanced, one⟩ := ih fun e member => plain e (by simp [member])
    constructor
    · unfold Balanced
      rw [walk_cons, stays, Option.bind_some, balanced]
    · rw [chunks, stays, Option.getD_some, one, cut, if_neg (by simp [shown])]
      rfl

/-- A text of letters and digits. -/
theorem solitary_of_alphanum (letter : quote.isAlphanum = false) {cs : List Char}
    (letters : ∀ c ∈ cs, c.isAlphanum = true) : Solitary quote cs := by
  apply solitary_of_plain
  intro c member
  have known := letters c member
  have other : c ≠ quote := by
    rintro rfl
    rw [known] at letter
    cases letter
  have opening : c ≠ '(' := by
    rintro rfl
    exact absurd known (by decide)
  have closing : c ≠ ')' := by
    rintro rfl
    exact absurd known (by decide)
  have range : 48 ≤ c.toNat ∧ c.toNat ≤ 122 := by
    have between {a b : UInt32} (bounds : a ≤ c.val ∧ c.val ≤ b) :
        a.toNat ≤ c.toNat ∧ c.toNat ≤ b.toNat :=
      ⟨UInt32.le_iff_toNat_le.mp bounds.1, UInt32.le_iff_toNat_le.mp bounds.2⟩
    rcases (Bool.or_eq_true _ _).mp known with letter | digit
    · rcases (Bool.or_eq_true _ _).mp letter with upper | lower
      · obtain ⟨low, high⟩ := between (of_decide_eq_true upper)
        exact ⟨le_trans (by decide) low, le_trans high (by decide)⟩
      · obtain ⟨left, right⟩ := (Bool.and_eq_true _ _).mp lower
        obtain ⟨low, high⟩ := between ⟨of_decide_eq_true left, of_decide_eq_true right⟩
        exact ⟨le_trans (by decide) low, le_trans high (by decide)⟩
    · obtain ⟨left, right⟩ := (Bool.and_eq_true _ _).mp digit
      obtain ⟨low, high⟩ := between ⟨of_decide_eq_true left, of_decide_eq_true right⟩
      exact ⟨le_trans (by decide) low, le_trans high (by decide)⟩
  refine ⟨by simp [next, top, other, opening, closing], ?_⟩
  simp only [isBlank, Bool.or_eq_false_iff, Bool.and_eq_false_iff, decide_eq_false_iff_not,
    beq_eq_false_iff_ne]
  omega

theorem solitary_toString (letter : quote.isAlphanum = false) (n : Nat) :
    Solitary quote (toString n).toList := by
  apply solitary_of_alphanum letter
  intro c member
  simp [Char.isAlphanum, isDigit_of_mem_toString member]

theorem toString_ne_empty (n : Nat) : toString n ≠ "" := by
  intro empty
  have digits : Nat.toDigits 10 n = [] := by
    rw [← Nat.toList_repr, ← Nat.toString_eq_repr, empty]
    rfl
  exact absurd digits Nat.toDigits_ne_nil

theorem toString_inj {m n : Nat} (same : toString m = toString n) : m = n := by
  rw [Nat.toString_eq_repr, Nat.toString_eq_repr, ← String.toList_inj, Nat.toList_repr,
    Nat.toList_repr] at same
  rw [← Nat.ofDigitChars_ten_toDigits (n := m), same, Nat.ofDigitChars_ten_toDigits]

/-! ## Blanks at the top -/

theorem next_blank (shown : isBlank quote = false) {c : Char} (blank : isBlank c = true)
    (s : Nesting) : s.next quote c = some s := by
  obtain ⟨inside, depth⟩ := s
  have other : c ≠ quote := by
    rintro rfl
    rw [shown] at blank
    cases blank
  have opening : c ≠ '(' := by
    rintro rfl
    exact absurd blank (by decide)
  have closing : c ≠ ')' := by
    rintro rfl
    exact absurd blank (by decide)
  cases inside <;> simp [next, other, opening, closing]

theorem chunks_blank (shown : isBlank quote = false) {c : Char} (blank : isBlank c = true)
    (cs : List Char) : chunks quote top (c :: cs) = [] :: chunks quote top cs := by
  rw [chunks, next_blank shown blank, Option.getD_some, cut, if_pos ⟨rfl, blank⟩]
  cases h : chunks quote top cs with
  | nil => exact absurd h (chunks_ne_nil _ _)
  | cons v r => rfl

theorem chunks_append_blank (shown : isBlank quote = false) {c : Char} (blank : isBlank c = true)
    {a : List Char} (balanced : Balanced quote a) (b : List Char) :
    chunks quote top (a ++ c :: b) = chunks quote top a ++ chunks quote top b := by
  rw [chunks_append balanced, chunks_blank shown blank, glue_empty_cons (chunks_ne_nil _ _)]

theorem words_space (shown : isBlank quote = false) {s : String}
    (balanced : Balanced quote s.toList) (t : String) :
    words quote (s ++ " " ++ t) = words quote s ++ words quote t := by
  have chars : (s ++ " " ++ t).toList = s.toList ++ ' ' :: t.toList := by simp
  unfold words
  rw [chars, chunks_append_blank shown (by decide) balanced, List.filter_append, List.map_append]

theorem balanced_space (shown : isBlank quote = false) {s t : String}
    (left : Balanced quote s.toList) (right : Balanced quote t.toList) :
    Balanced quote (s ++ " " ++ t).toList := by
  have chars : (s ++ " " ++ t).toList = s.toList ++ ' ' :: t.toList := by simp
  rw [chars]
  refine left.append ?_
  unfold Balanced
  rw [walk_cons, next_blank shown (by decide), Option.bind_some, right]

/-- Trimming takes away neither words nor balance. -/
structure SameWords (quote : Char) (a b : List Char) : Prop where
  balanced : Balanced quote a → Balanced quote b
  words : Balanced quote a →
    (chunks quote top b).filter (· ≠ []) = (chunks quote top a).filter (· ≠ [])

theorem sameWords_dropWhile (shown : isBlank quote = false) (cs : List Char) :
    SameWords quote cs (cs.dropWhile isBlank) := by
  induction cs with
  | nil => exact ⟨id, fun _ => rfl⟩
  | cons c cs ih =>
    by_cases blank : isBlank c = true
    · have rest : Balanced quote (c :: cs) → Balanced quote cs := by
        intro whole
        unfold Balanced at whole
        rwa [walk_cons, next_blank shown blank, Option.bind_some] at whole
      rw [List.dropWhile_cons_of_pos blank]
      refine ⟨fun whole => ih.balanced (rest whole), fun whole => ?_⟩
      rw [ih.words (rest whole), chunks_blank shown blank]
      rfl
    · rw [List.dropWhile_cons_of_neg blank]
      exact ⟨id, fun _ => rfl⟩

theorem sameWords_rdropWhile (shown : isBlank quote = false) (cs : List Char) :
    SameWords quote cs (cs.rdropWhile isBlank) := by
  induction cs using List.reverseRecOn with
  | nil => exact ⟨id, fun _ => rfl⟩
  | append_singleton cs c ih =>
    by_cases blank : isBlank c = true
    · have rest : Balanced quote (cs ++ [c]) → Balanced quote cs := by
        intro whole
        unfold Balanced at whole
        rw [walk_append] at whole
        obtain ⟨e, walked, step⟩ := Option.bind_eq_some_iff.mp whole
        rw [walk_cons, next_blank shown blank, Option.bind_some, walk_nil] at step
        rwa [Option.some.inj step] at walked
      rw [List.rdropWhile_concat_pos _ _ _ blank]
      refine ⟨fun whole => ih.balanced (rest whole), fun whole => ?_⟩
      rw [ih.words (rest whole), chunks_append_blank shown blank (rest whole), List.filter_append]
      simp [chunks]
    · rw [List.rdropWhile_concat_neg _ _ _ blank]
      exact ⟨id, fun _ => rfl⟩

theorem balanced_trimEnd (shown : isBlank quote = false) {s : String}
    (balanced : Balanced quote s.toList) : Balanced quote (trimEnd s).toList := by
  have kept := (sameWords_rdropWhile shown s.toList).balanced balanced
  simpa [trimEnd, dropBlankEnd, dropBlank, List.rdropWhile] using kept

theorem words_trimEnd (shown : isBlank quote = false) {s : String}
    (balanced : Balanced quote s.toList) : words quote (trimEnd s) = words quote s := by
  have kept := (sameWords_rdropWhile shown s.toList).words balanced
  have chars : (trimEnd s).toList = s.toList.rdropWhile isBlank := by
    simp [trimEnd, dropBlankEnd, dropBlank, List.rdropWhile]
  unfold words
  rw [chars, kept]

theorem balanced_trim (shown : isBlank quote = false) {s : String}
    (balanced : Balanced quote s.toList) : Balanced quote (trim s).toList := by
  have front := (sameWords_dropWhile shown s.toList).balanced balanced
  have kept := (sameWords_rdropWhile shown _).balanced front
  simpa [trim, trimBlank, dropBlankEnd, dropBlank, List.rdropWhile] using kept

theorem words_trim (shown : isBlank quote = false) {s : String}
    (balanced : Balanced quote s.toList) : words quote (trim s) = words quote s := by
  have front := sameWords_dropWhile shown s.toList
  have kept := (sameWords_rdropWhile shown _).words (front.balanced balanced)
  have chars : (trim s).toList = (s.toList.dropWhile isBlank).rdropWhile isBlank := by
    simp [trim, trimBlank, dropBlankEnd, dropBlank, List.rdropWhile]
  unfold words
  rw [chars, kept, front.words balanced]

/-- The words of clauses are those of each clause in turn. -/
theorem words_concatenate (shown : isBlank quote = false) {texts : List String}
    (balanced : ∀ s ∈ texts, Balanced quote s.toList) :
    words quote (concatenate texts) = texts.flatMap (words quote) := by
  induction texts with
  | nil => rfl
  | cons s texts ih =>
    have first := balanced s (by simp)
    have rest := ih fun t member => balanced t (by simp [member])
    rw [concatenate_cons, List.flatMap_cons, ← rest]
    by_cases blank : trim s = ""
    · rw [if_pos blank, ← words_trim shown first, blank]
      rfl
    · rw [if_neg blank]
      by_cases done : concatenate texts = ""
      · rw [if_pos done, done, words_trim shown first]
        simp
      · rw [if_neg done, words_space shown (balanced_trim shown first), words_trim shown first]

end Text
end SqlCompose
