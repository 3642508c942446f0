import SqlCompose.Proofs.Unions.Legible

/-!
# What closes a select

Behind the clauses of a select, and again behind the queries of a union, stand an order, bounds and a
lock. Each of these texts starts with a closing word and has no other, and its words determine it, so
a row of words determines the texts that it is made of.
-/
namespace SqlCompose

open Text (Balanced Solitary)

/-- Two lists that change from one kind of items to another at their parting. -/
theorem parted_inj {α : Type} {p : α → Prop} {a a' r r' : List α} (before : ∀ x ∈ a, ¬ p x)
    (before' : ∀ x ∈ a', ¬ p x) (behind : ∀ x ∈ r.head?, p x) (behind' : ∀ x ∈ r'.head?, p x)
    (same : a ++ r = a' ++ r') : a = a' ∧ r = r' := by
  induction a generalizing a' with
  | nil =>
    cases a' with
    | nil => exact ⟨rfl, same⟩
    | cons x a' =>
      have first : r.head? = some x := by
        rw [show r = x :: (a' ++ r') from same]
        rfl
      exact absurd (behind x first) (before' x (by simp))
  | cons x a ih =>
    cases a' with
    | nil =>
      have first : r'.head? = some x := by
        rw [show r' = x :: (a ++ r) from same.symm]
        rfl
      exact absurd (behind' x first) (before x (by simp))
    | cons y a' =>
      rw [List.cons_append, List.cons_append, List.cons.injEq] at same
      obtain ⟨rfl, rest⟩ := same
      obtain ⟨rfl, tail⟩ := ih (fun z member => before z (by simp [member]))
        (fun z member => before' z (by simp [member])) rest
      exact ⟨rfl, tail⟩

theorem Text.length_joinWith_space {ws : List String} (some : ws ≠ []) :
    (joinWith " " ws).length + 1 = (ws.map String.toList).flatten.length + ws.length := by
  induction ws with
  | nil => exact absurd rfl some
  | cons w ws ih =>
    cases ws with
    | nil => simp [String.length_toList]
    | cons v ws =>
      have rest := ih (by simp)
      rw [joinWith_cons_cons, String.length_append, String.length_append, List.map_cons,
        List.flatten_cons, List.length_append, List.length_cons, String.length_toList]
      rw [show " ".length = 1 from rfl]
      omega

/-- A text that is its words with single spaces between them. -/
structure Tight (quote : Char) (s : String) (ws : List String) : Prop where
  balanced : Balanced quote s.toList
  words : Text.words quote s = ws
  some : ws ≠ []
  joined : s = Text.joinWith " " ws

namespace Tight

variable {quote : Char} {s t : String} {ws us : List String}

theorem word (solitary : Solitary quote s.toList) (some : s ≠ "") : Tight quote s [s] :=
  ⟨solitary.1, Text.words_of_solitary solitary some, by simp, rfl⟩

theorem space (shown : Text.isBlank quote = false) (left : Tight quote s ws)
    (right : Tight quote t us) : Tight quote (s ++ " " ++ t) (ws ++ us) where
  balanced := Text.balanced_space shown left.balanced right.balanced
  words := by rw [Text.words_space shown left.balanced, left.words, right.words]
  some := by simp [left.some]
  joined := by rw [Text.joinWith_append " " left.some right.some, ← left.joined, ← right.joined]

/-- Words with single spaces between them leave no empty chunk. -/
theorem chunks (tight : Tight quote s ws) :
    Text.chunks quote .top s.toList = ws.map String.toList := by
  have kept : (Text.chunks quote .top s.toList).filter (· ≠ []) = ws.map String.toList := by
    simp [← tight.words, Text.words, Function.comp_def]
  have size := @Text.length_chunks quote .top s.toList
  have joined := Text.length_joinWith_space tight.some
  rw [← tight.joined] at joined
  have texts : (Text.chunks quote .top s.toList).flatten = (ws.map String.toList).flatten := by
    rw [← kept, List.flatten_filter_ne_nil]
  rw [← kept]
  symm
  rw [List.filter_eq_self, ← List.length_filter_eq_length_iff, kept]
  rw [texts, String.length_toList] at size
  rw [List.length_map]
  omega

/-- What has no blank at the top becomes part of the last word. -/
theorem behind (tight : Tight quote s ws) (solitary : Solitary quote t.toList) :
    ∃ front last, ws = front ++ [last] ∧ Tight quote (s ++ t) (front ++ [last ++ t]) := by
  obtain ⟨front, last, rfl⟩ := (List.eq_nil_or_concat ws).resolve_left tight.some
  rw [List.concat_eq_append] at tight ⊢
  refine ⟨front, last, rfl, ?_, ?_, by simp, ?_⟩
  · rw [String.toList_append]
    exact tight.balanced.append solitary.1
  · have split : Text.chunks quote .top (s ++ t).toList =
        (front ++ [last ++ t]).map String.toList := by
      rw [String.toList_append, Text.chunks_append tight.balanced, tight.chunks, solitary.2,
        List.map_append, List.map_singleton, Text.glue_append_singleton]
      simp
    have filled : ∀ w ∈ front ++ [last], w ≠ "" := by
      intro w member
      rw [← tight.words] at member
      obtain ⟨cs, kept, rfl⟩ := List.mem_map.mp member
      simpa using (List.mem_filter.mp kept).2
    unfold Text.words
    rw [split, List.filter_eq_self.mpr]
    · simp [Function.comp_def]
    · intro cs member
      obtain ⟨w, inside, rfl⟩ := List.mem_map.mp member
      rcases List.mem_append.mp inside with early | late
      · simpa using filled w (List.mem_append_left _ early)
      · obtain rfl := List.mem_singleton.mp late
        simp [filled last (by simp)]
  · rw [tight.joined]
    by_cases alone : front = []
    · simp [alone]
    · rw [Text.joinWith_append " " alone (by simp), Text.joinWith_append " " alone (by simp)]
      simp [String.append_assoc]

/-- A word of letters. -/
theorem letters (quotes : Quotes quote) (letters : s.toList.all Char.isAlphanum = true)
    (some : s ≠ "") : Tight quote s [s] :=
  word (Text.solitary_of_alphanum quotes.letter (List.all_eq_true.mp letters)) some

/-- A bound is its keyword and a number. -/
theorem number (quotes : Quotes quote) {k : String} (known : k ∈ closingWords) (n : Nat) :
    Tight quote (k ++ " " ++ toString n) [k, toString n] := by
  have closing : ∀ k ∈ closingWords, k.toList.all Char.isAlphanum = true ∧ k ≠ "" := by decide
  obtain ⟨known_letters, some⟩ := closing k known
  exact (letters quotes known_letters some).space quotes.shown
    (.word (Text.solitary_toString quotes.letter n) (Text.toString_ne_empty n))

theorem number_plain (n : Nat) : toString n ∉ closingWords := by
  have letters : ∀ k ∈ closingWords, k.toList.all Char.isDigit = false := by decide
  intro known
  have digits := List.all_eq_true.mpr fun c member => Text.isDigit_of_mem_toString (n := n) member
  rw [letters _ known] at digits
  cases digits

end Tight

/-- An order, a bound or a lock: a word that starts one, and then no closing word. -/
def IsClosing (quote : Char) (s : String) : Prop :=
  ∃ k ws, k ∈ boundingWords ∧ (∀ w ∈ ws, w ∉ closingWords) ∧ Tight quote s (k :: ws)

theorem IsClosing.head {quote : Char} {texts : List String}
    (closing : ∀ s ∈ texts, IsClosing quote s) :
    ∀ w ∈ (texts.flatMap (Text.words quote)).head?, w ∈ boundingWords := by
  cases texts with
  | nil => simp
  | cons s texts =>
    obtain ⟨k, ws, known, _, tight⟩ := closing s (by simp)
    simp [tight.words, known]

theorem closing_of_bounding {k : String} (known : k ∈ boundingWords) : k ∈ closingWords :=
  List.mem_append_left _ known

/-- The texts that close a select are determined by their words, one after another. -/
theorem IsClosing.texts_inj {quote : Char} {texts texts' : List String}
    (closing : ∀ s ∈ texts, IsClosing quote s) (closing' : ∀ s ∈ texts', IsClosing quote s)
    (same : texts.flatMap (Text.words quote) = texts'.flatMap (Text.words quote)) :
    texts = texts' := by
  induction texts generalizing texts' with
  | nil =>
    cases texts' with
    | nil => rfl
    | cons s texts' =>
      obtain ⟨k, ws, _, _, tight⟩ := closing' s (by simp)
      simp [tight.words] at same
  | cons s texts ih =>
    cases texts' with
    | nil =>
      obtain ⟨k, ws, _, _, tight⟩ := closing s (by simp)
      simp [tight.words] at same
    | cons s' texts' =>
      obtain ⟨k, ws, _, plain, tight⟩ := closing s (by simp)
      obtain ⟨k', ws', _, plain', tight'⟩ := closing' s' (by simp)
      have rest : ∀ t ∈ texts, IsClosing quote t := fun t member => closing t (by simp [member])
      have rest' : ∀ t ∈ texts', IsClosing quote t := fun t member => closing' t (by simp [member])
      rw [List.flatMap_cons, List.flatMap_cons, tight.words, tight'.words, List.cons_append,
        List.cons_append, List.cons.injEq] at same
      obtain ⟨rfl, others⟩ := same
      obtain ⟨rfl, later⟩ := parted_inj (p := (· ∈ closingWords)) plain plain'
        (fun w first => closing_of_bounding (head rest w first))
        (fun w first => closing_of_bounding (head rest' w first)) others
      rw [ih rest rest' later, tight.joined, tight'.joined]

/-- A bound as written, if there is one. -/
def boundText (keyword : String) (bound : Option UInt64) : List String :=
  (bound.map fun n => keyword ++ " " ++ toString n.toNat).toList

theorem boundText_tight {quote : Char} (quotes : Quotes quote) {k s : String}
    {bound : Option UInt64} (known : k ∈ closingWords) (member : s ∈ boundText k bound) :
    ∃ n : Nat, Tight quote s [k, toString n] := by
  obtain ⟨n, _, rfl⟩ := Option.map_eq_some_iff.mp (Option.mem_toList.mp member)
  exact ⟨n.toNat, .number quotes known n.toNat⟩

theorem boundText_inj {k : String} {a b : Option UInt64} (same : boundText k a = boundText k b) :
    a = b := by
  cases a with
  | none => cases b <;> simp_all [boundText]
  | some m =>
    cases b with
    | none => simp [boundText] at same
    | some n =>
      have text : k ++ " " ++ toString m.toNat = k ++ " " ++ toString n.toNat := by
        simpa only [boundText, Option.map_some, Option.toList_some, List.cons.injEq, and_true]
          using same
      have digits := Text.toString_inj ((String.append_right_inj _).mp text)
      rw [UInt64.toNat_inj.mp digits]

/-- The bounds as they are written one by one. -/
def Bounds.texts (b : Bounds) : List String := boundText "limit" b.limit ++ boundText "offset" b.offset

/-- The words of a bound. -/
def Bounds.wordsOf (keyword : String) (bound : Option UInt64) : List String :=
  match bound with
  | none => []
  | some n => [keyword, toString n.toNat]

theorem Bounds.words_texts {quote : Char} (quotes : Quotes quote) (b : Bounds) :
    b.texts.flatMap (Text.words quote) = wordsOf "limit" b.limit ++ wordsOf "offset" b.offset := by
  have each (k : String) (known : k ∈ closingWords) (bound : Option UInt64) :
      (boundText k bound).flatMap (Text.words quote) = wordsOf k bound := by
    cases bound with
    | none => rfl
    | some n => simpa [boundText, wordsOf] using (Tight.number quotes known n.toNat).words
  rw [texts, List.flatMap_append, each "limit" (by decide), each "offset" (by decide)]

/-- The order, the bounds and the lock of a select, as written. -/
structure Closing where
  order : String
  bounds : Bounds
  lock : String

namespace Closing

variable {quote : Char} {c c' : Closing}

/-- A text that is left out when it is empty. -/
def shownText (s : String) : List String := if s = "" then [] else [s]

theorem shownText_inj {s t : String} (same : shownText s = shownText t) : s = t := by
  unfold shownText at same
  by_cases hs : s = "" <;> by_cases ht : t = "" <;> simp_all

/-- The texts of what closes a select, without those that are empty. -/
def texts (c : Closing) : List String := shownText c.order ++ (c.bounds.texts ++ shownText c.lock)

/-- Each text starts with the word of its kind. -/
structure Proper (quote : Char) (c : Closing) : Prop where
  order : ∀ s ∈ shownText c.order, ∃ ws, (∀ w ∈ ws, w ∉ closingWords) ∧
    Tight quote s ("order" :: ws)
  lock : ∀ s ∈ shownText c.lock, ∃ k ws, k ∈ ["for", "lock"] ∧ (∀ w ∈ ws, w ∉ closingWords) ∧
    Tight quote s (k :: ws)

/-- The word that a text starts with. -/
def starts (quote : Char) (k s : String) : Prop := (Text.words quote s).head? = some k

theorem starts_boundText (quotes : Quotes quote) {k : String} (known : k ∈ closingWords)
    (bound : Option UInt64) : ∀ s ∈ boundText k bound, starts quote k s := by
  intro s member
  obtain ⟨n, tight⟩ := boundText_tight quotes known member
  rw [starts, tight.words]
  rfl

theorem isClosing_bounds (quotes : Quotes quote) (b : Bounds) :
    ∀ s ∈ b.texts, IsClosing quote s := by
  have each (k : String) (known : k ∈ boundingWords) (bound : Option UInt64) :
      ∀ s ∈ boundText k bound, IsClosing quote s := by
    intro s member
    obtain ⟨n, tight⟩ := boundText_tight quotes (closing_of_bounding known) member
    refine ⟨k, [toString n], known, ?_, tight⟩
    simpa using Tight.number_plain n
  intro s member
  rcases List.mem_append.mp member with member | member
  · exact each "limit" (by decide) _ s member
  · exact each "offset" (by decide) _ s member

theorem Proper.isClosing (proper : c.Proper quote) (quotes : Quotes quote) :
    ∀ s ∈ c.texts, IsClosing quote s := by
  intro s member
  rcases List.mem_append.mp member with order | member
  · obtain ⟨ws, plain, tight⟩ := proper.order s order
    exact ⟨"order", ws, by decide, plain, tight⟩
  · rcases List.mem_append.mp member with bound | lock
    · exact isClosing_bounds quotes _ s bound
    · obtain ⟨k, ws, known, plain, tight⟩ := proper.lock s lock
      have closing : ∀ k ∈ ["for", "lock"], k ∈ boundingWords := by decide
      exact ⟨k, ws, closing k known, plain, tight⟩

theorem Proper.starts_lock (proper : c.Proper quote) :
    ∀ s ∈ shownText c.lock, starts quote "for" s ∨ starts quote "lock" s := by
  intro s member
  obtain ⟨k, ws, known, _, tight⟩ := proper.lock s member
  rw [starts, starts, tight.words]
  simpa using known

theorem other_start {k k' s : String} (here : starts quote k s) (apart : k ≠ k') :
    ¬ starts quote k' s := by
  intro there
  rw [starts, here] at there
  exact apart (Option.some.inj there)

/-- A bound and what stands behind it, told apart by the first words. -/
theorem bound_inj (quotes : Quotes quote) {k : String} (known : k ∈ closingWords)
    {a a' : Option UInt64} {r r' : List String} (behind : ∀ s ∈ r, ¬ starts quote k s)
    (behind' : ∀ s ∈ r', ¬ starts quote k s) (same : boundText k a ++ r = boundText k a' ++ r') :
    a = a' ∧ r = r' := by
  have here (bound : Option UInt64) : ∀ s ∈ boundText k bound, ¬ ¬ starts quote k s :=
    fun s member => not_not_intro (starts_boundText quotes known bound s member)
  obtain ⟨bounds, rest⟩ := parted_inj (p := fun s => ¬ starts quote k s) (here a) (here a')
    (fun s head => behind s (List.mem_of_mem_head? head))
    (fun s head => behind' s (List.mem_of_mem_head? head)) same
  exact ⟨boundText_inj bounds, rest⟩

/-- Behind the order no text starts like one, and so on for the other kinds. -/
theorem Proper.starts_behind (proper : c.Proper quote) (quotes : Quotes quote) :
    (∀ s ∈ shownText c.order, starts quote "order" s) ∧
    (∀ s ∈ c.bounds.texts ++ shownText c.lock, ¬ starts quote "order" s) ∧
    (∀ s ∈ boundText "offset" c.bounds.offset ++ shownText c.lock, ¬ starts quote "limit" s) ∧
    (∀ s ∈ shownText c.lock, ¬ starts quote "offset" s) := by
  have limit := starts_boundText quotes (by decide : "limit" ∈ closingWords) c.bounds.limit
  have offset := starts_boundText quotes (by decide : "offset" ∈ closingWords) c.bounds.offset
  have lock (k : String) (apart : "for" ≠ k ∧ "lock" ≠ k) :
      ∀ s ∈ shownText c.lock, ¬ starts quote k s := by
    intro s member
    rcases proper.starts_lock s member with here | here
    · exact other_start here apart.1
    · exact other_start here apart.2
  refine ⟨?_, ?_, ?_, lock "offset" (by decide)⟩
  · intro s member
    obtain ⟨ws, _, tight⟩ := proper.order s member
    rw [starts, tight.words, List.head?_cons]
  · intro s member
    rcases List.mem_append.mp member with bound | locked
    · rcases List.mem_append.mp bound with bound | bound
      · exact other_start (limit s bound) (by decide)
      · exact other_start (offset s bound) (by decide)
    · exact lock "order" (by decide) s locked
  · intro s member
    rcases List.mem_append.mp member with bound | locked
    · exact other_start (offset s bound) (by decide)
    · exact lock "limit" (by decide) s locked

/-- What closes a select is determined by its texts: each kind of text ends where the next starts. -/
theorem Proper.texts_inj (proper : c.Proper quote) (proper' : c'.Proper quote)
    (quotes : Quotes quote) (same : c.texts = c'.texts) : c = c' := by
  obtain ⟨order, bounds, offset, lock⟩ := proper.starts_behind quotes
  obtain ⟨order', bounds', offset', lock'⟩ := proper'.starts_behind quotes
  obtain ⟨orders, rest⟩ := parted_inj (p := fun s => ¬ starts quote "order" s)
    (fun s member => not_not_intro (order s member))
    (fun s member => not_not_intro (order' s member))
    (fun s head => bounds s (List.mem_of_mem_head? head))
    (fun s head => bounds' s (List.mem_of_mem_head? head)) same
  rw [Bounds.texts, Bounds.texts, List.append_assoc, List.append_assoc] at rest
  obtain ⟨limits, rest⟩ := bound_inj quotes (by decide) offset offset' rest
  obtain ⟨offsets, locks⟩ := bound_inj quotes (by decide) lock lock' rest
  obtain ⟨first, ⟨limit, skipped⟩, last⟩ := c
  obtain ⟨first', ⟨limit', skipped'⟩, last'⟩ := c'
  cases shownText_inj orders
  cases shownText_inj locks
  cases limits
  cases offsets
  rfl

end Closing
end SqlCompose
