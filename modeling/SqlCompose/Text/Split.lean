/-!
# Splitting and joining

Dotted names are split at each dot, aliased names at the first ` as ` in any mix of ASCII cases, and
lists are joined with a separator. A character is replaced throughout, a text where it stands first.
-/
namespace SqlCompose.Text

/-- The parts between the separators; there is always at least one. -/
def splitAt (sep : Char) : List Char → List (List Char)
  | [] => [[]]
  | c :: cs =>
    if c = sep then [] :: splitAt sep cs
    else match splitAt sep cs with
      | [] => [[c]]
      | part :: parts => (c :: part) :: parts

theorem splitAt_ne_nil (sep : Char) (cs : List Char) : splitAt sep cs ≠ [] := by
  cases cs with
  | nil => simp [splitAt]
  | cons c cs =>
    unfold splitAt
    split
    · simp
    · split <;> simp

theorem splitAt_of_not_mem {sep : Char} {cs : List Char} (never : sep ∉ cs) : splitAt sep cs = [cs] := by
  induction cs with
  | nil => rfl
  | cons c cs ih =>
    rw [List.mem_cons, not_or] at never
    rw [splitAt, if_neg (Ne.symm never.1), ih never.2]

theorem length_splitAt (sep : Char) (cs : List Char) : (splitAt sep cs).length = cs.count sep + 1 := by
  induction cs with
  | nil => rfl
  | cons c cs ih =>
    by_cases same : c = sep
    · simp [splitAt, same, ih]
    · rw [splitAt, if_neg same, List.count_cons_of_ne same, ← ih]
      cases parts : splitAt sep cs with
      | nil => exact absurd parts (splitAt_ne_nil sep cs)
      | cons part parts => rfl

/-- The parts are those of the library's `List.splitOn`. -/
theorem splitAt_eq_splitOn (sep : Char) (cs : List Char) : splitAt sep cs = cs.splitOn sep := by
  induction cs with
  | nil => rfl
  | cons c cs ih =>
    rw [List.splitOn_eq_splitOnP, List.splitOnP_cons_eq_if_modifyHead, ← List.splitOn_eq_splitOnP, ← ih,
      splitAt]
    by_cases same : c = sep
    · simp [same]
    · rw [if_neg same, if_neg (by simpa using same)]
      cases parts : splitAt sep cs with
      | nil => exact absurd parts (splitAt_ne_nil sep cs)
      | cons part parts => rfl

theorem splitAt_parted (sep : Char) (a b : List Char) :
    splitAt sep (a ++ sep :: b) = splitAt sep a ++ splitAt sep b := by
  induction a with
  | nil => simp [splitAt]
  | cons c a ih =>
    rw [List.cons_append, splitAt, splitAt, ih]
    split
    · rfl
    · cases parts : splitAt sep a with
      | nil => exact absurd parts (splitAt_ne_nil sep a)
      | cons part parts => rfl

/-- What holds no separator stands in front of the first part. -/
theorem splitAt_front {sep : Char} {front : List Char} (never : sep ∉ front) (cs : List Char) :
    splitAt sep (front ++ cs) = (splitAt sep cs).modifyHead (front ++ ·) := by
  induction front with
  | nil =>
    rw [List.nil_append]
    cases splitAt sep cs <;> rfl
  | cons c front ih =>
    rw [List.mem_cons, not_or] at never
    rw [List.cons_append, splitAt, if_neg (Ne.symm never.1), ih never.2]
    cases parts : splitAt sep cs with
    | nil => exact absurd parts (splitAt_ne_nil sep cs)
    | cons part parts => rfl

/-- The text after ` as `, if the list starts with it. -/
def afterAs? : List Char → Option (List Char)
  | ' ' :: a :: s :: ' ' :: rest =>
    if (a = 'a' ∨ a = 'A') ∧ (s = 's' ∨ s = 'S') then some rest else none
  | _ => none

/-- The texts before and after the first ` as `. -/
def splitAs? : List Char → Option (List Char × List Char)
  | [] => none
  | c :: cs =>
    match afterAs? (c :: cs) with
    | some rest => some ([], rest)
    | none => (splitAs? cs).map fun (base, knownAs) => (c :: base, knownAs)

/-- The list joined with `sep` between the items. -/
def joinWith (sep : String) : List String → String
  | [] => ""
  | [s] => s
  | s :: t :: rest => s ++ sep ++ joinWith sep (t :: rest)

@[simp] theorem joinWith_nil (sep : String) : joinWith sep [] = "" := rfl

@[simp] theorem joinWith_singleton (sep s : String) : joinWith sep [s] = s := rfl

@[simp] theorem joinWith_cons_cons (sep s t : String) (rest : List String) :
    joinWith sep (s :: t :: rest) = s ++ sep ++ joinWith sep (t :: rest) := rfl

/-- Every occurrence of one character becomes a text. -/
def replaceChar (old : Char) (new : List Char) : List Char → List Char
  | [] => []
  | c :: cs => if c = old then new ++ replaceChar old new cs else c :: replaceChar old new cs

@[simp] theorem replaceChar_nil (old : Char) (new : List Char) : replaceChar old new [] = [] := rfl

/-- The first occurrence of one text becomes another. -/
def replaceFirst (old new : List Char) : List Char → List Char
  | [] => if old = [] then new else []
  | c :: cs =>
    if old.isPrefixOf (c :: cs) then new ++ (c :: cs).drop old.length
    else c :: replaceFirst old new cs

/-- What a text starts with is its first occurrence. -/
theorem replaceFirst_front (old new rest : List Char) :
    replaceFirst old new (old ++ rest) = new ++ rest := by
  cases whole : old ++ rest with
  | nil =>
    obtain ⟨rfl, rfl⟩ := List.append_eq_nil_iff.mp whole
    simp [replaceFirst]
  | cons c cs =>
    have front : old.isPrefixOf (c :: cs) = true := by
      rw [← whole, List.isPrefixOf_iff_prefix]
      exact List.prefix_append old rest
    rw [replaceFirst, if_pos front, ← whole, List.drop_left]

end SqlCompose.Text
