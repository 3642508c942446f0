/-!
# Entries in key order

Lists of key and value pairs in strictly ascending code-point order of the keys. Inserting keeps the
order and replaces the value of a key that is there.
-/
namespace SqlCompose.Keyed

universe u

variable {α : Type u}

def insert (key : String) (value : α) : List (String × α) → List (String × α)
  | [] => [(key, value)]
  | (k, v) :: rest =>
    if key < k then (key, value) :: (k, v) :: rest
    else if key = k then (key, value) :: rest
    else (k, v) :: insert key value rest

/-- The entries inserted one after another, so the last value of a key stays. -/
def ofList (entries : List (String × α)) : List (String × α) :=
  entries.foldl (fun done (k, v) => insert k v done) []

/-- Each key is less than every later one. -/
def Sorted (entries : List (String × α)) : Prop := entries.Pairwise (·.1 < ·.1)

theorem mem_insert {key : String} {value : α} {entries : List (String × α)} {e : String × α}
    (h : e ∈ insert key value entries) : e = (key, value) ∨ e ∈ entries := by
  induction entries with
  | nil => simpa [insert] using h
  | cons head rest ih =>
    obtain ⟨k, v⟩ := head
    unfold insert at h
    split at h
    · simpa using h
    · split at h
      · rcases List.mem_cons.1 h with h | h
        · exact .inl h
        · exact .inr (List.mem_cons_of_mem _ h)
      · rcases List.mem_cons.1 h with h | h
        · exact .inr (h ▸ List.mem_cons_self)
        · rcases ih h with h | h
          · exact .inl h
          · exact .inr (List.mem_cons_of_mem _ h)

theorem sorted_insert {entries : List (String × α)} (key : String) (value : α)
    (h : Sorted entries) : Sorted (insert key value entries) := by
  unfold Sorted at *
  induction entries with
  | nil => simp [insert]
  | cons head rest ih =>
    obtain ⟨k, v⟩ := head
    have hrest := List.pairwise_cons.1 h
    unfold insert
    split
    · rename_i below
      refine List.pairwise_cons.2 ⟨fun e he => ?_, h⟩
      rcases List.mem_cons.1 he with he | he
      · exact he ▸ below
      · exact String.lt_trans below (hrest.1 e he)
    · rename_i not_below
      split
      · rename_i same
        subst same
        exact List.pairwise_cons.2 ⟨hrest.1, hrest.2⟩
      · rename_i other
        refine List.pairwise_cons.2 ⟨fun e he => ?_, ih hrest.2⟩
        rcases mem_insert he with he | he
        · subst he
          have hle : k ≤ key := String.not_lt.1 not_below
          exact Decidable.byContradiction fun above =>
            other (String.le_antisymm (String.not_lt.1 above) hle)
        · exact hrest.1 e he

theorem sorted_ofList (entries : List (String × α)) : Sorted (ofList entries) := by
  have step (done : List (String × α)) (h : Sorted done) :
      Sorted (entries.foldl (fun done (k, v) => insert k v done) done) := by
    induction entries generalizing done with
    | nil => exact h
    | cons e rest ih => exact ih _ (sorted_insert e.1 e.2 h)
  exact step [] List.Pairwise.nil

theorem mem_ofList {entries : List (String × α)} {e : String × α} (h : e ∈ ofList entries) :
    e ∈ entries := by
  have step (rest done : List (String × α))
      (member : e ∈ rest.foldl (fun done (k, v) => insert k v done) done) : e ∈ done ∨ e ∈ rest := by
    induction rest generalizing done with
    | nil => exact .inl member
    | cons head rest ih =>
      rcases ih _ member with earlier | later
      · rcases mem_insert earlier with here | before
        · exact .inr (here ▸ List.mem_cons_self)
        · exact .inl before
      · exact .inr (List.mem_cons_of_mem _ later)
  exact (step entries [] h).resolve_left List.not_mem_nil

/-- A key above all others goes to the end. -/
theorem insert_above {key : String} {value : α} {entries : List (String × α)}
    (above : ∀ e ∈ entries, e.1 < key) : insert key value entries = entries ++ [(key, value)] := by
  induction entries with
  | nil => rfl
  | cons head rest ih =>
    have head_below : head.1 < key := above head (by simp)
    have other : key ≠ head.1 := fun same => String.lt_irrefl _ (same ▸ head_below)
    have not_below : ¬ key < head.1 := fun below =>
      String.lt_irrefl _ (String.lt_trans below head_below)
    rw [insert, if_neg not_below, if_neg other, ih fun e member => above e (by simp [member])]
    rfl

theorem ofList_eq_self {entries : List (String × α)} (sorted : Sorted entries) :
    ofList entries = entries := by
  have step (done : List (String × α)) (whole : Sorted (done ++ entries)) :
      entries.foldl (fun done (k, v) => insert k v done) done = done ++ entries := by
    induction entries generalizing done with
    | nil => simp
    | cons e rest ih =>
      have above : ∀ d ∈ done, d.1 < e.1 := by
        intro d member
        exact (List.pairwise_append.mp whole).2.2 d member e (by simp)
      have placed : insert e.1 e.2 done = done ++ [e] := insert_above above
      show rest.foldl _ (insert e.1 e.2 done) = _
      rw [placed, ih (List.pairwise_cons.mp sorted).2 _ (by simpa using whole)]
      simp
  exact step [] sorted

end SqlCompose.Keyed
