import SqlCompose.Proofs.Unions.Closing

/-!
# Union trees

A union tree has what closes each select and each union of a query, at its place. Where the queries of
a union stand in parentheses, the text determines the tree. Where they stand bare, the text determines
the row of marks that is left of the tree without its parentheses.
-/
namespace SqlCompose

mutual
/-- What closes a query and, if it is a union, its first and its united queries. -/
inductive UnionTree where
  | select (own : Closing)
  | union (first : Closing) (members : List UnitedTree) (whole : Closing)

structure UnitedTree where
  all : Bool
  tree : UnionTree
end

/-- The words that start a united query. -/
def unionWords (all : Bool) : List String := if all then ["union", "all"] else ["union"]

/-- The words of a query of a union, in parentheses or bare. -/
def queryWords (quote : Char) (brackets : Bool) (s : String) : List String :=
  if brackets then ["(" ++ s ++ ")"] else Text.words quote s

/-- The words of the clauses of a select. -/
structure IsBody (body : List String) : Prop where
  head : body.head? = some "select"
  plain : ∀ w ∈ body, w ∉ closingWords

/-- The text of a select without united queries. -/
structure IsSelect (quote : Char) (own : Closing) (s : String) : Prop where
  proper : own.Proper quote
  balanced : Text.Balanced quote s.toList
  words : ∃ body, IsBody body ∧ Text.words quote s = body ++ own.texts.flatMap (Text.words quote)

mutual
/-- The text of a query with this tree. -/
inductive Written (quote : Char) (brackets : Bool) : UnionTree → String → Prop
  | select {own : Closing} {s : String} (alone : IsSelect quote own s) :
    Written quote brackets (.select own) s
  | union {first whole : Closing} {members : List UnitedTree} {s t : String} {ws : List String}
    (leading : IsSelect quote first s) (united : MembersWritten quote brackets members ws)
    (some : members ≠ []) (proper : whole.Proper quote)
    (words : Text.words quote t =
      queryWords quote brackets s ++ (ws ++ whole.texts.flatMap (Text.words quote))) :
    Written quote brackets (.union first members whole) t

/-- The words of united queries, one after another. -/
inductive MembersWritten (quote : Char) (brackets : Bool) : List UnitedTree → List String → Prop
  | nil : MembersWritten quote brackets [] []
  | cons {all : Bool} {tree : UnionTree} {members : List UnitedTree} {s : String} {ws : List String}
    (one : Written quote brackets tree s) (others : MembersWritten quote brackets members ws) :
    MembersWritten quote brackets (⟨all, tree⟩ :: members)
      (unionWords all ++ (queryWords quote brackets s ++ ws))
end

theorem unionWords_head (all : Bool) (ws : List String) :
    (unionWords all ++ ws).head? = some "union" := by
  cases all <;> rfl

variable {quote : Char}

theorem IsSelect.head {own : Closing} {s : String} (alone : IsSelect quote own s) :
    (Text.words quote s).head? = some "select" := by
  obtain ⟨body, isBody, words⟩ := alone.words
  rw [words, List.head?_append, isBody.head]
  rfl

theorem IsSelect.own_inj {own own' : Closing} {s s' : String} (quotes : Quotes quote)
    (alone : IsSelect quote own s) (alone' : IsSelect quote own' s')
    (same : Text.words quote s = Text.words quote s') : own = own' := by
  obtain ⟨body, isBody, words⟩ := alone.words
  obtain ⟨body', isBody', words'⟩ := alone'.words
  have closing := alone.proper.isClosing quotes
  have closing' := alone'.proper.isClosing quotes
  rw [words, words'] at same
  obtain ⟨_, texts⟩ := parted_inj (p := (· ∈ closingWords)) isBody.plain isBody'.plain
    (fun w first => closing_of_bounding (IsClosing.head closing w first))
    (fun w first => closing_of_bounding (IsClosing.head closing' w first)) same
  exact alone.proper.texts_inj alone'.proper quotes (IsClosing.texts_inj closing closing' texts)

/-! ## In parentheses -/

theorem bracket_inj {s t : String} (same : "(" ++ s ++ ")" = "(" ++ t ++ ")") : s = t :=
  (String.append_right_inj _).mp ((String.append_left_inj _).mp same)

theorem bracket_ne {s t : String} (opening : t.toList.head? ≠ some '(') : "(" ++ s ++ ")" ≠ t := by
  rintro rfl
  simp at opening

/-- The keyword of a united query and the query in parentheses are read one after the other. -/
theorem bracketed_inj {all all' : Bool} {s s' : String} {r r' : List String}
    (same : unionWords all ++ (queryWords quote true s ++ r) =
      unionWords all' ++ (queryWords quote true s' ++ r')) : all = all' ∧ s = s' ∧ r = r' := by
  have other (t : String) : "(" ++ t ++ ")" ≠ "all" := bracket_ne (by decide)
  cases all <;> cases all' <;> simp [unionWords, queryWords, other, (other _).symm] at same
  all_goals exact ⟨rfl, same⟩

theorem bounding_head {c : Closing} (proper : c.Proper quote) (quotes : Quotes quote) :
    (c.texts.flatMap (Text.words quote)).head? ≠ some "union" := by
  intro first
  have known := IsClosing.head (proper.isClosing quotes) "union" first
  exact absurd known (by decide)

mutual
/-- In parentheses the text determines the tree. -/
theorem Written.tree_inj (quotes : Quotes quote) : ∀ {t t' : UnionTree} {s : String},
    Written quote true t s → Written quote true t' s → t = t'
  | _, _, _, .select alone, .select alone' => by rw [alone.own_inj quotes alone' rfl]
  | _, _, _, .select alone, .union _ _ _ _ words => by
    have head := alone.head
    rw [words] at head
    exact absurd (Option.some.inj head) (bracket_ne (by decide))
  | _, _, _, .union _ _ _ _ words, .select alone => by
    have head := alone.head
    rw [words] at head
    exact absurd (Option.some.inj head) (bracket_ne (by decide))
  | _, _, _, .union leading united _ proper words, .union leading' united' _ proper' words' => by
    rw [words] at words'
    obtain ⟨first, rest⟩ := List.cons.inj words'
    cases bracket_inj first
    obtain ⟨rfl, closing⟩ := MembersWritten.trees_inj quotes united united'
      (bounding_head proper quotes) (bounding_head proper' quotes) rest
    have texts := IsClosing.texts_inj (proper.isClosing quotes) (proper'.isClosing quotes) closing
    rw [leading.own_inj quotes leading' rfl, proper.texts_inj proper' quotes texts]

/-- United queries end where no further one starts. -/
theorem MembersWritten.trees_inj (quotes : Quotes quote) :
    ∀ {ms ms' : List UnitedTree} {ws ws' r r' : List String}, MembersWritten quote true ms ws →
      MembersWritten quote true ms' ws' → r.head? ≠ some "union" → r'.head? ≠ some "union" →
      ws ++ r = ws' ++ r' → ms = ms' ∧ r = r'
  | _, _, _, _, _, _, .nil, .nil, _, _, same => ⟨rfl, same⟩
  | _, _, _, _, _, _, .nil, .cons _ _, ended, _, same => by
    rw [List.nil_append] at same
    rw [same, List.append_assoc, unionWords_head] at ended
    exact absurd rfl ended
  | _, _, _, _, _, _, .cons _ _, .nil, _, ended, same => by
    rw [List.nil_append] at same
    rw [← same, List.append_assoc, unionWords_head] at ended
    exact absurd rfl ended
  | _, _, _, _, _, _, .cons one others, .cons one' others', ended, ended', same => by
    simp only [List.append_assoc] at same
    obtain ⟨rfl, rfl, rest⟩ := bracketed_inj same
    obtain ⟨rfl, behind⟩ := MembersWritten.trees_inj quotes others others' ended ended' rest
    rw [one.tree_inj quotes one']
    exact ⟨rfl, behind⟩
end

/-! ## Bare -/

/-- A text that closes a select, or the keyword of a united query. -/
inductive Mark where
  | closing (text : String)
  | union (all : Bool)

def Closing.marks (c : Closing) : List Mark := c.texts.map .closing

mutual
/-- The row of marks of a tree; the nesting is gone. -/
def UnionTree.marks : UnionTree → List Mark
  | .select own => own.marks
  | .union first members whole => first.marks ++ (membersMarks members ++ whole.marks)

def membersMarks : List UnitedTree → List Mark
  | [] => []
  | ⟨all, tree⟩ :: members => .union all :: (tree.marks ++ membersMarks members)
end

/-- The clauses of a query do not start like the rest of a keyword. -/
theorem unionWords_inj {all all' : Bool} {body body' r r' : List String} (isBody : IsBody body)
    (isBody' : IsBody body') (same : unionWords all ++ (body ++ r) = unionWords all' ++ (body' ++ r')) :
    all = all' ∧ body ++ r = body' ++ r' := by
  have other {body : List String} (isBody : IsBody body) (r ws : List String) :
      body ++ r ≠ "all" :: ws := by
    intro spelled
    have head := congrArg List.head? spelled
    rw [List.head?_append, isBody.head] at head
    exact absurd (Option.some.inj head) (by decide)
  cases all <;> cases all' <;> simp [unionWords, other isBody, (other isBody' _ _).symm] at same
  all_goals exact ⟨rfl, same⟩

/-- The words of a row of marks; behind the keyword of a united query stand its clauses. -/
inductive Reads (quote : Char) : List Mark → List String → Prop
  | nil : Reads quote [] []
  | closing {s : String} {marks : List Mark} {ws : List String} (closes : IsClosing quote s)
    (rest : Reads quote marks ws) : Reads quote (.closing s :: marks) (Text.words quote s ++ ws)
  | union {all : Bool} {body : List String} {marks : List Mark} {ws : List String}
    (isBody : IsBody body) (rest : Reads quote marks ws) :
    Reads quote (.union all :: marks) (unionWords all ++ (body ++ ws))

namespace Reads

theorem append {marks marks' : List Mark} {ws ws' : List String} (left : Reads quote marks ws)
    (right : Reads quote marks' ws') : Reads quote (marks ++ marks') (ws ++ ws') := by
  induction left with
  | nil => exact right
  | closing closes _ ih =>
    rw [List.append_assoc]
    exact .closing closes ih
  | union isBody _ ih =>
    rw [List.append_assoc, List.append_assoc]
    exact .union isBody ih

theorem texts {texts : List String} (closes : ∀ s ∈ texts, IsClosing quote s) :
    Reads quote (texts.map .closing) (texts.flatMap (Text.words quote)) := by
  induction texts with
  | nil => exact .nil
  | cons s texts ih =>
    exact .closing (closes s (by simp)) (ih fun t member => closes t (by simp [member]))

theorem head {marks : List Mark} {ws : List String} (reads : Reads quote marks ws) :
    ∀ w ∈ ws.head?, w ∈ closingWords := by
  cases reads with
  | nil => simp
  | closing closes _ =>
    obtain ⟨k, _, known, _, tight⟩ := closes
    simp [tight.words, closing_of_bounding known]
  | union _ _ =>
    rw [unionWords_head]
    decide

/-- A row of marks is determined by its words, one mark after another. -/
theorem marks_inj {marks marks' : List Mark} {ws : List String} (reads : Reads quote marks ws)
    (reads' : Reads quote marks' ws) : marks = marks' := by
  induction reads generalizing marks' with
  | nil =>
    generalize none : ([] : List String) = ws at reads'
    cases reads' with
    | nil => rfl
    | closing closes _ =>
      obtain ⟨_, _, _, _, tight⟩ := closes
      simp [tight.words] at none
    | @union all _ _ _ _ _ => cases all <;> cases none
  | @closing s marks ws closes rest ih =>
    obtain ⟨k, us, known, plain, tight⟩ := closes
    generalize whole : Text.words quote s ++ ws = vs at reads'
    cases reads' with
    | nil => simp [tight.words] at whole
    | closing closes' rest' =>
      obtain ⟨k', us', _, plain', tight'⟩ := closes'
      rw [tight.words, tight'.words] at whole
      obtain ⟨rfl, others⟩ := List.cons.inj whole
      obtain ⟨rfl, rfl⟩ := parted_inj (p := (· ∈ closingWords)) plain plain' rest.head rest'.head
        others
      rw [tight.joined, tight'.joined, ih rest']
    | @union all _ _ _ _ _ =>
      have first := congrArg List.head? whole
      rw [unionWords_head, tight.words] at first
      rw [Option.some.inj first] at known
      exact absurd known (by decide)
  | @union all body marks ws isBody rest ih =>
    generalize whole : unionWords all ++ (body ++ ws) = vs at reads'
    cases reads' with
    | nil => cases all <;> cases whole
    | closing closes' _ =>
      obtain ⟨k', _, known, _, tight'⟩ := closes'
      have first := congrArg List.head? whole
      rw [unionWords_head, tight'.words] at first
      rw [← Option.some.inj first] at known
      exact absurd known (by decide)
    | union isBody' rest' =>
      obtain ⟨rfl, others⟩ := unionWords_inj isBody isBody' whole
      obtain ⟨_, rfl⟩ := parted_inj (p := (· ∈ closingWords)) isBody.plain isBody'.plain rest.head
        rest'.head others
      rw [ih rest']

end Reads

mutual
/-- Bare, the words of a query are its clauses and its marks. -/
theorem Written.reads (quotes : Quotes quote) : ∀ {t : UnionTree} {s : String},
    Written quote false t s → ∃ body ws, IsBody body ∧ Reads quote t.marks ws ∧
      Text.words quote s = body ++ ws
  | _, _, .select alone => by
    obtain ⟨body, isBody, words⟩ := alone.words
    exact ⟨body, _, isBody, .texts (alone.proper.isClosing quotes), words⟩
  | _, _, .union leading united _ proper words => by
    obtain ⟨body, isBody, front⟩ := leading.words
    have first := Reads.texts (leading.proper.isClosing quotes)
    have whole := Reads.texts (proper.isClosing quotes)
    refine ⟨body, _, isBody, first.append ((united.reads quotes).append whole), ?_⟩
    rw [words, queryWords, if_neg Bool.false_ne_true, front, List.append_assoc]

theorem MembersWritten.reads (quotes : Quotes quote) : ∀ {ms : List UnitedTree} {ws : List String},
    MembersWritten quote false ms ws → Reads quote (membersMarks ms) ws
  | _, _, .nil => .nil
  | _, _, .cons one others => by
    obtain ⟨body, ws, isBody, marks, words⟩ := one.reads quotes
    rw [queryWords, if_neg Bool.false_ne_true, words, List.append_assoc]
    exact .union isBody (marks.append (others.reads quotes))
end

/-- Bare, the text determines the marks of the tree. -/
theorem Written.marks_inj (quotes : Quotes quote) {t t' : UnionTree} {s : String}
    (written : Written quote false t s) (written' : Written quote false t' s) :
    t.marks = t'.marks := by
  obtain ⟨body, ws, isBody, reads, words⟩ := written.reads quotes
  obtain ⟨body', ws', isBody', reads', words'⟩ := written'.reads quotes
  rw [words] at words'
  obtain ⟨_, rfl⟩ := parted_inj (p := (· ∈ closingWords)) isBody.plain isBody'.plain reads.head
    reads'.head words'
  exact reads.marks_inj reads'

/-! ## Flat unions -/

namespace UnionTree

/-- No united query is a union. -/
def Flat : UnionTree → Prop
  | .select _ => True
  | .union _ members _ => ∀ m ∈ members, ∃ own, m.tree = .select own

/-- Nothing closes the last united query. -/
def LastOpen : UnionTree → Prop
  | .select _ => True
  | .union _ members _ => ∀ m ∈ members.getLast?, m.tree.marks = []

/-- Nothing closes the union as a whole. -/
def WholeOpen : UnionTree → Prop
  | .select _ => True
  | .union _ _ whole => whole.marks = []

end UnionTree

/-- United queries that are no unions. -/
def Selects (quote : Char) (members : List UnitedTree) : Prop :=
  ∀ m ∈ members, ∃ own : Closing, own.Proper quote ∧ m.tree = .select own

def Mark.IsUnion : Mark → Prop
  | .closing _ => False
  | .union _ => True

theorem Closing.marks_plain (c : Closing) : ∀ m ∈ c.marks, ¬ m.IsUnion := by
  intro m member
  obtain ⟨s, _, rfl⟩ := List.mem_map.mp member
  exact id

theorem Closing.Proper.marks_inj {c c' : Closing} (proper : c.Proper quote)
    (proper' : c'.Proper quote) (quotes : Quotes quote) (same : c.marks = c'.marks) : c = c' := by
  have injective : Function.Injective Mark.closing := fun _ _ => Mark.closing.inj
  exact proper.texts_inj proper' quotes (injective.list_map same)

theorem MembersWritten.selects : ∀ {ms : List UnitedTree} {brackets : Bool} {ws : List String},
    MembersWritten quote brackets ms ws → (∀ m ∈ ms, ∃ own, m.tree = .select own) →
      Selects quote ms
  | _, _, _, .nil, _ => fun _ member => nomatch member
  | _, _, _, .cons one others, flat => by
    have rest := others.selects fun m member => flat m (List.mem_cons_of_mem _ member)
    obtain ⟨own, rfl⟩ := flat _ List.mem_cons_self
    cases one with
    | select alone =>
      intro m member
      rcases List.mem_cons.mp member with rfl | member
      · exact ⟨own, alone.proper, rfl⟩
      · exact rest m member

theorem membersMarks_starts {ms : List UnitedTree} (some : ms ≠ []) (r : List Mark) :
    ∃ all, (membersMarks ms ++ r).head? = Option.some (.union all) := by
  cases ms with
  | nil => exact absurd rfl some
  | cons m ms =>
    obtain ⟨all, tree⟩ := m
    exact ⟨all, rfl⟩

theorem membersMarks_head {ms : List UnitedTree} (some : ms ≠ []) (r : List Mark) :
    ∀ x ∈ (membersMarks ms ++ r).head?, x.IsUnion := by
  obtain ⟨all, first⟩ := membersMarks_starts some r
  rw [first]
  rintro _ ⟨⟩
  exact trivial

/-- Texts that close a select hold no further united query. -/
theorem ended_apart (c c' : Closing) {r : List Mark} {ms : List UnitedTree}
    (behind : ∀ m ∈ r, ¬ m.IsUnion) (some : ms ≠ []) (r' : List Mark) :
    c.marks ++ r ≠ c'.marks ++ (membersMarks ms ++ r') := by
  intro same
  obtain ⟨all, first⟩ := membersMarks_starts some r'
  have inside : Mark.union all ∈ c'.marks ++ (membersMarks ms ++ r') :=
    List.mem_append_right _ (List.mem_of_mem_head? first)
  rw [← same] at inside
  rcases List.mem_append.mp inside with closing | closing
  · exact c.marks_plain _ closing trivial
  · exact behind _ closing trivial

/-- Flat unions with the same marks differ at most in how the texts behind the last united query are
divided between that query and the union. -/
theorem Selects.members_inj (quotes : Quotes quote) {ms ms' : List UnitedTree} {r r' : List Mark}
    (plain : Selects quote ms) (plain' : Selects quote ms') (behind : ∀ m ∈ r, ¬ m.IsUnion)
    (behind' : ∀ m ∈ r', ¬ m.IsUnion) (same : membersMarks ms ++ r = membersMarks ms' ++ r')
    (some : ms ≠ []) (some' : ms' ≠ []) :
    ∃ front all own own', ms = front ++ [⟨all, .select own⟩] ∧
      ms' = front ++ [⟨all, .select own'⟩] ∧ own.Proper quote ∧ own'.Proper quote ∧
      own.marks ++ r = own'.marks ++ r' := by
  induction ms generalizing ms' with
  | nil => exact absurd rfl some
  | cons m ms ih =>
    cases ms' with
    | nil => exact absurd rfl some'
    | cons m' ms' =>
      obtain ⟨all, tree⟩ := m
      obtain ⟨all', tree'⟩ := m'
      obtain ⟨own, proper, rfl⟩ := plain _ List.mem_cons_self
      obtain ⟨own', proper', rfl⟩ := plain' _ List.mem_cons_self
      have rest : Selects quote ms := fun m member => plain m (List.mem_cons_of_mem _ member)
      have rest' : Selects quote ms' := fun m member => plain' m (List.mem_cons_of_mem _ member)
      simp only [membersMarks, UnionTree.marks, List.cons_append, List.append_assoc,
        List.cons.injEq, Mark.union.injEq] at same
      obtain ⟨rfl, same⟩ := same
      cases ms with
      | nil =>
        cases ms' with
        | nil => exact ⟨[], all, own, own', rfl, rfl, proper, proper', same⟩
        | cons n' ns' => exact absurd same (ended_apart own own' behind (by simp) r')
      | cons n ns =>
        cases ms' with
        | nil => exact absurd same.symm (ended_apart own' own behind' (by simp) r)
        | cons n' ns' =>
          obtain ⟨marks, others⟩ := parted_inj (p := Mark.IsUnion) own.marks_plain
            own'.marks_plain (membersMarks_head (by simp) r) (membersMarks_head (by simp) r') same
          obtain rfl := proper.marks_inj proper' quotes marks
          obtain ⟨front, last, own₁, own₂, left, right, division⟩ :=
            ih rest rest' others (by simp) (by simp)
          rw [left, right]
          exact ⟨⟨all, .select own⟩ :: front, last, own₁, own₂, rfl, rfl, division⟩

theorem UnionTree.marks_apart (own first whole : Closing) {members : List UnitedTree}
    (some : members ≠ []) :
    (UnionTree.select own).marks ≠ (UnionTree.union first members whole).marks := by
  have apart := ended_apart own first (r := []) (by simp) some whole.marks
  rwa [List.append_nil] at apart

/-- A flat union is determined by its marks if nothing closes its last united query, and likewise if
nothing closes the union as a whole. -/
theorem Written.flat_inj (quotes : Quotes quote) {t t' : UnionTree} {brackets : Bool}
    {s s' : String} (written : Written quote brackets t s) (written' : Written quote brackets t' s')
    (flat : t.Flat) (flat' : t'.Flat)
    (opened : t.LastOpen ∧ t'.LastOpen ∨ t.WholeOpen ∧ t'.WholeOpen) (same : t.marks = t'.marks) :
    t = t' := by
  cases written with
  | @select own _ alone =>
    cases written' with
    | select alone' => rw [alone.proper.marks_inj alone'.proper quotes same]
    | @union first' whole' _ _ _ _ _ _ some' _ _ =>
      exact absurd same (UnionTree.marks_apart own first' whole' some')
  | @union first whole members _ _ _ leading united some proper _ =>
    cases written' with
    | @select own' _ _ => exact absurd same.symm (UnionTree.marks_apart own' first whole some)
    | @union first' whole' members' _ _ _ leading' united' some' proper' _ =>
      obtain ⟨firsts, rest⟩ := parted_inj (p := Mark.IsUnion) first.marks_plain first'.marks_plain
        (membersMarks_head some whole.marks) (membersMarks_head some' whole'.marks) same
      obtain ⟨front, all, own, own', rfl, rfl, ownProper, ownProper', division⟩ :=
        (united.selects flat).members_inj quotes (united'.selects flat') whole.marks_plain
          whole'.marks_plain rest some some'
      have last (f w c : Closing)
          (opened : (UnionTree.union f (front ++ [⟨all, .select c⟩]) w).LastOpen) : c.marks = [] :=
        opened ⟨all, .select c⟩ (by simp)
      -- On the side that is open in both unions nothing stands, so the other side is the same text.
      have divided : own.marks = own'.marks ∧ whole.marks = whole'.marks := by
        rcases opened with ⟨left, right⟩ | ⟨left, right⟩
        · have lengths : own.marks.length = own'.marks.length := by
            rw [last first whole own left, last first' whole' own' right]
          exact List.append_inj division lengths
        · have lengths : whole.marks.length = whole'.marks.length := by
            rw [show whole.marks = [] from left, show whole'.marks = [] from right]
          exact List.append_inj' division lengths
      rw [leading.proper.marks_inj leading'.proper quotes firsts,
        ownProper.marks_inj ownProper' quotes divided.1,
        proper.marks_inj proper' quotes divided.2]

end SqlCompose
