import SqlCompose.Proofs.Simulation.Insert
import SqlCompose.Proofs.Quoting.Outline

/-!
# Texts with one outline

Two texts have one outline when they differ at most inside quotes. Where all quotes are closed and
parentheses matched as well, this goes through putting texts together, as long as what stands between
them does not quote.
-/
namespace SqlCompose

open Quotation

structure SameOutline (w : Quotation) (s s' : String) : Prop where
  closed : w.Closed s.toList
  closed' : w.Closed s'.toList
  matched : Matched (w.outline s)
  same : w.outline s' = w.outline s

/-- Nothing in the text quotes. -/
def Quotation.Plain (w : Quotation) (s : String) : Prop := ∀ c ∈ s.toList, w.opens c = false

/-- The parentheses of a text that does not quote. -/
def Quotation.MatchedText (s : String) : Prop := Matched (s.toList.map some)

instance (s : String) : Decidable (MatchedText s) :=
  inferInstanceAs (Decidable (Matched (s.toList.map some)))

/-- The characters that statements are written with whatever the dialect; none of them quotes names. -/
def Quotation.ordinary (c : Char) : Bool :=
  c.isAlphanum || Text.isBlank c || ['*', '=', ',', '.', '(', ')'].contains c

/-- Texts of ordinary characters with matched parentheses. -/
def Quotation.Ordinary (s : String) : Prop := s.toList.all ordinary = true ∧ MatchedText s

instance (s : String) : Decidable (Quotation.Ordinary s) :=
  inferInstanceAs (Decidable (_ ∧ _))

namespace SameOutline

variable {w : Quotation} {s s' t t' : String}

theorem plain (plain : w.Plain s) (matched : MatchedText s) : SameOutline w s s where
  closed := closed_plain plain
  closed' := closed_plain plain
  matched := by rwa [outline_plain plain]
  same := rfl

theorem quoted {quote : Char} (opens : w.opens quote = true) (bare : w.escapes quote = false)
    (s s' : String) : SameOutline w (Text.quoted quote s) (Text.quoted quote s') where
  closed := closed_quoted opens bare s
  closed' := closed_quoted opens bare s'
  matched := by
    rw [outline_quoted opens bare]
    decide
  same := by rw [outline_quoted opens bare, outline_quoted opens bare]

theorem parted {sep : String} {c : Char} {cs : List Char} (chars : sep.toList = c :: cs)
    (between : w.Plain sep) (level : MatchedText sep) (left : SameOutline w s s')
    (right : SameOutline w t t') : SameOutline w (s ++ sep ++ t) (s' ++ sep ++ t') := by
  unfold Quotation.Plain at between
  have outline {a : String} (b : String) (closed : w.Closed a.toList) :
      w.outline (a ++ sep ++ b) = w.outline a ++ sep.toList.map some ++ w.outline b := by
    unfold outline
    rw [String.toList_append, String.toList_append, chars,
      outlineFrom_parted closed (by rwa [chars] at between)]
  have joined {a b : String} (first : w.Closed a.toList) (second : w.Closed b.toList) :
      w.Closed (a ++ sep ++ b).toList := by
    rw [String.toList_append, String.toList_append, chars]
    exact first.parted (by rwa [chars] at between) second
  constructor
  · exact joined left.closed right.closed
  · exact joined left.closed' right.closed'
  · rw [outline _ left.closed]
    exact (left.matched.append level).append right.matched
  · rw [outline _ left.closed, outline _ left.closed', left.same, right.same]

theorem around {front back : String} (before : w.Plain front) (after : w.Plain back)
    (level : Matched (front.toList.map some ++ back.toList.map some)) (inner : SameOutline w s s') :
    SameOutline w (front ++ s ++ back) (front ++ s' ++ back) := by
  have outline {a : String} (closed : w.Closed a.toList) : w.outline (front ++ a ++ back) =
      front.toList.map some ++ w.outline a ++ back.toList.map some := by
    unfold outline
    rw [String.toList_append, String.toList_append, outlineFrom_around before closed after]
  have whole {a : String} (closed : w.Closed a.toList) : w.Closed (front ++ a ++ back).toList := by
    rw [String.toList_append, String.toList_append]
    exact closed.around before after
  constructor
  · exact whole inner.closed
  · exact whole inner.closed'
  · rw [outline inner.closed]
    exact level.around inner.matched
  · rw [outline inner.closed, outline inner.closed', inner.same]

/-- A text with another one in parentheses right behind it. -/
theorem call (brackets : w.Plain "()") (left : SameOutline w s s') (right : SameOutline w t t') :
    SameOutline w (s ++ ("(" ++ t ++ ")")) (s' ++ ("(" ++ t' ++ ")")) := by
  have opening : ∀ c ∈ ['('], w.opens c = false := fun c member => brackets c (by simp_all)
  have closing : ∀ c ∈ [')'], w.opens c = false := fun c member => brackets c (by simp_all)
  have none : ∀ c ∈ ([] : List Char), w.opens c = false := by simp
  have chars (a b : String) : (a ++ ("(" ++ b ++ ")")).toList =
      a.toList ++ ['('] ++ ([] ++ b.toList ++ [')']) := by simp
  have outline {a b : String} (front : w.Closed a.toList) (inner : w.Closed b.toList) :
      w.outline (a ++ ("(" ++ b ++ ")")) =
        w.outline a ++ ([some '('] ++ w.outline b ++ [some ')']) := by
    unfold Quotation.outline
    rw [chars, outlineFrom_parted front opening, outlineFrom_around none inner closing]
    simp
  have joined {a b : String} (front : w.Closed a.toList) (inner : w.Closed b.toList) :
      w.Closed (a ++ ("(" ++ b ++ ")")).toList := by
    rw [chars]
    exact front.parted opening (inner.around none closing)
  have level : Matched ([some '('] ++ [some ')']) := by decide
  constructor
  · exact joined left.closed right.closed
  · exact joined left.closed' right.closed'
  · rw [outline left.closed right.closed]
    exact left.matched.append (level.around right.matched)
  · rw [outline left.closed right.closed, outline left.closed' right.closed', left.same, right.same]

section

variable (blanks : ∀ c, Text.isBlank c = true → w.opens c = false)

include blanks

theorem outline_trimEnd (closed : w.Closed s.toList) :
    w.outline (Text.trimEnd s) = (w.outline s).rdropWhile blankItem := by
  unfold outline Text.trimEnd
  rw [String.toList_ofList, outlineFrom_dropBlankEnd blanks closed]

theorem outline_trim (closed : w.Closed s.toList) :
    w.outline (Text.trim s) = ((w.outline s).dropWhile blankItem).rdropWhile blankItem := by
  unfold outline Text.trim Text.trimBlank
  rw [String.toList_ofList, outlineFrom_dropBlankEnd blanks (closed.dropBlank blanks),
    outlineFrom_dropBlank blanks]

theorem closed_trimEnd (closed : w.Closed s.toList) : w.Closed (Text.trimEnd s).toList := by
  unfold Text.trimEnd
  rw [String.toList_ofList]
  exact closed.dropBlankEnd blanks

theorem closed_trim (closed : w.Closed s.toList) : w.Closed (Text.trim s).toList := by
  unfold Text.trim Text.trimBlank
  rw [String.toList_ofList]
  exact (closed.dropBlank blanks).dropBlankEnd blanks

theorem trimmed (inner : SameOutline w s s') : SameOutline w (Text.trim s) (Text.trim s') where
  closed := closed_trim blanks inner.closed
  closed' := closed_trim blanks inner.closed'
  matched := by
    rw [outline_trim blanks inner.closed]
    exact inner.matched.dropWhile.rdropWhile
  same := by rw [outline_trim blanks inner.closed, outline_trim blanks inner.closed', inner.same]

theorem trimmedEnd (inner : SameOutline w s s') :
    SameOutline w (Text.trimEnd s) (Text.trimEnd s') where
  closed := closed_trimEnd blanks inner.closed
  closed' := closed_trimEnd blanks inner.closed'
  matched := by
    rw [outline_trimEnd blanks inner.closed]
    exact inner.matched.rdropWhile
  same := by
    rw [outline_trimEnd blanks inner.closed, outline_trimEnd blanks inner.closed', inner.same]

end

/-- A text has no characters exactly if its outline is empty. -/
theorem outline_eq_nil (s : String) : w.outline s = [] ↔ s = "" := by
  rw [← String.toList_eq_nil_iff]
  unfold outline
  cases s.toList with
  | nil => simp
  | cons c cs => cases opens : w.opens c <;> simp [outlineFrom, next, opens]

theorem outline_eq_star (plain : w.Plain "*") {s : String} (closed : w.Closed s.toList) :
    w.outline s = [some '*'] ↔ s = "*" := by
  have star : w.opens '*' = false := plain '*' (by simp)
  rw [← String.toList_inj]
  unfold outline
  generalize s.toList = cs at closed
  cases cs with
  | nil => simp
  | cons c cs =>
    cases opens : w.opens c with
    | true =>
      have apart : c ≠ '*' := by
        rintro rfl
        rw [star] at opens
        cases opens
      simp [outlineFrom, next, opens, apart]
    | false =>
      cases cs with
      | nil => simp [outlineFrom, next, opens]
      | cons e cs => cases other : w.opens e <;> simp [outlineFrom, next, opens, other]

theorem empty_iff (related : SameOutline w s s') : s = "" ↔ s' = "" := by
  rw [← outline_eq_nil (w := w), ← related.same, outline_eq_nil]

theorem star_iff (plain : w.Plain "*") (related : SameOutline w s s') : s = "*" ↔ s' = "*" := by
  rw [← outline_eq_star plain related.closed, ← related.same,
    outline_eq_star plain related.closed']

section

variable (plain : ∀ c, ordinary c = true → w.opens c = false)

include plain

theorem plain_of_ordinary (chars : s.toList.all ordinary = true) : w.Plain s :=
  fun c member => plain c (List.all_eq_true.mp chars c member)

theorem of_ordinary (ordinary : Ordinary s) : SameOutline w s s :=
  .plain (plain_of_ordinary plain ordinary.1) ordinary.2

theorem fixed (known : s ∈ fixedTexts ++ boundaryTexts ++ insertTexts) : SameOutline w s s := by
  have each : ∀ t ∈ fixedTexts ++ boundaryTexts ++ insertTexts, Ordinary t := by decide
  exact of_ordinary plain (each s known)

theorem compatible : Compatible fun f f' => SameOutline w f.sql f'.sql := by
  have blanks (c : Char) (blank : Text.isBlank c = true) : w.opens c = false :=
    plain c (by simp [ordinary, blank])
  constructor
  case fixed => exact fun known => fixed plain (by simp [known])
  case space => exact parted rfl (plain_of_ordinary plain (by decide)) (by decide)
  case comma => exact parted rfl (plain_of_ordinary plain (by decide)) (by decide)
  case dot => exact parted rfl (plain_of_ordinary plain (by decide)) (by decide)
  case bracket =>
    exact around (plain_of_ordinary plain (by decide)) (plain_of_ordinary plain (by decide))
      (by decide)
  case call => exact call (plain_of_ordinary plain (by decide))
  case trimmed => exact trimmed blanks
  case trimmedEnd => exact trimmedEnd blanks
  case empty_iff => exact empty_iff
  case blank_iff => exact fun related => (trimmed blanks related).empty_iff
  case star_iff => exact star_iff (plain_of_ordinary plain (by decide))
  case after => exact fun _ _ right => right
  case before => exact fun _ _ right => right

end

end SameOutline
end SqlCompose
