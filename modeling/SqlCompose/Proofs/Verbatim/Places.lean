import SqlCompose.Proofs.Heads
import SqlCompose.Proofs.Occurrence

/-!
# Where trusted SQL stands in a statement

Clauses are trimmed before they are put together. So what is left of an expression depends on its place:
with something behind it in its clause it stands as it is, at the end of a clause without the white space
at its own end, and as a clause by itself without the white space around it (`Emitted.Stands`). What has
one of these places in a part of a statement keeps it in the whole.
-/
namespace SqlCompose

open Text (isBlank)

namespace Text

/-- The first character is not blank. -/
def Opens (s : String) : Prop := ∃ c cs, s.toList = c :: cs ∧ isBlank c = false

theorem opens_iff (s : String) : Opens s ↔ s.toList.head?.any (fun c => !isBlank c) = true := by
  unfold Opens
  cases s.toList <;> simp

instance (s : String) : Decidable (Opens s) := decidable_of_iff _ (opens_iff s).symm

/-- The text parts what stands before it from what is in it: at most a space is in front of the first
character that is not blank. -/
def Parts (s : String) : Prop := Opens s ∨ ∃ t, s = " " ++ t ∧ Opens t

/-- Some character is not blank. -/
def Shows (s : String) : Prop := ∃ c ∈ s.toList, isBlank c = false

variable {s t : String}

theorem Opens.append (opens : Opens s) (t : String) : Opens (s ++ t) := by
  obtain ⟨c, cs, chars, shown⟩ := opens
  exact ⟨c, cs ++ t.toList, by simp [chars], shown⟩

theorem Opens.parts (opens : Opens s) : Parts s := .inl opens

theorem Opens.spaced (opens : Opens s) : Parts (" " ++ s) := .inr ⟨s, rfl, opens⟩

theorem Parts.append (parts : Parts s) (t : String) : Parts (s ++ t) := by
  cases parts with
  | inl opens => exact (opens.append t).parts
  | inr spaced =>
    obtain ⟨s, rfl, opens⟩ := spaced
    rw [String.append_assoc]
    exact (opens.append t).spaced

theorem Opens.shows (opens : Opens s) : Shows s := by
  obtain ⟨c, cs, chars, shown⟩ := opens
  exact ⟨c, by simp [chars], shown⟩

theorem Shows.behind (shows : Shows t) (s : String) : Shows (s ++ t) := by
  obtain ⟨c, member, shown⟩ := shows
  exact ⟨c, by simp [member], shown⟩

theorem Shows.before (shows : Shows s) (t : String) : Shows (s ++ t) := by
  obtain ⟨c, member, shown⟩ := shows
  exact ⟨c, by simp [member], shown⟩

theorem Parts.shows (parts : Parts s) : Shows s := by
  cases parts with
  | inl opens => exact opens.shows
  | inr spaced =>
    obtain ⟨t, rfl, opens⟩ := spaced
    exact opens.shows.behind " "

/-! ## Trimming -/

/-- Nothing is trimmed up to a character that is not blank. -/
theorem trimEnd_behind (front : String) {c : Char} (shown : isBlank c = false) (s : String) :
    trimEnd (front ++ String.singleton c ++ s) = front ++ String.singleton c ++ trimEnd s := by
  have alone : (front.toList ++ [c]).rdropWhile isBlank = front.toList ++ [c] :=
    List.rdropWhile_concat_neg _ _ _ (by simp [shown])
  have spelled (s : String) : (trimEnd s).toList = s.toList.rdropWhile isBlank := String.toList_ofList
  simp only [← String.toList_inj, String.toList_append, spelled, String.toList_singleton]
  rw [rdropWhile_append]
  split
  · next nothing => rw [alone, nothing, List.append_nil]
  · rfl

/-- A text with a character that is not blank, around that character. -/
theorem Shows.around (shows : Shows s) :
    ∃ front c back, isBlank c = false ∧ s = front ++ String.singleton c ++ back := by
  obtain ⟨c, member, shown⟩ := shows
  obtain ⟨front, back, chars⟩ := List.append_of_mem member
  exact ⟨.ofList front, c, .ofList back, shown, by simp [← String.toList_inj, chars]⟩

theorem Shows.trimEnd_append (shows : Shows t) (s : String) : trimEnd (s ++ t) = s ++ trimEnd t := by
  obtain ⟨front, c, back, shown, rfl⟩ := shows.around
  have whole := trimEnd_behind (s ++ front) shown back
  rw [trimEnd_behind front shown]
  simpa only [String.append_assoc] using whole

theorem Shows.trimEnd (shows : Shows s) : Shows (trimEnd s) := by
  obtain ⟨front, c, back, shown, rfl⟩ := shows.around
  rw [trimEnd_behind front shown]
  exact ⟨c, by simp, shown⟩

theorem Opens.trimEnd (opens : Opens s) : Opens (trimEnd s) := by
  obtain ⟨c, cs, chars, shown⟩ := opens
  have first : s = "" ++ String.singleton c ++ .ofList cs := by simp [← String.toList_inj, chars]
  have kept : (Text.trimEnd s).toList = c :: (Text.trimEnd (.ofList cs)).toList := by
    rw [first, trimEnd_behind "" shown]
    simp
  exact ⟨c, _, kept, shown⟩

theorem Parts.trimEnd (parts : Parts s) : Parts (trimEnd s) := by
  cases parts with
  | inl opens => exact opens.trimEnd.parts
  | inr spaced =>
    obtain ⟨t, rfl, opens⟩ := spaced
    rw [opens.shows.trimEnd_append]
    exact opens.trimEnd.spaced

theorem trimEnd_blank (blank : ¬ Shows s) : trimEnd s = "" := by
  have nothing : s.toList.rdropWhile isBlank = [] := by
    rw [List.rdropWhile_eq_nil_iff]
    intro c member
    by_contra shown
    exact blank ⟨c, member, by simpa using shown⟩
  exact String.ofList_inj.mpr nothing

/-- What is trimmed ends as its own end is trimmed. -/
theorem trimEnd_ends (s t : String) : ∃ front, trimEnd (s ++ t) = front ++ trimEnd t := by
  by_cases shows : Shows t
  · exact ⟨s, shows.trimEnd_append s⟩
  · exact ⟨trimEnd (s ++ t), by rw [trimEnd_blank shows, String.append_empty]⟩

theorem trimEnd_space (s : String) : trimEnd (s ++ " ") = trimEnd s := by
  have dropped : (s.toList ++ [' ']).rdropWhile isBlank = s.toList.rdropWhile isBlank :=
    List.rdropWhile_concat_pos _ _ _ (by decide)
  have chars : (s ++ " ").toList = s.toList ++ [' '] := by simp
  unfold trimEnd
  rw [chars]
  exact String.ofList_inj.mpr dropped

theorem trimEnd_ofList (cs : List Char) :
    trimEnd (.ofList (cs.rdropWhile isBlank)) = .ofList (cs.rdropWhile isBlank) := by
  have again : (cs.rdropWhile isBlank).rdropWhile isBlank = _ := List.rdropWhile_idempotent _ _
  rw [trimEnd, String.toList_ofList]
  exact String.ofList_inj.mpr again

theorem trimEnd_trimEnd (s : String) : trimEnd (trimEnd s) = trimEnd s := trimEnd_ofList s.toList

theorem trimEnd_trim (s : String) : trimEnd (trim s) = trim s := trimEnd_ofList (dropBlank s.toList)

/-- Only the end of a text is trimmed that starts with something other than a blank. -/
theorem Opens.trim (opens : Opens s) : Text.trim s = Text.trimEnd s := by
  obtain ⟨c, cs, chars, shown⟩ := opens
  have kept : dropBlank s.toList = s.toList := by
    rw [chars]
    exact List.dropWhile_cons_of_neg (by simp [shown])
  rw [Text.trim, trimBlank, kept, Text.trimEnd]

theorem opens_trim (shown : trim s ≠ "") : Opens (trim s) := by
  have first := ((bare_iff (trim s)).mp (bare_trim s)).1
  cases chars : (trim s).toList with
  | nil => exact absurd (String.toList_eq_nil_iff.mp chars) shown
  | cons c cs => exact ⟨c, cs, chars, first c (by simp [chars])⟩

theorem opens_joinWith (sep : String) {texts : List String} (some : texts ≠ [])
    (each : ∀ t ∈ texts, Opens t) : Opens (joinWith sep texts) := by
  cases texts with
  | nil => exact absurd rfl some
  | cons t texts =>
    have first := each t (by simp)
    cases texts with
    | nil => exact first
    | cons u rest =>
      rw [joinWith_cons_cons, String.append_assoc]
      exact first.append _

end Text

theorem opens_concatenate {texts : List String} (some : concatenate texts ≠ "") :
    Text.Opens (concatenate texts) := by
  induction texts with
  | nil => exact absurd rfl some
  | cons s texts ih =>
    rw [concatenate_cons] at some ⊢
    split
    · next blank =>
      rw [if_pos blank] at some
      exact ih some
    · next shown =>
      have opens := Text.opens_trim shown
      split
      · exact opens
      · rw [String.append_assoc]
        exact opens.append _

theorem Text.Opens.trim_ne_empty {s : String} (opens : Text.Opens s) : Text.trim s ≠ "" := by
  obtain ⟨c, cs, chars, -⟩ := opens.trimEnd
  intro empty
  rw [← opens.trim, empty] at chars
  cases chars

/-- A component is trimmed, and what stands behind it is parted from it by a space. -/
theorem concatenate_around {s : String} {texts : List String} (member : s ∈ texts)
    (shown : Text.trim s ≠ "") : ∃ front back, concatenate texts = front ++ Text.trim s ++ back ∧
      (back = "" ∨ Text.Parts back) := by
  induction texts with
  | nil => cases member
  | cons t texts ih =>
    rw [concatenate_cons]
    by_cases here : s = t
    · subst here
      rw [if_neg shown]
      split
      · exact ⟨"", "", by simp, .inl rfl⟩
      · next some => exact ⟨"", _, by rw [String.empty_append, String.append_assoc],
          .inr (opens_concatenate some).spaced⟩
    · obtain ⟨front, back, whole, parts⟩ := ih (List.mem_of_ne_of_mem here member)
      rw [whole]
      split
      · exact ⟨front, back, rfl, parts⟩
      · split
        · next nothing =>
          simp only [String.append_eq_empty_iff] at nothing
          exact absurd nothing.1.2 shown
        · exact ⟨Text.trim t ++ " " ++ front, back, by simp only [String.append_assoc], parts⟩

/-! ## Places -/

/-- Where an expression stands in its clause. -/
inductive Emitted.Place where
  | followed
  | last
  | whole
  deriving DecidableEq, Repr

namespace Emitted.Place

/-- What is left of a text in the place. -/
def kept : Emitted.Place → String → String
  | .followed, s => s
  | .last, s => Text.trimEnd s
  | .whole, s => Text.trim s

/-- What may stand behind it: in a clause something follows, and of the white space at the end of a
clause nothing is left but the space that parts it from the next. -/
def Behind : Emitted.Place → String → Prop
  | .followed, s => Text.Shows s
  | .last, s => s = "" ∨ Text.Parts s
  | .whole, s => s = "" ∨ Text.Parts s

variable {place : Emitted.Place} {s : String}

/-- More text behind it keeps the place, if it is parted from what there is. -/
theorem Behind.append (behind : place.Behind s) {t : String} (parts : Text.Parts t) :
    place.Behind (s ++ t) := by
  have ended (either : s = "" ∨ Text.Parts s) : s ++ t = "" ∨ Text.Parts (s ++ t) := by
    cases either with
    | inl empty => exact .inr (by rwa [empty, String.empty_append])
    | inr shown => exact .inr (shown.append t)
  cases place with
  | followed => exact Text.Shows.before behind t
  | last => exact ended behind
  | whole => exact ended behind

/-- Behind an expression there is something that is not trimmed away, or nothing at all, and then what
is left of the expression is trimmed already. -/
theorem Behind.trimEnd (behind : place.Behind s) : Text.Shows s ∧ place.Behind (Text.trimEnd s) ∨
    s = "" ∧ place.Behind "" ∧ ∀ t, Text.trimEnd (place.kept t) = place.kept t := by
  have ended (either : s = "" ∨ Text.Parts s) :
      s = "" ∨ Text.Shows s ∧ (Text.trimEnd s = "" ∨ Text.Parts (Text.trimEnd s)) :=
    either.imp_right fun parts => ⟨parts.shows, .inr parts.trimEnd⟩
  cases place with
  | followed => exact .inl ⟨behind, Text.Shows.trimEnd behind⟩
  | last => exact (ended behind).symm.imp_right fun empty => ⟨empty, .inl rfl, Text.trimEnd_trimEnd⟩
  | whole => exact (ended behind).symm.imp_right fun empty => ⟨empty, .inl rfl, Text.trimEnd_trim⟩

end Emitted.Place

/-- An expression of a query, and where it stands. -/
structure Emitted where
  text : String
  place : Emitted.Place
  deriving DecidableEq, Repr

namespace Emitted

/-- What is left of the expression. -/
def kept (e : Emitted) : String := e.place.kept e.text

/-- What is left of the expression stands in the text, with what may stand behind it. -/
def Stands (e : Emitted) (s : String) : Prop :=
  ∃ front back, s = front ++ e.kept ++ back ∧ e.place.Behind back

namespace Stands

variable {e : Emitted} {s t : String}

theorem occurs (stands : e.Stands s) : Text.Occurs e.kept s := by
  obtain ⟨front, back, rfl, -⟩ := stands
  exact .within front back

theorem behind (stands : e.Stands s) (front : String) : e.Stands (front ++ s) := by
  obtain ⟨inner, back, rfl, behind⟩ := stands
  exact ⟨front ++ inner, back, by simp only [String.append_assoc], behind⟩

theorem before (stands : e.Stands s) (parts : Text.Parts t) : e.Stands (s ++ t) := by
  obtain ⟨front, back, rfl, behind⟩ := stands
  exact ⟨front, back ++ t, by simp only [String.append_assoc], behind.append parts⟩

theorem trimEnd (stands : e.Stands s) : e.Stands (Text.trimEnd s) := by
  obtain ⟨front, back, rfl, behind⟩ := stands
  cases behind.trimEnd with
  | inl shown =>
    rw [shown.1.trimEnd_append]
    exact ⟨front, _, rfl, shown.2⟩
  | inr ends =>
    obtain ⟨rfl, behind, trimmed⟩ := ends
    have trimmed : Text.trimEnd e.kept = e.kept := trimmed e.text
    obtain ⟨front', whole⟩ := Text.trimEnd_ends front e.kept
    rw [trimmed] at whole
    rw [String.append_empty]
    exact ⟨front', "", by rw [String.append_empty, whole], behind⟩

theorem trim (stands : e.Stands s) (opens : Text.Opens s) : e.Stands (Text.trim s) := by
  rw [opens.trim]
  exact stands.trimEnd

/-- What stands in an empty text stands in any. -/
theorem ofEmpty (stands : e.Stands "") (s : String) : e.Stands s := by
  obtain ⟨front, back, whole, behind⟩ := stands
  have nothing := whole.symm
  simp only [String.append_eq_empty_iff] at nothing
  obtain ⟨⟨-, empty⟩, rfl⟩ := nothing
  exact ⟨s, "", by rw [empty, String.append_empty, String.append_empty], behind⟩

/-- What stands in one of several texts that are parted by spaces. -/
theorem spaced {texts : List String} (opens : ∀ t ∈ texts, Text.Opens t) (stands : e.Stands s)
    (member : s ∈ texts) : e.Stands (Text.joinWith " " texts) := by
  induction texts with
  | nil => cases member
  | cons t texts ih =>
    cases texts with
    | nil =>
      obtain rfl := List.mem_singleton.mp member
      exact stands
    | cons u rest =>
      rw [Text.joinWith_cons_cons, String.append_assoc]
      cases List.mem_cons.mp member with
      | inl here =>
        rw [← here]
        have next : Text.Opens (Text.joinWith " " (u :: rest)) :=
          Text.opens_joinWith " " (by simp) fun t member => opens t (List.mem_cons_of_mem _ member)
        exact stands.before next.spaced
      | inr later =>
        have others := ih (fun t member => opens t (List.mem_cons_of_mem _ member)) later
        exact (others.behind " ").behind t

theorem concatenate {texts : List String} (stands : e.Stands (Text.trim s)) (member : s ∈ texts) :
    e.Stands (concatenate texts) := by
  by_cases blank : Text.trim s = ""
  · rw [blank] at stands
    exact stands.ofEmpty _
  · obtain ⟨front, back, whole, parts⟩ := concatenate_around member blank
    rw [whole]
    cases parts with
    | inl empty =>
      rw [empty, String.append_empty]
      exact stands.behind front
    | inr parts => exact (stands.behind front).before parts

end Stands
end Emitted
end SqlCompose
