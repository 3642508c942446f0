import SqlCompose.Name
import SqlCompose.Text.Blank
import SqlCompose.Text.Split

/-!
# Fragments

A piece of a statement: SQL text and the values for its placeholders, in the order in which the
placeholders stand. Fragments are put together like texts, and their values follow.
-/
namespace SqlCompose

structure Fragment where
  sql : String
  bindings : List Value

namespace Fragment

/-- A text that binds nothing. -/
def ofText (sql : String) : Fragment := ⟨sql, []⟩

def empty : Fragment := ofText ""

instance : Append Fragment := ⟨fun a b => ⟨a.sql ++ b.sql, a.bindings ++ b.bindings⟩⟩

instance : HAppend String Fragment Fragment := ⟨fun s f => ⟨s ++ f.sql, f.bindings⟩⟩

instance : HAppend Fragment String Fragment := ⟨fun f s => ⟨f.sql ++ s, f.bindings⟩⟩

@[simp] theorem sql_append (a b : Fragment) : (a ++ b).sql = a.sql ++ b.sql := rfl

@[simp] theorem bindings_append (a b : Fragment) :
    (a ++ b).bindings = a.bindings ++ b.bindings := rfl

@[simp] theorem sql_text_append (s : String) (f : Fragment) : (s ++ f).sql = s ++ f.sql := rfl

@[simp] theorem bindings_text_append (s : String) (f : Fragment) :
    (s ++ f).bindings = f.bindings := rfl

@[simp] theorem sql_append_text (f : Fragment) (s : String) : (f ++ s).sql = f.sql ++ s := rfl

@[simp] theorem bindings_append_text (f : Fragment) (s : String) :
    (f ++ s).bindings = f.bindings := rfl

/-- The values of a list of fragments. -/
def allBindings (fragments : List Fragment) : List Value := fragments.flatMap bindings

/-- Fragments with a separator between them. -/
def joinWith (sep : String) (fragments : List Fragment) : Fragment :=
  ⟨Text.joinWith sep (fragments.map sql), allBindings fragments⟩

end Fragment

/-- The texts that are not blank, trimmed, with single spaces between them. -/
def concatenate (parts : List String) : String :=
  Text.joinWith " " ((parts.map Text.trim).filter (· ≠ ""))

/-- Clauses of a statement; one without text leaves no gap, but its values stay. -/
def Fragment.concat (fragments : List Fragment) : Fragment :=
  ⟨concatenate (fragments.map Fragment.sql), Fragment.allBindings fragments⟩

end SqlCompose
