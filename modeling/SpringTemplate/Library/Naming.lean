import Mathlib.Data.List.Basic
import Mathlib.Data.Set.Function

/-!
# Names made of fields

A name is spelled as some fields, a separator after each, and a rest.  No
field has a separator in it, but the rest may.  A reader of two equal
spellings finds the same fields for as long as both go on.  So names are told
apart by their spelling when the fields of one never continue those of
another.
-/

variable {α Name : Type}

/-- The fields, a separator after each, and then the rest. -/
def spell (separator : α) : List (List α) → List α → List α
  | [], rest => rest
  | field :: fields, rest => field ++ separator :: spell separator fields rest

section Spell

variable {separator : α}

/-- A field ends at the first separator. -/
theorem field_eq {field other rest more : List α}
    (closed : separator ∉ field) (otherClosed : separator ∉ other)
    (same : field ++ separator :: rest = other ++ separator :: more) :
    field = other ∧ rest = more := by
  induction field generalizing other with
  | nil =>
      cases other with
      | nil => exact ⟨rfl, (List.cons.inj same).2⟩
      | cons first other =>
          have separates : separator = first := (List.cons.inj same).1
          exact absurd List.mem_cons_self (separates ▸ otherClosed)
  | cons first field induction =>
      cases other with
      | nil =>
          have separates : first = separator := (List.cons.inj same).1
          exact absurd List.mem_cons_self (separates ▸ closed)
      | cons otherFirst other =>
          obtain ⟨sameFirst, tails⟩ := List.cons.inj same
          obtain ⟨sameField, sameRest⟩ := induction
            (List.not_mem_of_not_mem_cons closed)
            (List.not_mem_of_not_mem_cons otherClosed) tails
          exact ⟨by rw [sameFirst, sameField], sameRest⟩

/-- Of two equal spellings, the fields of one continue those of the other. -/
theorem spell_comparable {fields others : List (List α)} {rest more : List α}
    (closed : ∀ field ∈ fields, separator ∉ field)
    (othersClosed : ∀ field ∈ others, separator ∉ field)
    (same : spell separator fields rest = spell separator others more) :
    fields <+: others ∨ others <+: fields := by
  induction fields generalizing others with
  | nil => exact .inl List.nil_prefix
  | cons field fields induction =>
      cases others with
      | nil => exact .inr List.nil_prefix
      | cons other others =>
          obtain ⟨here, later⟩ := List.forall_mem_cons.mp closed
          obtain ⟨otherHere, otherLater⟩ :=
            List.forall_mem_cons.mp othersClosed
          obtain ⟨sameField, tails⟩ := field_eq here otherHere same
          rw [sameField, List.prefix_cons_inj, List.prefix_cons_inj]
          exact induction later otherLater tails

theorem spell_rest {fields : List (List α)} {rest more : List α}
    (same : spell separator fields rest = spell separator fields more) :
    rest = more := by
  induction fields with
  | nil => exact same
  | cons field fields induction =>
      exact induction (List.cons.inj (List.append_cancel_left same)).2

end Spell

/-- Names with the fields and the rest of their spelling. -/
structure Naming (Name α : Type) where
  separator : α
  fields : Name → List (List α)
  rest : Name → List α
  closed : ∀ name, ∀ field ∈ fields name, separator ∉ field

namespace Naming

variable (naming : Naming Name α)

def text (name : Name) : List α :=
  spell naming.separator (naming.fields name) (naming.rest name)

/-- No name's fields go on where another's have ended, and a name is known by
its fields and its rest. -/
structure Apart : Prop where
  fields : ∀ name other, naming.fields name <+: naming.fields other →
    naming.fields name = naming.fields other
  known : ∀ name other, naming.fields name = naming.fields other →
    naming.rest name = naming.rest other → name = other

variable {naming}

theorem Apart.text_injective (apart : naming.Apart) :
    Function.Injective naming.text := by
  intro name other same
  have fields : naming.fields name = naming.fields other := by
    rcases spell_comparable (naming.closed name) (naming.closed other) same
      with front | front
    · exact apart.fields name other front
    · exact (apart.fields other name front).symm
  have rest : naming.rest name = naming.rest other := by
    rw [text, text, fields] at same
    exact spell_rest same
  exact apart.known name other fields rest

end Naming
