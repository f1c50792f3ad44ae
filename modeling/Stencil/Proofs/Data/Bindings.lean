import Mathlib.Data.Finset.Card
import Stencil.Data.Bindings

/-!
# The names of bindings

Bindings that are made by `Bindings.set` alone have each name once, in ascending order, so as many
values are bound as there are names.
-/

namespace Stencil.Bindings

universe u

variable {α : Type u} {bindings : Bindings α} {name : String}

def names (bindings : Bindings α) : List String :=
  bindings.map Prod.fst

theorem mem_names : name ∈ bindings.names ↔ (bindings.get? name).isSome = true := by
  induction bindings with
  | nil => simp [names, get?]
  | cons entry rest ih =>
      rcases entry with ⟨other, value⟩
      rw [names, List.map_cons, List.mem_cons, get?]
      by_cases same : other = name
      · simp [same]
      · rw [if_neg same, ← ih]
        exact or_iff_right (Ne.symm same)

theorem mem_names_set {value : α} {other : String}
    (isName : other ∈ (bindings.set name value).names) :
    other = name ∨ other ∈ bindings.names := by
  by_cases same : name = other
  · exact .inl same.symm
  · rw [mem_names, get?_set_of_ne bindings value same] at isName
    exact .inr (mem_names.mpr isName)

/-- Each name stands once, and the names are in ascending order. -/
def IsAscending (bindings : Bindings α) : Prop :=
  bindings.names.Pairwise fun name next => name < next

theorem IsAscending.set (ascending : bindings.IsAscending) (name : String) (value : α) :
    (bindings.set name value).IsAscending := by
  fun_induction Bindings.set bindings name value with
  | case1 => exact List.pairwise_singleton ..
  | case2 => exact ascending
  | case3 other old rest _ before =>
      refine List.pairwise_cons.mpr ⟨?_, ascending⟩
      have above := (List.pairwise_cons.mp ascending).1
      intro next isNext
      rcases List.mem_cons.mp isNext with rfl | isLater
      · exact before
      · exact String.lt_trans before (above next isLater)
  | case4 other old rest different notBefore ih =>
      rcases List.pairwise_cons.mp ascending with ⟨above, ascendingRest⟩
      refine List.pairwise_cons.mpr ⟨?_, ih ascendingRest⟩
      intro next isNext
      rcases mem_names_set isNext with rfl | isLater
      · by_contra notAfter
        have notAbove := String.not_lt.mp notBefore
        exact different (String.le_antisymm notAbove (String.not_lt.mp notAfter))
      · exact above next isLater

theorem IsAscending.length_eq (ascending : bindings.IsAscending) :
    bindings.length = bindings.names.toFinset.card := by
  have distinct : bindings.names.Nodup := by
    apply ascending.imp
    rintro name _ less rfl
    exact String.lt_irrefl name less
  rw [List.toFinset_card_of_nodup distinct, names, List.length_map]

end Stencil.Bindings
