/-!
# Bindings

Values under names.  `Bindings.set` keeps the entries in ascending order of their names, with one
entry for each name, so bindings built from nothing by `set` are the same whenever they bind the
same names to the same values.
-/

namespace Stencil

universe u

/-- Values under names. -/
abbrev Bindings (α : Type u) := List (String × α)

namespace Bindings

variable {α : Type u}

def get? (bindings : Bindings α) (name : String) : Option α :=
  match bindings with
  | [] => none
  | (other, value) :: rest => if other = name then some value else get? rest name

/-- Bind a name to a value, in place of the value it may have had. -/
def set (bindings : Bindings α) (name : String) (value : α) : Bindings α :=
  match bindings with
  | [] => [(name, value)]
  | (other, old) :: rest =>
    if other = name then (name, value) :: rest
    else if name < other then (name, value) :: (other, old) :: rest
    else (other, old) :: set rest name value

/-- Bind the names of a list in order, so that the last value given for a name counts. -/
def ofList (entries : List (String × α)) : Bindings α :=
  entries.foldl (fun bindings entry => bindings.set entry.1 entry.2) []

@[simp] theorem get?_set_self (bindings : Bindings α) (name : String) (value : α) :
    (bindings.set name value).get? name = some value := by
  fun_induction set bindings name value with
  | case1 => simp [get?]
  | case2 => simp [get?]
  | case3 => simp [get?]
  | case4 other old rest different _ ih =>
    simp [get?, different, ih]

@[simp] theorem get?_set_of_ne (bindings : Bindings α) {name other : String} (value : α)
    (different : name ≠ other) :
    (bindings.set name value).get? other = bindings.get? other := by
  fun_induction set bindings name value with
  | case1 => simp [get?, different]
  | case2 => simp [get?, different]
  | case3 => simp [get?, different]
  | case4 next old rest _ _ ih => simp [get?, ih]

end Bindings

end Stencil
