/-
# Named values

Bindings give texts to names. They keep the order in which the names were first bound; binding a
name again changes its value and not its place.
-/

namespace Reckoner

/-- Names with their values, each name once. -/
abbrev Bindings := List (String × String)

namespace Bindings

/-- The bindings with `name` bound to `value`. -/
def set (name value : String) : Bindings → Bindings
  | [] => [(name, value)]
  | (n, v) :: rest => if n = name then (n, value) :: rest else (n, v) :: set name value rest

/-- The value of a name. -/
def find? (bindings : Bindings) (name : String) : Option String := bindings.lookup name

/-- The bindings with those of `later` made in turn. -/
def merge (bindings later : Bindings) : Bindings :=
  later.foldl (fun bindings p => bindings.set p.1 p.2) bindings

/-- The names in order. -/
def names (bindings : Bindings) : List String := bindings.map Prod.fst

/-- A name that is bound has its new text. -/
@[simp] theorem find?_set_self (bindings : Bindings) (name value : String) :
    (bindings.set name value).find? name = some value := by
  fun_induction set name value bindings <;> simp_all [find?, List.lookup_cons]
  rename_i h _
  simp [beq_false_of_ne (Ne.symm h), *]

/-- Binding a name leaves the texts of the others. -/
theorem find?_set_of_ne (bindings : Bindings) {name other : String} (value : String)
    (h : other ≠ name) : (bindings.set name value).find? other = bindings.find? other := by
  fun_induction set name value bindings <;> simp_all [find?, List.lookup_cons, beq_false_of_ne]

end Bindings
end Reckoner
