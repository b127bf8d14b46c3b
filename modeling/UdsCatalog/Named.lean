/-! Named things in a row: a name that is given a new thing keeps its place. -/

namespace UdsCatalog

/-- What is left out under one key is still found under all others. -/
theorem lookup_filter_ne {κ α : Type} [BEq κ] [LawfulBEq κ] {key other : κ} (apart : other ≠ key)
    (things : List (κ × α)) :
    (things.filter fun (name, _) => name != key).lookup other = things.lookup other := by
  induction things with
  | nil => rfl
  | cons first rest ih =>
    obtain ⟨name, a⟩ := first
    by_cases same : name = key
    · -- The thing that is left out is not the one that is looked for.
      have differs : (other == key) = false := by simp [apart]
      simp [same, List.lookup_cons, differs, ih]
    · simp [same, List.lookup_cons, ih]

/-- Things with names. -/
abbrev Named (α : Type) := List (String × α)

/-- Puts a thing under a name that is there, or behind the others. -/
def Named.put {α : Type} (name : String) (a : α) : Named α → Named α
  | [] => [(name, a)]
  | (other, kept) :: rest =>
    if other == name then (name, a) :: rest else (other, kept) :: put name a rest

/-- Under the name that was given a thing, that thing is found. -/
theorem Named.lookup_put_self {α : Type} (name : String) (a : α) (things : Named α) :
    (put name a things).lookup name = some a := by
  induction things with
  | nil => simp [put]
  | cons first rest ih =>
    obtain ⟨other, kept⟩ := first
    -- The new thing either takes the place of the first one or goes further back.
    by_cases same : other = name
    · simp [put, same]
    · have apart : (name == other) = false := by simp [Ne.symm same]
      simp [put, same, List.lookup_cons, apart, ih]

/-- All other names stand for what they stood for. -/
theorem Named.lookup_put_other {α : Type} {name other : String} (a : α) (things : Named α)
    (apart : other ≠ name) : (put name a things).lookup other = things.lookup other := by
  have differs : (other == name) = false := by simp [apart]
  induction things with
  | nil => simp [put, List.lookup_cons, differs]
  | cons first rest ih =>
    obtain ⟨key, kept⟩ := first
    -- Where the name is found, the other key skips the thing before and after.
    by_cases same : key = name
    · simp [put, same, List.lookup_cons, differs]
    · simp [put, same, List.lookup_cons, ih]

end UdsCatalog
