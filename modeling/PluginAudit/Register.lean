namespace PluginAudit

abbrev Register (α : Type) := List (String × α)

namespace Register

variable {α : Type}

def get? (register : Register α) (name : String) : Option α :=
  List.lookup name register

def names (register : Register α) : List String :=
  register.map Prod.fst

/-- Changes what stands under a name; a new name goes to the end. -/
def alter (register : Register α) (name : String) (change : Option α → α) : Register α :=
  match register with
  | [] => [(name, change none)]
  | (other, a) :: rest =>
    if other = name then (other, change (some a)) :: rest else (other, a) :: alter rest name change

def put (register : Register α) (name : String) (a : α) : Register α :=
  register.alter name fun _ => a

def ofList (pairs : List (String × α)) : Register α :=
  pairs.foldl (fun register pair => register.put pair.1 pair.2) []

theorem get?_alter_self (register : Register α) (name : String) (change : Option α → α) :
    (register.alter name change).get? name = some (change (register.get? name)) := by
  induction register with
  | nil => simp [alter, get?]
  | cons pair rest ih =>
    obtain ⟨other, a⟩ := pair
    by_cases h : other = name
    · subst h
      simp [alter, get?]
    · have h' : (name == other) = false := by simpa using Ne.symm h
      simpa [alter, get?, List.lookup_cons, h, h'] using ih

theorem get?_alter_of_ne {name other : String} (register : Register α) (change : Option α → α) (h : other ≠ name) :
    (register.alter name change).get? other = register.get? other := by
  induction register with
  | nil =>
    have h' : (other == name) = false := by simpa using h
    simp [alter, get?, List.lookup_cons, h']
  | cons pair rest ih =>
    obtain ⟨first, a⟩ := pair
    by_cases hf : first = name
    · subst hf
      have h' : (other == first) = false := by simpa using h
      simp [alter, get?, List.lookup_cons, h']
    · by_cases ho : other = first
      · subst ho
        simp [alter, get?, hf]
      · have h' : (other == first) = false := by simpa using ho
        simpa [alter, get?, List.lookup_cons, hf, h'] using ih

theorem get?_put_self (register : Register α) (name : String) (a : α) : (register.put name a).get? name = some a :=
  get?_alter_self register name _

theorem get?_put_of_ne {name other : String} (register : Register α) (a : α) (h : other ≠ name) :
    (register.put name a).get? other = register.get? other :=
  get?_alter_of_ne register _ h

end Register

end PluginAudit
