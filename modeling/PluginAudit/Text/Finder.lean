namespace PluginAudit.Text

/-- Looks at the text at one place, knowing the character before it, and tells what stands there and how many
characters it takes. -/
abbrev Finder (α : Type) := Option Char → List Char → Option (α × Nat)

namespace Finder

def allFrom {α : Type} (find : Finder α) : Option Char → Nat → List Char → List α
  | _, _, [] => []
  | _, skip + 1, c :: rest => allFrom find (some c) skip rest
  | previous, 0, c :: rest =>
    match find previous (c :: rest) with
    | some (found, taken) => found :: allFrom find (some c) (taken - 1) rest
    | none => allFrom find (some c) 0 rest

def all {α : Type} (find : Finder α) (text : List Char) : List α :=
  allFrom find none 0 text

def first? {α : Type} (find : Finder α) (text : List Char) : Option α :=
  (find.all text).head?

theorem all_nil {α : Type} (find : Finder α) : find.all [] = [] := rfl

end Finder

end PluginAudit.Text
