namespace PluginAudit.Text

def commonLength : List Char → List Char → Nat
  | a :: as, b :: bs => if a = b then commonLength as bs + 1 else 0
  | _, _ => 0

structure CommonRun where
  length : Nat
  first : Nat
  second : Nat

/-- The longest run that two texts have in common. Of several, the one that comes first in the first text, then in the
second one. -/
def longestRun (first second : List Char) : CommonRun :=
  (List.range first.length).foldl (fun best i =>
    (List.range second.length).foldl (fun best j =>
      let length := commonLength (first.drop i) (second.drop j)
      if best.length < length then ⟨length, i, j⟩ else best) best) ⟨0, 0, 0⟩

/-- Characters in common runs: the longest one, and then those before it and behind it, up to a given depth. -/
def sharedLength : Nat → List Char → List Char → Nat
  | 0, _, _ => 0
  | depth + 1, first, second =>
    let run := longestRun first second
    if run.length = 0 then 0
    else
      run.length + sharedLength depth (first.take run.first) (second.take run.second) +
        sharedLength depth (first.drop (run.first + run.length)) (second.drop (run.second + run.length))

def similarity (first second : String) : Nat × Nat :=
  (2 * sharedLength first.length first.toList second.toList, first.length + second.length)

/-- Whether two texts are so similar that one may be meant for the other. They share no more than the shorter one has. -/
def isNear (first second : String) : Bool :=
  let (shared, total) := similarity first second
  3 * total ≤ 10 * min first.length second.length && 3 * total ≤ 5 * shared

/-- The order in which texts are proposed: the more similar one first, then the one that comes later by its characters. -/
def proposedBefore (word first second : String) : Bool :=
  let (a, b) := similarity first word
  let (c, d) := similarity second word
  c * b < a * d || (a * d == c * b && second ≤ first)

def proposalLimit : Nat := 3

def nearest (word : String) (texts : List String) : List String :=
  ((texts.filter fun text => isNear text word).mergeSort (proposedBefore word)).take proposalLimit

end PluginAudit.Text
