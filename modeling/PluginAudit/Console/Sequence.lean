namespace PluginAudit.Sequence

def behind? (text : List Char) : Option (List Char) :=
  let text := text.dropWhile fun c => '0' ≤ c && c ≤ '?'
  match text.dropWhile fun c => ' ' ≤ c && c ≤ '/' with
  | c :: rest => if '@' ≤ c && c ≤ '~' then some rest else none
  | [] => none

/-- A text without its control sequences; `fuel` is at least its length. -/
def removeFrom : Nat → List Char → List Char
  | 0, _ => []
  | _ + 1, [] => []
  | fuel + 1, c :: rest =>
    match c, rest with
    | '\x1b', '[' :: more =>
      match behind? more with
      | some text => removeFrom fuel text
      | none => c :: removeFrom fuel rest
    | _, _ => c :: removeFrom fuel rest

def remove (text : String) : String :=
  String.ofList (removeFrom text.length text.toList)

end PluginAudit.Sequence
