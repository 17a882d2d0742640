namespace PluginAudit.Text

/-- Pieces of a text between marks. There is one more piece than there are marks. -/
def pieces (isMark : Char → Bool) : List Char → List (List Char)
  | [] => [[]]
  | c :: rest =>
    match isMark c, pieces isMark rest with
    | true, found => [] :: found
    | false, piece :: more => (c :: piece) :: more
    | false, [] => [[c]]

end PluginAudit.Text
