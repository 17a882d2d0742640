namespace PluginAudit.Script.Signature

def marker : List Char :=
  ".prototype.".toList

def cut? : List Char → Option (List Char × List Char)
  | [] => none
  | c :: rest =>
    match marker.isPrefixOf? (c :: rest) with
    | some method => some ([], method)
    | none => (cut? rest).map fun parts => (c :: parts.1, parts.2)

def make (owner method : String) : String :=
  owner ++ String.ofList marker ++ method

/-- Class and method of a signature. A text without marker stands for both. -/
def split (signature : String) : String × String :=
  match cut? signature.toList with
  | some (owner, method) => (String.ofList owner, String.ofList method)
  | none => (signature, signature)

end PluginAudit.Script.Signature
