namespace PluginAudit.Text

/-- Letters beyond ASCII that are other cases or joined forms of ASCII letters. -/
def asciiForms : List (Char × String) :=
  [('\u00df', "ss"), ('\u017f', "s"), ('\u1e9e', "ss"), ('\u212a', "k"), ('\ufb00', "ff"), ('\ufb01', "fi"),
    ('\ufb02', "fl"), ('\ufb03', "ffi"), ('\ufb04', "ffl"), ('\ufb05', "st"), ('\ufb06', "st")]

def foldChar (c : Char) : List Char :=
  match asciiForms.lookup c with
  | some letters => letters.toList
  | none => [c.toLower]

def fold (word : String) : String :=
  String.ofList (word.toList.flatMap foldChar)

end PluginAudit.Text
