import PluginAudit.Text.Pieces

namespace PluginAudit

inductive Start where
  | here
  | root
  -- The root too, but written with two slashes.
  | doubleRoot
deriving Repr, DecidableEq

structure Path where
  start : Start
  parts : List String
deriving Repr, DecidableEq

namespace Start

def ofChars : List Char → Start
  | '/' :: '/' :: '/' :: _ => root
  | '/' :: '/' :: _ => doubleRoot
  | '/' :: _ => root
  | _ => here

def render : Start → String
  | here => ""
  | root => "/"
  | doubleRoot => "//"

end Start

namespace Path

def ofString (text : String) : Path :=
  let chars := text.toList
  { start := .ofChars chars
    parts := ((Text.pieces (· == '/') chars).filter fun piece => piece != [] && piece != ['.']).map String.ofList }

def isAbsolute (path : Path) : Bool :=
  path.start != .here

def render (path : Path) : String :=
  if path.isAbsolute then path.start.render ++ "/".intercalate path.parts
  else if path.parts.isEmpty then "."
  else "/".intercalate path.parts

def name (path : Path) : String :=
  path.parts.getLast?.getD ""

def hasNull (path : Path) : Bool :=
  path.parts.any fun part => part.toList.contains '\x00'

def parent (path : Path) : Path :=
  { path with parts := path.parts.dropLast }

def child (path : Path) (name : String) : Path :=
  { path with parts := path.parts ++ [name] }

def under (directory path : Path) : Path :=
  if path.isAbsolute then path else { directory with parts := directory.parts ++ path.parts }

def lastDot (text : List Char) : Option (List Char × List Char) :=
  let behind := (text.reverse.takeWhile (· != '.')).reverse
  if behind.length = text.length then none
  else some (text.take (text.length - behind.length - 1), behind)

/-- The stem and the suffix of a file name. A dot that is the first or the last character starts no suffix. -/
def splitName (name : String) : String × String :=
  match lastDot name.toList with
  | some (before, behind) =>
    if before.isEmpty || behind.isEmpty then (name, "")
    else (String.ofList before, "." ++ String.ofList behind)
  | none => (name, "")

def stem (path : Path) : String :=
  (splitName path.name).1

def suffix (path : Path) : String :=
  (splitName path.name).2

def normal (path : Path) : Path :=
  { path with
    parts := (path.parts.foldl (fun done part => if part = ".." then done.drop 1 else part :: done) []).reverse }

def partsLe : List String → List String → Bool
  | [], _ => true
  | _ :: _, [] => false
  | a :: as, b :: bs => a < b || (a == b && partsLe as bs)

end Path

end PluginAudit
