namespace PluginAudit.Yaml

inductive Tag where
  | null
  | bool
  | int
  | float
  | timestamp
  | binary
  | str
  | seq
  | map
  | set
  | omap
  | pairs
  | merge
  | value
  | other
deriving DecidableEq

namespace Tag

def ownStart : List Char :=
  "tag:yaml.org,2002:".toList

def names : List (String × Tag) :=
  [("null", null), ("bool", bool), ("int", int), ("float", float), ("timestamp", timestamp), ("binary", binary),
    ("str", str), ("seq", seq), ("map", map), ("set", set), ("omap", omap), ("pairs", pairs), ("merge", merge),
    ("value", value)]

def ofText (text : List Char) : Tag :=
  ((names.find? fun entry => ownStart ++ entry.1.toList == text).map (·.2)).getD other

end Tag

end PluginAudit.Yaml
