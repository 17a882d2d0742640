import PluginAudit.Value.Basic

namespace PluginAudit.Log

abbrev Level := Int

namespace Level

def debug : Level := 10

def info : Level := 20

def warning : Level := 30

def error : Level := 40

def critical : Level := 50

def named : List (String × Level) :=
  [("DEBUG", debug), ("INFO", info), ("WARNING", warning), ("ERROR", error), ("CRITICAL", critical)]

def ofName? (name : String) : Option Level :=
  List.lookup name named

def name (level : Level) : String :=
  if level = 0 then "NOTSET"
  else
    match named.find? (·.2 = level) with
    | some (name, _) => name
    | none => s!"Level {level}"

end Level

structure Record where
  level : Level
  logger : String
  message : String
  -- Named data of an event; a plain record has none.
  fields : List (String × Value)
deriving Repr, Inhabited

namespace Record

def plain (level : Level) (logger message : String) : Record :=
  ⟨level, logger, message, []⟩

end Record

def rootName : String :=
  "mzguard"

end PluginAudit.Log
