import PluginAudit.Failure
import PluginAudit.Files.Path

namespace PluginAudit

inductive Entry where
  | text (content : String)
  | bytes (content : List UInt8)
  | directory
deriving Repr, DecidableEq

namespace Entry

def isDirectory : Entry → Bool
  | directory => true
  | _ => false

end Entry

structure Disk where
  workingDirectory : Path
  home : Path
  -- Entries under the components of their absolute paths, no path twice.
  entries : List (List String × Entry)
  -- Absolute paths of files that must not be read.
  denied : List (List String)
deriving Repr, DecidableEq

namespace Disk

def nameLimit : Nat := 255

def pathLimit : Nat := 4096

def fault (problem : FileProblem) (path : Path) : FileFault :=
  ⟨problem, path.render⟩

def resolve (disk : Disk) (path : Path) : Except FileFault Path :=
  if path.hasNull then .error (fault .nullCharacter path)
  else .ok { (disk.workingDirectory.under path).normal with start := .root }

def systemHomes : List (String × List String) :=
  [("~root", ["root"]), ("~daemon", ["usr", "sbin"]), ("~bin", ["bin"]), ("~sys", ["dev"]), ("~sync", ["bin"]),
    ("~games", ["usr", "games"]), ("~man", ["var", "cache", "man"]), ("~lp", ["var", "spool", "lpd"]),
    ("~mail", ["var", "mail"]), ("~news", ["var", "spool", "news"]), ("~uucp", ["var", "spool", "uucp"]),
    ("~proxy", ["bin"]), ("~www-data", ["var", "www"]), ("~backup", ["var", "backups"]), ("~list", ["var", "list"]),
    ("~irc", ["run", "ircd"]), ("~_apt", ["nonexistent"]), ("~nobody", ["nonexistent"])]

/-- A path whose first component is a tilde starts at the home directory, and one with a name behind the tilde at the home
directory of that user. -/
def expandHome (disk : Disk) (path : Path) : Except FileFault Path :=
  match path.isAbsolute, path.parts with
  | false, "~" :: rest => .ok { disk.home with parts := disk.home.parts ++ rest }
  | false, first :: rest =>
    match systemHomes.lookup first with
    | some home => .ok { path with start := .root, parts := home ++ rest }
    | none =>
      if first.toList.head? = some '~' then
        .error (fault (if first.toList.contains '\x00' then .nullCharacter else .noHome) path)
      else .ok path
  | _, _ => .ok path

def fullPath (disk : Disk) (path : String) : Except FileFault Path := do
  disk.resolve (← disk.expandHome (Path.ofString path))

def lookUp? (disk : Disk) (parts : List String) : Option Entry :=
  if parts.isEmpty then some .directory else disk.entries.lookup parts

def walk (disk : Disk) (place : List String) : List String → Except FileProblem (List String)
  | [] => .ok place
  | part :: rest =>
    match disk.lookUp? place with
    | some .directory =>
      if nameLimit < part.utf8ByteSize then .error .nameTooLong
      else disk.walk (if part = ".." then place.dropLast else place ++ [part]) rest
    | some _ => .error .notDirectory
    | none => .error .missing

def locate (disk : Disk) (path : Path) : Except FileProblem (List String) :=
  if path.hasNull then .error .nullCharacter
  else if pathLimit ≤ path.render.utf8ByteSize then .error .nameTooLong
  else disk.walk [] (disk.workingDirectory.under path).parts

def stat (disk : Disk) (path : Path) : Except FileProblem Entry := do
  match disk.lookUp? (← disk.locate path) with
  | some entry => .ok entry
  | none => .error .missing

/-- Whether what stands at a path passes a test. Where nothing can stand, nothing passes. -/
def probe (disk : Disk) (path : Path) (test : Entry → Bool) : Except FileFault Bool :=
  match disk.stat path with
  | .ok entry => .ok (test entry)
  | .error problem => if problem.isAbsence then .ok false else .error (fault problem path)

def pathExists (disk : Disk) (path : Path) : Except FileFault Bool :=
  disk.probe path fun _ => true

def isDirectory (disk : Disk) (path : Path) : Except FileFault Bool :=
  disk.probe path Entry.isDirectory

def isFile (disk : Disk) (path : Path) : Except FileFault Bool :=
  disk.probe path (!·.isDirectory)

def plainLines : List Char → List Char
  | '\r' :: '\n' :: rest => '\n' :: plainLines rest
  | '\r' :: rest => '\n' :: plainLines rest
  | c :: rest => c :: plainLines rest
  | [] => []

def plainText (text : String) : String :=
  String.ofList (plainLines text.toList)

def entryText : Entry → Except Utf8.Fault String
  | .text content => .ok (plainText content)
  | .bytes content => (Utf8.decode content).map plainText
  | .directory => .ok ""

def read (disk : Disk) (path : Path) : Except ReadFault String :=
  match disk.locate path with
  | .error problem => .error (.file (fault problem path))
  | .ok place =>
    match disk.lookUp? place with
    | none => .error (.file (fault .missing path))
    | some .directory => .error (.file (fault .directory path))
    | some entry =>
      if disk.denied.contains place then .error (.file (fault .denied path))
      else (entryText entry).mapError .undecodable

def put (disk : Disk) (parts : List String) (entry : Entry) : Disk :=
  if disk.entries.any (·.1 = parts) then
    { disk with entries := disk.entries.map fun old => if old.1 = parts then (parts, entry) else old }
  else { disk with entries := disk.entries ++ [(parts, entry)] }

def addDirectories (disk : Disk) (parts : List String) : Disk :=
  (List.range parts.length).foldl (fun disk n =>
    let parts := parts.take (n + 1)
    if (disk.lookUp? parts).isSome then disk else disk.put parts .directory) disk

def makeDirectory (disk : Disk) (path : Path) : Except FileProblem Disk := do
  let place ← disk.locate path
  if (disk.lookUp? place).isSome then .error .occupied else .ok (disk.put place .directory)

def madeOrThere (disk : Disk) (path : Path) : Except FileProblem Disk → Disk × Option FileFault
  | .ok disk => (disk, none)
  | .error problem =>
    if problem ≠ .missing ∧ (disk.stat path).toOption.any Entry.isDirectory then (disk, none)
    else (disk, some (fault problem path))

def makeDirectoriesUp (disk : Disk) (path : Path) : Nat → Disk × Option FileFault
  | 0 => disk.madeOrThere path (disk.makeDirectory path)
  | height + 1 =>
    match disk.makeDirectory path with
    | .error .missing =>
      match disk.makeDirectoriesUp path.parent height with
      | (disk, none) => disk.madeOrThere path (disk.makeDirectory path)
      | (disk, some fault) => (disk, some fault)
    | result => disk.madeOrThere path result

abbrev Change := ExceptT Failure (StateM Disk)

namespace Change

def run {α : Type} (change : Change α) (disk : Disk) : Except Failure α × Disk :=
  (ExceptT.run change).run disk

def ofExcept {α : Type} (result : Except Failure α) : Change α :=
  ExceptT.mk (pure result)

def makeDirectories (path : Path) : Change Unit := do
  let (disk, fault) := (← get).makeDirectoriesUp path path.parts.length
  set disk
  match fault with
  | none => return ()
  | some fault => throw (.file fault)

/-- Puts what is made of the file at a path in its place; there need not be one yet. -/
def revise (path : Path) (edit : Option Entry → Entry) : Change Unit := do
  let disk ← get
  match disk.locate path with
  | .error problem => throw (.file (fault problem path))
  | .ok place =>
    match disk.lookUp? place with
    | some .directory => throw (.file (fault .directory path))
    | old => set (disk.put place (edit old))

def write (path : Path) (text : String) : Change Unit :=
  revise path fun _ => .text text

def append (path : Path) (text : String) : Change Unit :=
  revise path fun
    | some (.text old) => .text (old ++ text)
    | some (.bytes old) => .bytes (old ++ text.toUTF8.toList)
    | _ => .text text

end Change

def delete (disk : Disk) (parts : List String) : Disk :=
  { disk with entries := disk.entries.filter fun entry => !parts.isPrefixOf entry.1 }

def below (disk : Disk) (directory : Path) : List (List String) :=
  let parts := (disk.workingDirectory.under directory).normal.parts
  (disk.entries.filterMap fun entry =>
    match parts.isPrefixOf? entry.1 with
    | some (name :: rest) => some (name :: rest)
    | _ => none).mergeSort Path.partsLe

def isScript (name : String) : Bool :=
  ".js".toList.isSuffixOf name.toList

def scriptsIn (disk : Disk) (directory : Path) : List String :=
  (disk.below directory).filterMap fun parts =>
    match parts with
    | [name] => if isScript name then some name else none
    | _ => none

def scriptsBelow (disk : Disk) (directory : Path) : List (List String) :=
  (disk.below directory).filter fun parts => (parts.getLast?).any isScript

end Disk

end PluginAudit
