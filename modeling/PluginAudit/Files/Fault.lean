import PluginAudit.Text.Quoted

namespace PluginAudit

inductive FileProblem where
  | missing
  | directory
  | denied
  | occupied
  | notDirectory
  | nameTooLong
  | nullCharacter
  -- The path starts at the home directory of somebody who is not known.
  | noHome
deriving Repr, DecidableEq

structure FileFault where
  problem : FileProblem
  path : String
deriving Repr, DecidableEq

namespace FileProblem

def label : FileProblem → String
  | missing => "FileNotFoundError"
  | directory => "IsADirectoryError"
  | denied => "PermissionError"
  | occupied => "FileExistsError"
  | notDirectory => "NotADirectoryError"
  | nameTooLong => "OSError"
  | nullCharacter => "ValueError"
  | noHome => "RuntimeError"

def text : FileProblem → String
  | missing => "[Errno 2] No such file or directory"
  | directory => "[Errno 21] Is a directory"
  | denied => "[Errno 13] Permission denied"
  | occupied => "[Errno 17] File exists"
  | notDirectory => "[Errno 20] Not a directory"
  | nameTooLong => "[Errno 36] File name too long"
  | nullCharacter => "embedded null byte"
  | noHome => "Could not determine home directory."

def isImproper : FileProblem → Bool
  | nullCharacter => true
  | noHome => true
  | _ => false

def isAbsence : FileProblem → Bool
  | missing => true
  | notDirectory => true
  | nullCharacter => true
  | _ => false

end FileProblem

namespace FileFault

def message (fault : FileFault) : String :=
  if fault.problem.isImproper then fault.problem.text
  else fault.problem.text ++ ": " ++ Text.quoted fault.path

end FileFault

end PluginAudit
