import PluginAudit.Text.Blank
import PluginAudit.Text.Finder
import PluginAudit.Script.Blanking

namespace PluginAudit.Script

open PluginAudit.Text

structure Annotations where
  base : List String
  orderAfter : List String
  orderBefore : List String
  description : String
deriving Repr, DecidableEq

namespace Annotations

/-- The first complete `/*: … */` of a script, with its marks; empty if there is none. -/
def blockOf : List Char → List Char
  | [] => []
  | c :: rest =>
    match "/*:".toList.isPrefixOf? (c :: rest) with
    | some body => (blockEnd? body).elim [] fun n => "/*:".toList ++ body.take n
    | none => blockOf rest

def value (tag : String) : Finder String := fun _ text => do
  let rest ← tag.toList.isPrefixOf? text
  let gap := rest.takeWhile isBlank
  let word := (rest.dropWhile isBlank).takeWhile (!isBlank ·)
  if gap.isEmpty || word.isEmpty then none
  else some (String.ofList word, tag.length + gap.length + word.length)

def line (tag : String) : Finder String := fun _ text => do
  let rest ← tag.toList.isPrefixOf? text
  let gap := rest.takeWhile fun c => c == ' ' || c == '\t'
  let words := (rest.drop gap.length).takeWhile (· != '\n')
  if gap.isEmpty then none
  else some (String.ofList (trim words), tag.length + gap.length + words.length)

def ofSource (source : String) : Annotations :=
  let block := blockOf source.toList
  { base := (value "@base").all block
    orderAfter := (value "@orderAfter").all block
    orderBefore := (value "@orderBefore").all block
    description := ((line "@plugindesc").first? block).getD "" }

end Annotations

end PluginAudit.Script
