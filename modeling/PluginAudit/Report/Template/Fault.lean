import PluginAudit.Text.Quoted

namespace PluginAudit.Template

open PluginAudit.Text

inductive Fault where
  | unknownName (name : String)
  | noPosition (n : Nat)
  | singleOpening
  | singleClosing
  | openingInName
  | unclosedField
  | noConversion
  | unknownConversion (c : Char)
  | noColon
  | unclosedFormat
  | tooDeep
  | tooManyDigits
  | emptyStep
  | unclosedItem
  | badStep
  | noAttribute (owner name : String)
  | unset (name : String)
  | noCharacter
  | namedCharacter
  | noKind
  | namedKind
  | noEntry (name : String)
  | noItems (owner : String)
  | notGeneric (shown : String)
  | invalidFormat (format kind : String)
  | unknownCode (code : Char) (kind : String)
  | noFormats (kind : String)
  | signedText
  | spacedText
  | unsignedZero (kind : String)
  | alternateText
  | alignedText
  | precisionOfCount
  | signedCharacter
  | alternateCharacter
  | characterRange
  | noPrecision
  | longPrecision
  | twoSeparators
  | separatorOf (mark code : Char)
  | tooLong
deriving DecidableEq

/-- A format code as messages show it: a visible ASCII character by itself, any other by its number. -/
def shownCode (limit : Nat) (c : Char) : String :=
  String.ofList (if 32 < c.toNat ∧ c.toNat < limit then [c] else '\\' :: 'x' :: hex 1 c.toNat)

namespace Fault

def label : Fault → String
  | unknownName _ => "KeyError"
  | noPosition _ => "IndexError"
  | noCharacter => "IndexError"
  | noKind => "IndexError"
  | noEntry _ => "KeyError"
  | noAttribute _ _ => "AttributeError"
  | unset _ => "AttributeError"
  | namedCharacter => "TypeError"
  | namedKind => "TypeError"
  | noItems _ => "TypeError"
  | notGeneric _ => "TypeError"
  | noFormats _ => "TypeError"
  | characterRange => "OverflowError"
  | tooLong => "MemoryError"
  | _ => "ValueError"

def message : Fault → String
  | unknownName name => quoted name
  | noPosition n => s!"Replacement index {n} out of range for positional args tuple"
  | singleOpening => "Single '\x7b' encountered in format string"
  | singleClosing => "Single '\x7d' encountered in format string"
  | openingInName => "unexpected '\x7b' in field name"
  | unclosedField => "expected '\x7d' before end of string"
  | noConversion => "end of string while looking for conversion specifier"
  | unknownConversion c => "Unknown conversion specifier " ++ shownCode 127 c
  | noColon => "expected ':' after conversion specifier"
  | unclosedFormat => "unmatched '\x7b' in format spec"
  | tooDeep => "Max string recursion exceeded"
  | tooManyDigits => "Too many decimal digits in format string"
  | emptyStep => "Empty attribute in format string"
  | unclosedItem => "Missing ']' in format string"
  | badStep => "Only '.' or '[' may follow ']' in format field specifier"
  | noAttribute owner name => s!"{owner} has no attribute '{name}'"
  | unset name => name
  | noCharacter => "string index out of range"
  | noKind => "tuple index out of range"
  | namedKind => "tuple indices must be integers or slices, not str"
  | noEntry name => name
  | namedCharacter => "string indices must be integers, not 'str'"
  | noItems owner => owner ++ " is not subscriptable"
  | notGeneric shown => shown ++ " is not a generic class"
  | invalidFormat format kind => s!"Invalid format specifier '{format}' for object of type '{kind}'"
  | unknownCode code kind => s!"Unknown format code '{shownCode 128 code}' for object of type '{kind}'"
  | noFormats kind => s!"unsupported format string passed to {kind}.__format__"
  | signedText => "Sign not allowed in string format specifier"
  | spacedText => "Space not allowed in string format specifier"
  | unsignedZero kind => s!"Negative zero coercion (z) not allowed in {kind} format specifier"
  | alternateText => "Alternate form (#) not allowed in string format specifier"
  | alignedText => "'=' alignment not allowed in string format specifier"
  | precisionOfCount => "Precision not allowed in integer format specifier"
  | signedCharacter => "Sign not allowed with integer format specifier 'c'"
  | alternateCharacter => "Alternate form (#) not allowed with integer format specifier 'c'"
  | characterRange => "%c arg not in range(0x110000)"
  | noPrecision => "Format specifier missing precision"
  | longPrecision => "precision too big"
  | twoSeparators => "Cannot specify both ',' and '_'."
  | separatorOf mark code => s!"Cannot specify '{mark}' with '{shownCode 128 code}'."
  | tooLong => ""

end Fault

end PluginAudit.Template
