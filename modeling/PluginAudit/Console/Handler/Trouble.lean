import PluginAudit.Number.Reader
import PluginAudit.Text.Digit
import PluginAudit.Text.Printable
import PluginAudit.Text.Quoted

namespace PluginAudit.Handler

open PluginAudit.Text

inductive EscapeTrouble where
  -- An escape of a text, from the first of its bytes to the last one.
  | escape (first last : Nat) (reason : String)
  | byteCode (place : Nat)
deriving DecidableEq

inductive FieldTrouble where
  | endMissing
  | loneEnd
  | empty
  | missingBefore (mark : Char)
  | deep
  | manyBrackets
  | backslash
  | comment
  | unterminated
  | unmatched (bracket : Char)
  | mismatched (close opened : Char)
  | conversion
deriving DecidableEq

/-- What is wrong with the names behind the word for a function. -/
inductive ParameterTrouble where
  | order
  | parenthesized
  | noneBeforeSlash
  | manySlashes
  | slashBehindStar
  | commaBeforeStar
  | noneBehindStar
  | starDefault
  | manyStars
  | doubleStarDefault
  | behindDoubleStar
  | defaultMissing
deriving DecidableEq

inductive Trouble where
  | unterminated (triple : Bool) (line : Nat)
  | unmatched (close : Char)
  | mismatched (close opened : Char) (line : Option Nat)
  | neverClosed (opened : Char)
  | tooDeep
  | character (c : Char)
  | number (kind : String)
  | wrongDigit (digit : Char) (kind : String)
  | leadingZeros
  | longNumber (digits : Nat)
  | continuation
  | unexpectedEnd
  | unexpectedIndent
  | unexpectedUnindent
  | unevenIndent
  | mixedIndent
  | deepIndent
  | mixedTexts
  | wideBytes
  | escape (trouble : EscapeTrouble)
  | field (trouble : FieldTrouble)
  | missingComma
  | missingElse
  | missingItem
  | missingColon
  | starredItem
  | starred
  | doubleStarred
  | starredSource
  | doubleStarredSource
  | bareTarget
  | nameAssigned
  | assignedHere (what : String)
  | assigned (what : String)
  | argumentAssigned
  | namedWith (what : String)
  | bareSource
  | itemsBehindPairs
  | itemBehindNamed
  | itemBehindPairs
  | statement (word : String)
  | parameter (trouble : ParameterTrouble)
  | other
  | inField (trouble : Trouble)
deriving DecidableEq

namespace EscapeTrouble

def message : EscapeTrouble → String
  | escape first last reason =>
    s!"(unicode error) 'unicodeescape' codec can't decode bytes in position {first}-{last}: {reason}"
  | byteCode place => s!"(value error) invalid \\x escape at position {place}"

end EscapeTrouble

namespace FieldTrouble

def message : FieldTrouble → String
  | endMissing => "f-string: expecting '\x7d'"
  | loneEnd => "f-string: single '\x7d' is not allowed"
  | empty => "f-string: empty expression not allowed"
  | missingBefore mark => s!"f-string: expression required before '{mark}'"
  | deep => "f-string: expressions nested too deeply"
  | manyBrackets => "f-string: too many nested parenthesis"
  | backslash => "f-string expression part cannot include a backslash"
  | comment => "f-string expression part cannot include '#'"
  | unterminated => "f-string: unterminated string"
  | unmatched bracket => s!"f-string: unmatched '{bracket}'"
  | mismatched close opened =>
    s!"f-string: closing parenthesis '{close}' does not match opening parenthesis '{opened}'"
  | conversion => "f-string: invalid conversion character: expected 's', 'r', or 'a'"

end FieldTrouble

namespace ParameterTrouble

def message : ParameterTrouble → String
  | order => "non-default argument follows default argument"
  | parenthesized => "Lambda expression parameters cannot be parenthesized"
  | noneBeforeSlash => "at least one argument must precede /"
  | manySlashes => "/ may appear only once"
  | slashBehindStar => "/ must be ahead of *"
  | commaBeforeStar => "expected comma between / and *"
  | noneBehindStar => "named arguments must follow bare *"
  | starDefault => "var-positional argument cannot have default value"
  | manyStars => "* argument may appear only once"
  | doubleStarDefault => "var-keyword argument cannot have default value"
  | behindDoubleStar => "arguments cannot follow var-keyword argument"
  | defaultMissing => "expected default value expression"

end ParameterTrouble

namespace Trouble

def message : Trouble → String
  | unterminated false line => s!"unterminated string literal (detected at line {line})"
  | unterminated true line => s!"unterminated triple-quoted string literal (detected at line {line})"
  | unmatched close => s!"unmatched '{close}'"
  | mismatched close opened none => s!"closing parenthesis '{close}' does not match opening parenthesis '{opened}'"
  | mismatched close opened (some line) =>
    s!"closing parenthesis '{close}' does not match opening parenthesis '{opened}' on line {line}"
  | neverClosed opened => s!"'{opened}' was never closed"
  | tooDeep => "too many nested parentheses"
  | character c =>
    let code := String.ofList (hexCapital 4 c.toNat)
    if isPrintable c then s!"invalid character '{c}' (U+{code})" else s!"invalid non-printable character U+{code}"
  | number kind => s!"invalid {kind} literal"
  | wrongDigit digit kind => s!"invalid digit '{digit}' in {kind} literal"
  | leadingZeros =>
    "leading zeros in decimal integer literals are not permitted; use an 0o prefix for octal integers"
  | longNumber digits =>
    s!"Exceeds the limit ({Number.digitLimit} digits) for integer string conversion: value has {digits} digits; " ++
      "use sys.set_int_max_str_digits() to increase the limit - Consider hexadecimal for huge integer literals to avoid " ++
      "decimal conversion limits."
  | continuation => "unexpected character after line continuation character"
  | unexpectedEnd => "unexpected EOF while parsing"
  | unexpectedIndent => "unexpected indent"
  | unexpectedUnindent => "unexpected unindent"
  | unevenIndent => "unindent does not match any outer indentation level"
  | mixedIndent => "inconsistent use of tabs and spaces in indentation"
  | deepIndent => "too many levels of indentation"
  | mixedTexts => "cannot mix bytes and nonbytes literals"
  | wideBytes => "bytes can only contain ASCII literal characters"
  | escape trouble => trouble.message
  | field trouble => trouble.message
  | missingComma => "invalid syntax. Perhaps you forgot a comma?"
  | missingElse => "expected 'else' after 'if' expression"
  | missingItem => "expression expected after dictionary key and ':'"
  | missingColon => "':' expected after dictionary key"
  | starredItem => "cannot use a starred expression in a dictionary value"
  | starred => "cannot use starred expression here"
  | doubleStarred => "cannot use double starred expression here"
  | starredSource => "iterable unpacking cannot be used in comprehension"
  | doubleStarredSource => "dict unpacking cannot be used in dict comprehension"
  | bareTarget => "did you forget parentheses around the comprehension target?"
  | nameAssigned => "invalid syntax. Maybe you meant '==' or ':=' instead of '='?"
  | assignedHere what => s!"cannot assign to {what} here. Maybe you meant '==' instead of '='?"
  | assigned what => "cannot assign to " ++ what
  | argumentAssigned => "expression cannot contain assignment, perhaps you meant \"==\"?"
  | namedWith what => "cannot use assignment expressions with " ++ what
  | bareSource => "Generator expression must be parenthesized"
  | itemsBehindPairs => "iterable argument unpacking follows keyword argument unpacking"
  | itemBehindNamed => "positional argument follows keyword argument"
  | itemBehindPairs => "positional argument follows keyword argument unpacking"
  | statement word => s!"Missing parentheses in call to '{word}'. Did you mean {word}(...)?"
  | parameter trouble => trouble.message
  | other => "invalid syntax"
  | inField trouble => "f-string: " ++ trouble.message

end Trouble

end PluginAudit.Handler
