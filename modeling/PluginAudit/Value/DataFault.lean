import PluginAudit.Calendar
import PluginAudit.Number.Reader
import PluginAudit.Text.Quoted

namespace PluginAudit

inductive DataFault where
  | longInteger (limit digits : Nat)
  -- An integer with more digits than may be written.
  | unwritableInteger (limit : Nat)
  | notInteger (base : Nat) (text : String)
  | notFloat (text : String)
  | noNumber
  | tooLargeForFloat
  | infinity
  | notTruth (text : String)
  | notTime
  | notTimeText
  | codePoint
  | largeCode
  | calendar (fault : Calendar.Fault)
deriving Repr, DecidableEq

namespace DataFault

def label : DataFault → String
  | noNumber => "IndexError"
  | tooLargeForFloat => "OverflowError"
  | infinity => "OverflowError"
  | notTruth _ => "KeyError"
  | notTime => "AttributeError"
  | notTimeText => "TypeError"
  | largeCode => "OverflowError"
  | _ => "ValueError"

def limitText (limit : Nat) : String :=
  s!"Exceeds the limit ({limit} digits) for integer string conversion"

def limitAdvice : String :=
  "; use sys.set_int_max_str_digits() to increase the limit"

def message : DataFault → String
  | longInteger limit digits => limitText limit ++ s!": value has {digits} digits" ++ limitAdvice
  | unwritableInteger limit => limitText limit ++ limitAdvice
  | notInteger base text => s!"invalid literal for int() with base {base}: {Text.quoted text}"
  | notFloat text => "could not convert string to float: " ++ Text.quoted text
  | noNumber => "string index out of range"
  | tooLargeForFloat => "int too large to convert to float"
  | infinity => "cannot convert float infinity to integer"
  | notTruth text => Text.quoted text
  | notTime => "'NoneType' object has no attribute 'groupdict'"
  | notTimeText => "expected string or bytes-like object, got 'list'"
  | codePoint => "chr() arg not in range(0x110000)"
  | largeCode => "Python int too large to convert to C int"
  | calendar fault => fault.message

end DataFault

end PluginAudit
