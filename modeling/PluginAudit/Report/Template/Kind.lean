import PluginAudit.Text.Quoted

namespace PluginAudit.Template

inductive Kind where
  | text
  | whole
  | object
  | metakind
  | tuple
  | nothing
  | method
  | slot
  | getter
  | field
  | kindMethod
  | function
  | boundSlot
  | view
deriving DecidableEq

inductive EntryForm where
  | method
  -- A method with a place of its own in each object.
  | slot
  | getter
  | field
  -- A method of kinds and not of their objects.
  | kindMethod
  | function
  | static
  | value
deriving DecidableEq

structure Entry where
  name : String
  form : EntryForm
deriving DecidableEq

structure Sizes where
  basic : Nat
  item : Nat
  flags : Nat
  map : Nat
  weak : Nat
deriving DecidableEq

namespace Entry

/-- Whether an object's own kind decides on a member before the kind that the object may be itself. -/
def isData (entry : Entry) : Bool :=
  entry.form = .getter || entry.form = .field

end Entry

namespace Kind

def name : Kind → String
  | text => "str"
  | whole => "int"
  | object => "object"
  | metakind => "type"
  | tuple => "tuple"
  | nothing => "NoneType"
  | method => "method_descriptor"
  | slot => "wrapper_descriptor"
  | getter => "getset_descriptor"
  | field => "member_descriptor"
  | kindMethod => "classmethod_descriptor"
  | function => "builtin_function_or_method"
  | boundSlot => "method-wrapper"
  | view => "mappingproxy"

def base? : Kind → Option Kind
  | object => none
  | _ => some object

def line (kind : Kind) : List Kind :=
  kind :: kind.base?.toList

def signature? : Kind → Option String
  | object => some "()"
  | tuple => some "(iterable=(), /)"
  | _ => none

def docLines : Kind → List String
  | text => [
    "str(object='') -> str", "str(bytes_or_buffer[, encoding[, errors]]) -> str", "",
    "Create a new string object from the given object. If encoding or",
    "errors is specified, then the object must expose a data buffer",
    "that will be decoded using the given encoding and error handler.",
    "Otherwise, returns the result of object.__str__() (if defined)", "or repr(object).",
    "encoding defaults to sys.getdefaultencoding().", "errors defaults to 'strict'."]
  | whole => [
    "int([x]) -> integer", "int(x, base=10) -> integer", "",
    "Convert a number or string to an integer, or return 0 if no arguments",
    "are given.  If x is a number, return x.__int__().  For floating point", "numbers, this truncates towards zero.",
    "", "If x is not a number or if base is given, then x must be a string,",
    "bytes, or bytearray instance representing an integer literal in the",
    "given base.  The literal can be preceded by '+' or '-' and be surrounded",
    "by whitespace.  The base defaults to 10.  Valid bases are 0 and 2-36.",
    "Base 0 means to interpret the base from the string as an integer literal.", ">>> int('0b100', base=0)", "4"]
  | object => [
    "The base class of the class hierarchy.", "", "When called, it accepts no arguments and returns a new featureless",
    "instance that has no instance attributes and cannot be given any.", ""]
  | metakind => [
    "type(object) -> the object's type", "type(name, bases, dict, **kwds) -> a new type"]
  | tuple => [
    "Built-in immutable sequence.", "", "If no argument is given, the constructor returns an empty tuple.",
    "If iterable is specified the tuple is initialized from iterable's items.", "",
    "If the argument is a tuple, the return value is the same object."]
  | _ => []

def doc? (kind : Kind) : Option String :=
  if kind.docLines.isEmpty then none else some ("\n".intercalate kind.docLines)

def sizes : Kind → Sizes
  | text => ⟨80, 0, 273159424, 0, 0⟩
  | whole => ⟨24, 4, 21501184, 0, 0⟩
  | object => ⟨16, 0, 529664, 0, 0⟩
  | metakind => ⟨904, 40, 2148031744, 264, 368⟩
  | tuple => ⟨24, 8, 71849248, 0, 0⟩
  | nothing => ⟨16, 0, 528640, 0, 0⟩
  | method => ⟨56, 0, 678272, 0, 0⟩
  | slot => ⟨56, 0, 676224, 0, 0⟩
  | getter => ⟨48, 0, 545152, 0, 0⟩
  | field => ⟨48, 0, 545152, 0, 0⟩
  | kindMethod => ⟨56, 0, 545152, 0, 0⟩
  | function => ⟨56, 0, 547200, 0, 40⟩
  | boundSlot => ⟨32, 0, 545152, 0, 0⟩
  | view => ⟨24, 0, 545088, 0, 0⟩

end Kind

end PluginAudit.Template
