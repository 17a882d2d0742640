import PluginAudit.Report.Template.Kind
import PluginAudit.Text.Pieces

namespace PluginAudit.Template

namespace Kind

/-- The names of members in their order, with blanks between those that follow each other and have one form. -/
def memberNames : Kind → List (EntryForm × String)
  | text => [
    (.function, "__new__"),
    (.slot, "__repr__ __hash__ __str__ __getattribute__ __lt__ __le__ __eq__ __ne__ __gt__ __ge__ __iter__"),
    (.slot, "__mod__ __rmod__ __len__ __getitem__ __add__ __mul__ __rmul__ __contains__"),
    (.method, "encode replace split rsplit join capitalize casefold title center count expandtabs find partition"),
    (.method, "index ljust lower lstrip rfind rindex rjust rstrip rpartition splitlines strip swapcase translate"),
    (.method, "upper startswith endswith removeprefix removesuffix isascii islower isupper istitle isspace"),
    (.method, "isdecimal isdigit isnumeric isalpha isalnum isidentifier isprintable zfill format format_map"),
    (.method, "__format__"), (.static, "maketrans"), (.method, "__sizeof__ __getnewargs__"), (.value, "__doc__")]
  | whole => [
    (.function, "__new__"),
    (.slot, "__repr__ __hash__ __getattribute__ __lt__ __le__ __eq__ __ne__ __gt__ __ge__ __add__ __radd__"),
    (.slot, "__sub__ __rsub__ __mul__ __rmul__ __mod__ __rmod__ __divmod__ __rdivmod__ __pow__ __rpow__ __neg__"),
    (.slot, "__pos__ __abs__ __bool__ __invert__ __lshift__ __rlshift__ __rshift__ __rrshift__ __and__ __rand__"),
    (.slot, "__xor__ __rxor__ __or__ __ror__ __int__ __float__ __floordiv__ __rfloordiv__ __truediv__"),
    (.slot, "__rtruediv__ __index__"), (.method, "conjugate bit_length bit_count to_bytes"), (.kindMethod, "from_bytes"),
    (.method, "as_integer_ratio __trunc__ __floor__ __ceil__ __round__ __getnewargs__ __format__ __sizeof__"),
    (.getter, "real imag numerator denominator"), (.value, "__doc__")]
  | object => [
    (.function, "__new__"),
    (.slot, "__repr__ __hash__ __str__ __getattribute__ __setattr__ __delattr__ __lt__ __le__ __eq__ __ne__"),
    (.slot, "__gt__ __ge__ __init__"), (.method, "__reduce_ex__ __reduce__ __getstate__"),
    (.kindMethod, "__subclasshook__ __init_subclass__"), (.method, "__format__ __sizeof__ __dir__"),
    (.getter, "__class__"), (.value, "__doc__")]
  | metakind => [
    (.function, "__new__"), (.slot, "__repr__ __call__ __getattribute__ __setattr__ __delattr__ __init__ __or__ __ror__"),
    (.method, "mro __subclasses__"), (.kindMethod, "__prepare__"),
    (.method, "__instancecheck__ __subclasscheck__ __dir__ __sizeof__"),
    (.field, "__basicsize__ __itemsize__ __flags__ __weakrefoffset__ __base__ __dictoffset__ __mro__"),
    (.getter, "__name__ __qualname__ __bases__ __module__ __abstractmethods__ __dict__ __doc__ __text_signature__"),
    (.getter, "__annotations__")]
  | tuple => [
    (.function, "__new__"),
    (.slot, "__repr__ __hash__ __getattribute__ __lt__ __le__ __eq__ __ne__ __gt__ __ge__ __iter__ __len__"),
    (.slot, "__getitem__ __add__ __mul__ __rmul__ __contains__"), (.method, "__getnewargs__ index count"),
    (.kindMethod, "__class_getitem__"), (.value, "__doc__")]
  | nothing => [
    (.function, "__new__"), (.slot, "__repr__ __bool__"), (.value, "__doc__")]
  | method => [
    (.slot, "__repr__ __call__ __getattribute__ __get__"), (.method, "__reduce__"), (.field, "__objclass__ __name__"),
    (.getter, "__doc__ __qualname__ __text_signature__")]
  | slot => [
    (.slot, "__repr__ __call__ __getattribute__ __get__"), (.method, "__reduce__"), (.field, "__objclass__ __name__"),
    (.getter, "__doc__ __qualname__ __text_signature__")]
  | getter => [
    (.slot, "__repr__ __getattribute__ __get__ __set__ __delete__"), (.field, "__objclass__ __name__"),
    (.getter, "__doc__ __qualname__")]
  | field => [
    (.slot, "__repr__ __getattribute__ __get__ __set__ __delete__"), (.method, "__reduce__"),
    (.field, "__objclass__ __name__"), (.getter, "__doc__ __qualname__")]
  | kindMethod => [
    (.slot, "__repr__ __call__ __getattribute__ __get__"), (.field, "__objclass__ __name__"),
    (.getter, "__doc__ __qualname__ __text_signature__")]
  | function => [
    (.slot, "__repr__ __hash__ __call__ __getattribute__ __lt__ __le__ __eq__ __ne__ __gt__ __ge__"),
    (.method, "__reduce__"), (.field, "__module__"),
    (.getter, "__doc__ __name__ __qualname__ __self__ __text_signature__")]
  | boundSlot => [
    (.slot, "__repr__ __hash__ __call__ __getattribute__ __lt__ __le__ __eq__ __ne__ __gt__ __ge__"),
    (.method, "__reduce__"), (.field, "__self__"),
    (.getter, "__objclass__ __name__ __qualname__ __doc__ __text_signature__")]
  | view => [
    (.function, "__new__"),
    (.slot, "__repr__ __str__ __getattribute__ __lt__ __le__ __eq__ __ne__ __gt__ __ge__ __iter__ __or__ __ror__"),
    (.slot, "__ior__ __len__ __getitem__ __contains__"), (.method, "get keys values items copy"),
    (.kindMethod, "__class_getitem__"), (.method, "__reversed__"), (.value, "__doc__ __hash__")]

def entries (kind : Kind) : List Entry :=
  kind.memberNames.flatMap fun (form, names) =>
    (Text.pieces (· == ' ') names.toList).map fun name => ⟨String.ofList name, form⟩

def value? (kind : Kind) (entry : Entry) : Option String :=
  if entry.name = "__doc__" then kind.doc? else none

end Kind

end PluginAudit.Template
