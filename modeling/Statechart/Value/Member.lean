import Statechart.Text.CharSet
import Statechart.Value.Basic

/-!
# Members of classes

What a class lets be done with its values, and which parts they have, by name. A class has the members of the classes
above it as well, the nearest first.
-/

set_option autoImplicit false
set_option relaxedAutoImplicit false

namespace Statechart.Value

/-- The members of a class between blanks or breaks. -/
structure Members where
  builtin : String := ""
  operator : String := ""
  computed : String := ""
  stored : String := ""
  /-- What is done with the class instead of its values. -/
  ofClass : String := ""

namespace Members

def ordered : String := "__lt__ __le__ __eq__ __ne__ __gt__ __ge__ "

def compared : String := "__repr__ __hash__ __getattribute__ " ++ ordered

def numeric : String :=
  "__add__ __radd__ __sub__ __rsub__ __mul__ __rmul__ __mod__ __rmod__ __divmod__ __rdivmod__ __neg__ __pos__ __abs__
    __bool__ __floordiv__ __rfloordiv__ __truediv__ __rtruediv__ "

def bitwise : String := "__and__ __rand__ __xor__ __rxor__ __or__ __ror__ "

/-- The members of a class alone. -/
def ofName : String → Members
  | "NoneType" =>
    { operator := "__repr__ __bool__"
      ofClass := "__new__" }
  | "bool" =>
    { operator := bitwise ++ "__repr__"
      ofClass := "__new__" }
  | "int" =>
    { builtin := "conjugate bit_length bit_count to_bytes as_integer_ratio __trunc__ __floor__ __ceil__ __round__
        __getnewargs__ __format__ __sizeof__"
      operator := compared ++ numeric ++ bitwise ++ "__pow__ __rpow__ __invert__ __lshift__ __rlshift__ __rshift__
        __rrshift__ __int__ __float__ __index__"
      computed := "real imag numerator denominator"
      ofClass := "__new__ from_bytes" }
  | "float" =>
    { builtin := "conjugate __trunc__ __floor__ __ceil__ __round__ as_integer_ratio hex is_integer __getnewargs__
        __format__"
      operator := compared ++ numeric ++ "__pow__ __rpow__ __int__ __float__"
      computed := "real imag"
      ofClass := "__new__ fromhex __getformat__" }
  | "str" =>
    { builtin := "encode replace split rsplit join capitalize casefold title center count expandtabs find partition index
        ljust lower lstrip rfind rindex rjust rstrip rpartition splitlines strip swapcase translate upper
        startswith endswith removeprefix removesuffix isascii islower isupper istitle isspace isdecimal isdigit
        isnumeric isalpha isalnum isidentifier isprintable zfill format format_map __format__ __sizeof__
        __getnewargs__"
      operator := compared ++ "__str__ __iter__ __mod__ __rmod__ __len__ __getitem__ __add__
        __mul__ __rmul__ __contains__"
      ofClass := "__new__ maketrans" }
  | "bytes" =>
    { builtin := "__getnewargs__ __bytes__ capitalize center count decode endswith expandtabs find hex index isalnum
        isalpha isascii isdigit islower isspace istitle isupper join ljust lower lstrip partition replace
        removeprefix removesuffix rfind rindex rjust rpartition rsplit rstrip split splitlines startswith strip
        swapcase title translate upper zfill"
      operator := compared ++ "__str__ __iter__ __mod__ __rmod__ __len__ __getitem__ __add__
        __mul__ __rmul__ __contains__"
      ofClass := "__new__ fromhex maketrans" }
  | "list" =>
    { builtin := "__getitem__ __reversed__ __sizeof__ clear copy append insert extend pop remove index count
        reverse sort"
      operator := ordered ++ "__repr__ __getattribute__ __iter__ __init__ __len__ __setitem__
        __delitem__ __add__ __mul__ __rmul__ __contains__ __iadd__
        __imul__"
      ofClass := "__new__ __class_getitem__" }
  | "tuple" =>
    { builtin := "__getnewargs__ index count"
      operator := compared ++ "__iter__ __len__ __getitem__ __add__ __mul__ __rmul__ __contains__"
      ofClass := "__new__ __class_getitem__" }
  | "set" =>
    { builtin := "__contains__ add clear copy discard difference difference_update intersection intersection_update
        isdisjoint issubset issuperset pop __reduce__ remove __sizeof__ symmetric_difference
        symmetric_difference_update union update"
      operator := ordered ++ bitwise ++ "__repr__ __getattribute__ __iter__ __init__ __sub__ __rsub__
        __isub__ __iand__ __ixor__ __ior__ __len__"
      ofClass := "__new__ __class_getitem__" }
  | "dict" =>
    { builtin := "__getitem__ __contains__ __sizeof__ get setdefault pop popitem keys items values update clear copy
        __reversed__"
      operator := ordered ++ "__repr__ __getattribute__ __iter__ __init__ __or__ __ror__ __ior__
        __len__ __setitem__ __delitem__"
      ofClass := "__new__ fromkeys __class_getitem__" }
  | "date" =>
    { builtin := "ctime strftime __format__ timetuple isocalendar isoformat isoweekday toordinal weekday replace
        __reduce__"
      operator := compared ++ "__str__ __add__ __radd__ __sub__ __rsub__"
      computed := "year month day"
      ofClass := "__new__ fromtimestamp fromordinal fromisoformat fromisocalendar today" }
  | "time" =>
    { builtin := "isoformat strftime __format__ utcoffset tzname dst replace __reduce_ex__ __reduce__"
      operator := compared ++ "__str__"
      computed := "hour minute second microsecond tzinfo fold"
      ofClass := "__new__ fromisoformat" }
  | "datetime" =>
    { builtin := "date time timetz ctime timetuple timestamp utctimetuple isoformat utcoffset tzname dst replace
        astimezone __reduce_ex__ __reduce__"
      operator := compared ++ "__str__ __add__ __radd__ __sub__ __rsub__"
      computed := "hour minute second microsecond tzinfo fold"
      ofClass := "__new__ now utcnow fromtimestamp utcfromtimestamp strptime combine fromisoformat" }
  | "timedelta" =>
    { builtin := "total_seconds __reduce__"
      operator := compared ++ numeric ++ "__str__"
      stored := "days seconds microseconds"
      ofClass := "__new__" }
  | "tzinfo" =>
    { builtin := "tzname utcoffset dst fromutc __reduce__"
      operator := "__getattribute__"
      ofClass := "__new__" }
  | "timezone" =>
    { builtin := "tzname utcoffset dst fromutc __getinitargs__"
      operator := ordered ++ "__repr__ __hash__ __str__"
      ofClass := "__new__" }
  | "object" =>
    { builtin := "__reduce_ex__ __reduce__ __getstate__ __format__ __sizeof__ __dir__"
      operator := compared ++ "__str__ __setattr__ __delattr__ __init__"
      ofClass := "__new__ __subclasshook__ __init_subclass__" }
  | "type" =>
    { builtin := "mro __subclasses__ __instancecheck__ __subclasscheck__ __dir__ __sizeof__"
      operator := "__repr__ __call__ __getattribute__ __setattr__ __delattr__ __init__ __or__ __ror__"
      computed := "__name__ __qualname__ __bases__ __module__ __abstractmethods__ __dict__ __text_signature__
        __annotations__"
      stored := "__basicsize__ __itemsize__ __flags__ __weakrefoffset__ __base__ __dictoffset__ __mro__"
      ofClass := "__new__ __prepare__" }
  | "builtin_function_or_method" =>
    { builtin := "__reduce__"
      operator := compared ++ "__call__"
      computed := "__name__ __qualname__ __self__ __text_signature__"
      stored := "__module__" }
  | "method-wrapper" =>
    { builtin := "__reduce__"
      operator := compared ++ "__call__"
      computed := "__objclass__ __name__ __qualname__ __text_signature__"
      stored := "__self__" }
  | "method_descriptor" =>
    { builtin := "__reduce__"
      operator := "__repr__ __call__ __getattribute__ __get__"
      computed := "__qualname__ __text_signature__"
      stored := "__objclass__ __name__" }
  | "wrapper_descriptor" =>
    { builtin := "__reduce__"
      operator := "__repr__ __call__ __getattribute__ __get__"
      computed := "__qualname__ __text_signature__"
      stored := "__objclass__ __name__" }
  | "getset_descriptor" =>
    { operator := "__repr__ __getattribute__ __get__ __set__ __delete__"
      computed := "__qualname__"
      stored := "__objclass__ __name__" }
  | "member_descriptor" =>
    { builtin := "__reduce__"
      operator := "__repr__ __getattribute__ __get__ __set__ __delete__"
      computed := "__qualname__"
      stored := "__objclass__ __name__" }
  | "method" =>
    { builtin := "__reduce__"
      operator := compared ++ "__call__ __setattr__ __delattr__"
      stored := "__func__ __self__"
      ofClass := "__new__" }
  | "function" =>
    { operator := "__repr__ __call__ __get__"
      computed := "__code__ __defaults__ __kwdefaults__ __annotations__ __dict__ __name__ __qualname__"
      stored := "__closure__ __globals__ __module__ __builtins__"
      ofClass := "__new__" }
  | "Event" => { stored := "type data" }
  | "NewsletterContext" => { stored := "email data error token" }
  | "CancellationToken" => { stored := "_callbacks _cancelled _reason name" }
  | _ => {}

end Members

/-- What a class has under a name. -/
inductive Member where
  /-- Something about each of its values. -/
  | ofValues (kind : MemberKind)
  /-- Something about the class. -/
  | ofClass

/-- The member of a class alone under a name. -/
def ownMember? (name field : String) : Option Member :=
  let m := Members.ofName name
  let has (members : String) : Bool := (Text.CharSet.words members).contains field.toList
  if has m.builtin then some (.ofValues .builtin)
  else if has m.operator then some (.ofValues .operator)
  else if has m.computed then some (.ofValues .computed)
  else if has m.stored then some (.ofValues .stored)
  else if has m.ofClass then some .ofClass
  else none

/-- The classes above a class, nearest first. -/
def above : String → List String
  | "object" => []
  | "bool" => ["int", "object"]
  | "datetime" => ["date", "object"]
  | "timezone" => ["tzinfo", "object"]
  | _ => ["object"]

/-- The member of a class under a name, and the class that it comes from. -/
def member? (name field : String) : Option (String × Member) :=
  (name :: above name).findSome? fun owner ↦ (ownMember? owner field).map fun m ↦ (owner, m)

end Statechart.Value
