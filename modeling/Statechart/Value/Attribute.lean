import Statechart.Value.Literal
import Statechart.Value.Member

/-!
# Attributes of values

What a value has under a name: its parts, and what its class says about it.
-/

set_option autoImplicit false
set_option relaxedAutoImplicit false

namespace Statechart.Value

/-! ### Classes -/

/-- What classes say about themselves. -/
def descriptions : List (String × String) :=
  [
    ("bool", "bool(x) -> bool\n\nReturns True when the argument x is true, False otherwise.\nThe builtins True "
      ++ "and False are the only two instances of the class bool.\nThe class bool is a subclass of the clas"
      ++ "s int, and cannot be subclassed."),
    ("int", "int([x]) -> integer\nint(x, base=10) -> integer\n\nConvert a number or string to an integer, or r"
      ++ "eturn 0 if no arguments\nare given.  If x is a number, return x.__int__().  For floating point\nn"
      ++ "umbers, this truncates towards zero.\n\nIf x is not a number or if base is given, then x must be "
      ++ "a string,\nbytes, or bytearray instance representing an integer literal in the\ngiven base.  The "
      ++ "literal can be preceded by '+' or '-' and be surrounded\nby whitespace.  The base defaults to 10."
      ++ "  Valid bases are 0 and 2-36.\nBase 0 means to interpret the base from the string as an integer l"
      ++ "iteral.\n>>> int('0b100', base=0)\n4"),
    ("float", "Convert a string or number to a floating point number, if possible."),
    ("str", "str(object='') -> str\nstr(bytes_or_buffer[, encoding[, errors]]) -> str\n\nCreate a new string o"
      ++ "bject from the given object. If encoding or\nerrors is specified, then the object must expose a d"
      ++ "ata buffer\nthat will be decoded using the given encoding and error handler.\nOtherwise, returns "
      ++ "the result of object.__str__() (if defined)\nor repr(object).\nencoding defaults to sys.getdefaul"
      ++ "tencoding().\nerrors defaults to 'strict'."),
    ("bytes", "bytes(iterable_of_ints) -> bytes\nbytes(string, encoding[, errors]) -> bytes\nbytes(bytes_or_buff"
      ++ "er) -> immutable copy of bytes_or_buffer\nbytes(int) -> bytes object of size given by the paramet"
      ++ "er initialized with null bytes\nbytes() -> empty bytes object\n\nConstruct an immutable array of "
      ++ "bytes from:\n  - an iterable yielding integers in range(256)\n  - a text string encoded using the"
      ++ " specified encoding\n  - any object implementing the buffer API.\n  - an integer"),
    ("list", "Built-in mutable sequence.\n\nIf no argument is given, the constructor creates a new empty list.\n"
      ++ "The argument must be an iterable if specified."),
    ("tuple", "Built-in immutable sequence.\n\nIf no argument is given, the constructor returns an empty tuple.\n"
      ++ "If iterable is specified the tuple is initialized from iterable's items.\n\nIf the argument is a "
      ++ "tuple, the return value is the same object."),
    ("dict", "dict() -> new empty dictionary\ndict(mapping) -> new dictionary initialized from a mapping object"
      ++ "'s\n    (key, value) pairs\ndict(iterable) -> new dictionary initialized as if via:\n    d = \x7b"
      ++ "\x7d\n    for k, v in iterable:\n        d[k] = v\ndict(**kwargs) -> new dictionary initialized w"
      ++ "ith the name=value pairs\n    in the keyword argument list.  For example:  dict(one=1, two=2)"),
    ("set", "set() -> new empty set object\nset(iterable) -> new set object\n\nBuild an unordered collection o"
      ++ "f unique elements."),
    ("date", "date(year, month, day) --> date object"),
    ("datetime", "datetime(year, month, day[, hour[, minute[, second[, microsecond[,tzinfo]]]]])\n\nThe year, month"
      ++ " and day arguments are required. tzinfo may be None, or an\ninstance of a tzinfo subclass. The re"
      ++ "maining arguments may be ints.\n"),
    ("time", "time([hour[, minute[, second[, microsecond[, tzinfo]]]]]) --> a time object\n\nAll arguments are "
      ++ "optional. tzinfo may be None, or an instance of\na tzinfo subclass. The remaining arguments may b"
      ++ "e ints.\n"),
    ("timedelta", "Difference between two datetime values.\n\ntimedelta(days=0, seconds=0, microseconds=0, milliseco"
      ++ "nds=0, minutes=0, hours=0, weeks=0)\n\nAll arguments are optional and default to 0.\nArguments ma"
      ++ "y be integers or floats, and may be positive or negative."),
    ("timezone", "Fixed offset from UTC implementation of tzinfo."),
    ("type", "type(object) -> the object's type\ntype(name, bases, dict, **kwds) -> a new type"),
    ("object", "The base class of the class hierarchy.\n\nWhen called, it accepts no arguments and returns a new "
      ++ "featureless\ninstance that has no instance attributes and cannot be given any.\n"),
    ("Event", "A structured event: a \x60\x60type\x60\x60 plus transition-specific payload."),
    ("CancellationToken", "One-shot cancellation flag with callbacks.\n\n    Intended for a single logical thread of control"
      ++ " (an event loop or a UI\n    dispatch thread).\n    "),
    ("NewsletterContext", "NewsletterContext(email: 'str' = '', data: 'str | None' = None, error: 'str | None' = None, token"
      ++ ": 'CancellationToken | None' = None)")]

def description (name : String) : Value :=
  match descriptions.lookup name with
  | some s => .text s
  | none => .null

def classOf (name : String) : Value := .type name []

/-- The least and the greatest value of a class, and the distance of its values. -/
def extent? : String → Option (Moment × Moment × Nat)
  | "date" => some (.date ⟨1, 1, 1⟩, .date ⟨9999, 12, 31⟩, Span.dayLength)
  | "datetime" => some (.both ⟨1, 1, 1⟩ ⟨0, 0, 0, 0, none⟩, .both ⟨9999, 12, 31⟩ ⟨23, 59, 59, 999999, none⟩, 1)
  | "time" => some (.time ⟨0, 0, 0, 0, none⟩, .time ⟨23, 59, 59, 999999, none⟩, 1)
  | _ => none

/-- The fields of a class of records, and what may be in them. -/
def fieldsOf : String → List (String × String)
  | "Event" => [("type", "Hashable"), ("data", "Mapping[str, Any]")]
  | "NewsletterContext" =>
    [("email", "str"), ("data", "str | None"), ("error", "str | None"), ("token", "CancellationToken | None")]
  | "Form" => [("email", "str"), ("error", "str | None")]
  | _ => []

/-- The names of the places of a class whose values have no others. -/
def placesOf : String → List String
  | "CancellationToken" => ["_callbacks", "_cancelled", "_reason", "name"]
  | "Form" => []
  | name => (fieldsOf name).map (·.1)

def namesOf? (names : List String) : Option Value :=
  if names.isEmpty then none else some (.tuple (names.map .text))

/-- What the values of a class have in common. -/
def shared? (name field : String) : Option Value :=
  match field with
  | "__doc__" => some (description name)
  | "__module__" => if className name == name then (home? name).map .text else none
  | "__hash__" => if name == "dict" || name == "list" || name == "set" then some .null else none
  | "__match_args__" => namesOf? ((fieldsOf name).map (·.1))
  | "__slots__" => namesOf? (placesOf name)
  | "__annotations__" =>
    if name == "Form" || (fieldsOf name).isEmpty then none
    else some (.ofFields ((fieldsOf name).map fun f ↦ (f.1, .text f.2)))
  | "min" => (extent? name).map fun e ↦ .moment e.1
  | "max" => (extent? name).map fun e ↦ .moment e.2.1
  | "resolution" => (extent? name).map fun e ↦ .moment (.span e.2.2)
  | "utc" => if name == "timezone" then some (.moment (.zone 0)) else none
  | "email" => if name == "Form" then some (.text "") else none
  | "error" => if name == "Form" then some .null else none
  | _ => none

/-! ### Methods -/

/-- What can be done with the values of a class, as far as it is said in words what that does. -/
def methodsOf : String → List (String × Option String)
  | "Event" => [("get", some "Payload lookup with a default."), ("__getitem__", none)] ++ ofRecords
  | "CancellationToken" =>
    [("cancel", some ("Cancel the token; only the first call has an effect.\n\n        Returns\n        -------\n        "
        ++ "bool\n            True if this call cancelled the token.\n        ")),
      ("add_callback", some "Run \x60\x60callback\x60\x60 on cancellation, immediately if already cancelled."),
      ("raise_if_cancelled", none), ("__init__", none), ("__repr__", none)]
  | "NewsletterContext" => ofRecords
  | "Form" => ofRecords
  | _ => []
where
  ofRecords : List (String × Option String) :=
    ["__init__", "__repr__", "__eq__", "__hash__", "__setattr__", "__delattr__"].map (·, none)

/-- What can be done with a class. -/
def classMethodsOf : String → List (String × Option String)
  | "Event" =>
    [("of", some ("Build an event from keyword payload, e.g. \x60\x60Event.of(\"SUBMIT\", email=...)\x60\x60.")),
      ("coerce", some ("Normalise the shapes accepted by \x60\x60send\x60\x60.\n\n        Accepts an :class:\x60Event\x60, a mapping "
        ++ "with a \x60\x60\"type\"\x60\x60 key (the other\n        keys become payload) or a bare event identifier.\n        "))]
  | _ => []

def classMethod? (owner name : String) : Option Value :=
  ((classMethodsOf owner).lookup name).map fun _ ↦ .method .written owner name (classOf owner)

/-- What comes with a class and is done with it. A class above it makes values of its own, and a map of characters needs
no class. -/
def ofClassMethod (owner name user : String) : Value :=
  .method .builtin owner name
    (if name == "maketrans" then .null else classOf (if name == "__new__" then owner else user))

/-- What a value has under a name from its class. -/
def method? (v : Value) (name : String) : Option Value :=
  let held := ((methodsOf v.kindName).lookup name).map fun _ ↦ .method .written v.kindName name v
  (held.or (classMethod? v.kindName name)).or ((member? v.kindName name).bind fun
    | (owner, .ofValues kind) =>
      if kind == .builtin || kind == .operator then some (.method kind owner name v) else none
    | (owner, .ofClass) => some (ofClassMethod owner name v.kindName))

/-- What functions say about themselves. -/
def saying (owner name : String) : Value :=
  (((methodsOf owner).lookup name).or ((classMethodsOf owner).lookup name)).join.elim .null .text

/-- The name of a member with the class in front. -/
def fullName (owner name : String) : Value := .text (owner ++ "." ++ name)

/-- What a function has under a name. -/
def ofFunction? (owner name : String) : String → Option Value
  | "__name__" => some (.text name)
  | "__qualname__" => some (fullName owner name)
  | "__module__" => (home? owner).map .text
  | "__doc__" => some (saying owner name)
  | _ => none

/-- What a method has under a name. -/
def ofMethod? (kind : MemberKind) (owner name : String) (holder : Value) (field : String) : Option Value :=
  match kind, field with
  | _, "__self__" => some holder
  | .written, "__func__" => some (.member .written owner name)
  | .written, field => ofFunction? owner name field
  | _, "__name__" => some (.text name)
  | .operator, "__qualname__" => some (fullName owner name)
  | .operator, "__objclass__" => some (classOf owner)
  | .operator, _ => none
  | _, "__qualname__" =>
    match holder with
    | .null => some (if name == "maketrans" then .text name else fullName "NoneType" name)
    | .type t _ => some (fullName t name)
    | v => some (fullName v.kindName name)
  | _, "__module__" => some .null
  | _, _ => none

/-- What a member of a class has under a name. -/
def ofMember? (kind : MemberKind) (owner name field : String) : Option Value :=
  match kind, field with
  | .written, field => ofFunction? owner name field
  | _, "__name__" => some (.text name)
  | _, "__qualname__" => some (fullName owner name)
  | _, "__objclass__" => some (classOf owner)
  | _, _ => none

/-- What a class has under a name. -/
def ofClass? (name field : String) : Option Value :=
  match field with
  | "__name__" | "__qualname__" => some (.text name)
  | "__module__" => some (.text ((home? name).getD "builtins"))
  | "__class__" => some (classOf "type")
  | "__mro__" => some (.tuple ((name :: above name).map classOf))
  | "__base__" => some (((above name).head?.map classOf).getD .null)
  | "__bases__" => some (.tuple (((above name).take 1).map classOf))
  | _ =>
    let held := ((methodsOf name).lookup field).map fun _ ↦ .member .written name field
    let own := ((shared? name field).or (classMethod? name field)).or held
    (own.or ((member? name field).map fun
      | (owner, .ofValues kind) => .member kind owner field
      | (owner, .ofClass) => ofClassMethod owner field name)).or (method? (classOf name) field)

/-! ### Parts -/

def ofDate? (d : CalendarDate) : String → Option Value
  | "year" => some (.int d.year)
  | "month" => some (.int d.month)
  | "day" => some (.int d.day)
  | _ => none

def ofClock? (t : ClockTime) : String → Option Value
  | "hour" => some (.int t.hour)
  | "minute" => some (.int t.minute)
  | "second" => some (.int t.second)
  | "microsecond" => some (.int t.microsecond)
  | "tzinfo" => some ((t.offset.map fun o ↦ .moment (.zone o)).getD .null)
  | "fold" => some (.int 0)
  | _ => none

def ofSpan? (n : Nat) : String → Option Value
  | "days" => some (.int (Span.parts n).1)
  | "seconds" => some (.int (Span.parts n).2.1)
  | "microseconds" => some (.int (Span.parts n).2.2)
  | _ => none

def ofInt? (i : Int) : String → Option Value
  | "real" | "numerator" => some (.int i)
  | "imag" => some (.int 0)
  | "denominator" => some (.int 1)
  | _ => none

/-- A part of a value of its own. -/
def part? (v : Value) (name : String) : Option Value :=
  match v with
  | .event kind data => ([("type", kind), ("data", .table data)] : List (String × Value)).lookup name
  | .record kind fields =>
    if kind == "Form" && name == "__dict__" then some (.ofFields fields) else fields.lookup name
  | .symbol _ s => ([("name", .text s), ("value", .text s)] : List (String × Value)).lookup name
  | .token id => if name == "name" then some (.text id) else none
  | .tokenView id cancelled reason =>
    ([("name", .text id), ("cancelled", .bool cancelled), ("reason", reason), ("_cancelled", .bool cancelled),
      ("_reason", reason)] : List (String × Value)).lookup name
  | .bool b => ofInt? (if b then 1 else 0) name
  | .int i => ofInt? i name
  | .float d => ([("real", .float d), ("imag", .float .zero)] : List (String × Value)).lookup name
  | .moment (.date d) => ofDate? d name
  | .moment (.time t) => ofClock? t name
  | .moment (.both d t) => (ofDate? d name).or (ofClock? t name)
  | .moment (.span n) => ofSpan? n name
  | _ => none

/-- What a value has under a name. -/
def attribute? (v : Value) (name : String) : Option Value :=
  if name == "__class__" then some (classOf v.kindName)
  else
    let shared := (shared? v.kindName name).or (v.method? name)
    match v with
    | .type t _ => ofClass? t name
    | .method kind owner action holder => (ofMethod? kind owner action holder name).or shared
    | .member kind owner action => (ofMember? kind owner action name).or shared
    | v => (v.part? name).or shared

end Statechart.Value
