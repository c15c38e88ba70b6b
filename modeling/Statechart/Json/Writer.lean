import Statechart.Text.Quoted
import Statechart.Value.Basic

/-!
# Writing JSON

The JSON text of a value that JSON has a form for: null, truth values, integers, texts, lists, and tables with text
keys. Any other value is written as null.
-/

set_option autoImplicit false
set_option relaxedAutoImplicit false

namespace Statechart.Json

/-- A character inside quotes. -/
def escape (c : Char) : List Char :=
  if c == '"' then ['\\', '"']
  else if c == '\\' then ['\\', '\\']
  else if c.toNat < 0x20 || c.toNat == 0x7F then '\\' :: 'u' :: Text.hex 4 c.toNat
  else [c]

def quoted (s : String) : String := String.ofList ('"' :: s.toList.flatMap escape ++ ['"'])

mutual

def write (v : Value) : String :=
  match v with
  | .bool b => if b then "true" else "false"
  | .int i => toString i
  | .text s => quoted s
  | .list xs => "[" ++ ",".intercalate (writeItems xs) ++ "]"
  | .table es => "\x7b" ++ ",".intercalate (writeMembers es) ++ "\x7d"
  | _ => "null"
termination_by structural v

def writeItems (vs : List Value) : List String :=
  match vs with
  | [] => []
  | v :: rest => write v :: writeItems rest
termination_by structural vs

def writeMembers (es : List (Value × Value)) : List String :=
  match es with
  | [] => []
  | e :: rest => writeMember e :: writeMembers rest
termination_by structural es

def writeMember (e : Value × Value) : String :=
  match e with
  | (k, v) => quoted ((k.asText?).getD "") ++ ":" ++ write v
termination_by structural e

end

end Statechart.Json
