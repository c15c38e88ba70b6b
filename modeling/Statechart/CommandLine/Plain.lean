import Statechart.CommandLine.Session
import Statechart.Project.Logging
import Statechart.Service.Record

/-!
# Plain output

What a command shows as lines of text without markup, and what was logged meanwhile as lines for the error stream.
-/

set_option autoImplicit false
set_option relaxedAutoImplicit false

namespace Statechart.CommandLine

namespace Plain

def isTagChar (c : Char) : Bool := ('a' ≤ c && c ≤ 'z') || c == ' ' || c == '/'

/-- The text behind a tag that begins here, if one does. -/
def behindTag? (cs : List Char) : Option (List Char) :=
  let inner := cs.takeWhile isTagChar
  match cs.drop inner.length with
  | ']' :: rest => if inner.isEmpty then none else some rest
  | _ => none

/-- A text without the tags of its markup. -/
def withoutTags : Nat → List Char → List Char
  | 0, cs => cs
  | _, [] => []
  | fuel + 1, '[' :: rest =>
    match behindTag? rest with
    | some after => withoutTags fuel after
    | none => '[' :: withoutTags fuel rest
  | fuel + 1, c :: rest => c :: withoutTags fuel rest

def text (markup : String) : String := String.ofList (withoutTags markup.length markup.toList)

end Plain

namespace Display

def lines : Display → List String
  | .line markup => [Plain.text markup]
  | .table title columns rows =>
    title :: "\t".intercalate columns :: rows.map fun r ↦ "\t".intercalate (r.map Plain.text)

end Display

/-- Level, part and text of an entry that is a line of a log. -/
def logged? : Entry → Option (String × String × String)
  | .written .library level text => some (level, "machine", text.shown)
  | .record part level text => some (level, part, text)
  | .milestone _ machine what =>
    (what.record? machine).map fun (level, text) ↦ (level, "hexchart.kernel.service", text)
  | _ => none

/-- The lines of a journal that the handlers for the error stream let through, in order. -/
def logLines (handlers : List LogHandler) (journal : List Entry) : List String :=
  journal.reverse.filterMap fun e ↦ do
    let (level, part, text) ← logged? e
    let n ← Logging.levels.lookup level
    let isLet := handlers.any fun h ↦
      match h.target with
      | .stream _ _ => decide (h.threshold ≤ n)
      | .file _ => false
    if isLet then some (Logging.padded 8 level ++ " | " ++ part ++ " | " ++ text) else none

end Statechart.CommandLine
