import Statechart.CommandLine.Entry
import Statechart.CommandLine.Plain

/-!
# The program

Reads the files that the arguments, the variables and the configuration name, plays the command line on them, and prints
what it shows. Nothing is decided here.
-/

set_option autoImplicit false
set_option relaxedAutoImplicit false

namespace Statechart.Main

/-- The tree with what stands at a path. -/
def addPath (files : Files) (path : Path) : IO Files := do
  try
    let bytes ← IO.FS.readBinFile path.text
    return files.write path.names bytes.toList
  catch
    | .inappropriateType _ _ _ | .illegalOperation _ _ => return files.makeDirectory path.names
    | _ => return files

/-- The variables of the process. -/
def environment : IO Environment := do
  try
    let text ← IO.FS.readFile "/proc/self/environ"
    return (text.splitOn "\x00").filterMap fun entry ↦
      match entry.splitOn "=" with
      | name :: value :: more => some (name, "=".intercalate (value :: more))
      | _ => none
  catch _ => return []

/-- Paths at which something may be looked for before the configuration is known. -/
def namedPaths (p : Project) (args : List String) : List Path :=
  let named := args ++ (p.environment.lookup Project.pathVariable).toList
  named.map (fun text ↦ p.directory.below (Path.ofText text))
    ++ (p.directory :: p.directory.ancestors).map (·.child Project.projectFile)

/-- Paths that the configuration lists. -/
def configuredPaths (p : Project) : List Path :=
  match (Project.load none).on p with
  | (.ok r, _) => r.config.machines.filterMap fun v ↦
      v.asText?.map fun text ↦ p.directory.below (Path.ofText text)
  | (.error _, _) => []

def load (args : List String) : IO Project := do
  let here := Path.ofText (toString (← IO.currentDir))
  let p : Project :=
    { files := ({} : Files).makeDirectory here.names, directory := here, environment := ← environment }
  let files ← (namedPaths p args).foldlM addPath p.files
  let p := { p with files }
  return { p with files := ← (configuredPaths p).foldlM addPath p.files }

end Statechart.Main

open Statechart

def main (args : List String) : IO UInt32 := do
  let session : CommandLine.Session Unit := { project := ← Main.load args, scope := {}, memory := () }
  let (ending, s) := CommandLine.play args session
  (CommandLine.logLines s.project.logging.handlers s.project.journal).forM IO.eprintln
  s.shown.forM fun d ↦ d.lines.forM IO.println
  match ending, CommandLine.exitCode? ending with
  | .error f, code =>
    IO.eprintln ("Error: " ++ if f.said == "" then "wrong arguments or surroundings" else f.said)
    return (code.getD 1).toUInt32
  | .ok code, _ => return code.toUInt32
