import Citations.Command
import Citations.Markup.Document
import Citations.Yaml.Document

/-! # The command line's process

Reads the files that a command line names, runs the command with the package's own markup
reader and YAML loader, and writes its output to standard output, its notices to standard error,
and ends with its exit status.
-/

open Citations

/-- The text of a file, if it can be read. -/
def readText (path : String) : IO (Option String) := do
  try
    return some (← IO.FS.readFile path)
  catch _ =>
    return none

/-- The line of a notice on standard error. -/
def noticeLine (n : Notice) : String :=
  (if n.isError then "[ERROR] " else "[WARNING] ") ++ n.message

def main (args : List String) : IO UInt32 := do
  let paths := match Command.parseArgs args with
    | .request r => r.fields.toList ++ r.config.toList
    | _ => []
  let mut files : List (String × String) := []
  for p in paths do
    if let some text ← readText p then
      files := files ++ [(p, text)]
  let out := Command.run Markup.plainText Yaml.Document.ofText "citations" args
    (fun p => (files.find? (·.1 == p)).map (·.2))
  for n in out.notices do
    IO.eprintln (noticeLine n)
  match out.result with
  | .ok o =>
    IO.print o.stdout
    return o.exit.toUInt32
  | .error f =>
    IO.eprintln ("[ERROR] " ++ f.message)
    return 1
