import SampleTypes.CommandLine.Arguments
import SampleTypes.CommandLine.Outcome

/-!
# The program

Looks at the files that a request names, asks the library what comes of it, and does that.
-/

namespace SampleTypes

namespace CommandLine

/-- The tree with what lies at each location on the way of a path. -/
def look (tree : FileTree) (path : Path) : IO FileTree := do
  let mut tree := tree
  for count in List.range (path.steps.length + 1) do
    let way := { path with steps := path.steps.take count }
    if let .ok location := tree.locate way then
      if (tree.entry? location).isNone then
        let file := (← IO.currentDir) / way.text
        if ← file.isDir then
          tree := { tree with folders := location :: tree.folders }
        else if ← file.pathExists then
          let content := (← IO.FS.readBinFile file).toList
          tree := { tree with files := (location, .bytes content) :: tree.files }
  return tree

/-- The tree of the files that arguments name. -/
def surroundings (arguments : List String) : IO FileTree := do
  let here := Path.ofText (← IO.currentDir).toString
  match Request.ofTexts arguments with
  | .error _ => return { here := here.steps }
  | .ok request => (request.target :: request.inputs.map Path.ofText).foldlM look { here := here.steps }

/-- Does what comes of arguments. -/
def run (arguments : List String) : IO UInt32 := do
  let outcome := Outcome.ofArguments readArguments (← surroundings arguments) arguments
  if let some (path, content) := outcome.added then
    IO.FS.writeFile path.text content
  IO.print outcome.printed
  match outcome.ending with
  | .stopped stop => IO.eprintln stop.message
  | .crashed crash => IO.eprintln ("Error: " ++ crash.message)
  | .finished | .refused => pure ()
  return outcome.ending.exitCode.toUInt32

end CommandLine

end SampleTypes

def main (arguments : List String) : IO UInt32 := do
  match arguments with
  | "infer" :: rest => SampleTypes.CommandLine.run rest
  | _ =>
    IO.eprintln "Error: the command is infer, with inputs and options"
    return 2
