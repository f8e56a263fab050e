import PathQuery.Console

/-!
The command line: asks for a document and a path again and again and prints what the path selects.
-/
namespace PathQuery.Console

/-- A line of the input without its end, unless the input is at its end. -/
def nextLine (input : IO.FS.Stream) : IO (Option String) := do
  let line ← input.getLine
  return (lines line.toList).head?.map String.ofList

partial def converse (options : Options) (input output : IO.FS.Stream) : IO Unit := do
  output.putStr jsonPrompt
  output.flush
  let some json ← nextLine input | return
  output.putStr pathPrompt
  output.flush
  let some path ← nextLine input | return
  for line in answer options json path do
    output.putStrLn line
  converse options input output

end PathQuery.Console

def main (args : List String) : IO Unit := do
  let options : PathQuery.Console.Options :=
    ⟨args.contains "--error-when-no-match", args.contains "--single"⟩
  PathQuery.Console.converse options (← IO.getStdin) (← IO.getStdout)
