import Autoresponder.Console.Command

/-!
# The command line

Reads the configuration from the environment, and answers commands line by line.
-/

open Autoresponder

/-- Answers lines until there are no more. -/
partial def serve (input output : IO.FS.Stream) (s : Service) : IO Unit := do
  let line ← input.getLine
  if line.isEmpty then return ()
  let (answer, s) := s.answer line
  output.putStrLn answer
  output.flush
  serve input output s

def main : IO UInt32 := do
  let env ← Config.keys.mapM fun key => do return (key, ← IO.getEnv key)
  match Config.ofVariables fun key => (env.lookup key).join with
  | .error e =>
    (← IO.getStderr).putStrLn e.message
    return 1
  | .ok config =>
    let first ← IO.rand 0 (UInt64.size / 2)
    serve (← IO.getStdin) (← IO.getStdout) (.start config (first * UInt64.size))
    return 0
