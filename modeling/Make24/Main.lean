import Std.Time.DateTime.Timestamp
import Make24.Terminal.Session

/-! The game at a terminal: the session of `Make24.Terminal` with its questions and answers on the
standard streams. -/

namespace Make24.Console

/-- The bytes of the next line with its newline; none at the end of the input. -/
partial def readLine (input : IO.FS.Stream) (read : Array UInt8) : IO (List UInt8) := do
  let chunk ← input.read 1
  if chunk.isEmpty then return read.toList
  let read := read ++ chunk.data
  if chunk.data.contains Text.newline then return read.toList
  readLine input read

def write (output : IO.FS.Stream) (lines : List Terminal.Line) : IO Unit := do
  for line in lines do
    output.putStr line.text
  output.flush

/-- Goes on with a game until the terminal is left. -/
partial def playOn (input output : IO.FS.Stream) (game : Game) : IO Unit := do
  write output (Terminal.prompt game)
  let line ← readLine input #[]
  let turn := Terminal.answer game (Terminal.typed line)
  write output turn.lines
  match turn.next with
  | none => return
  | some next => playOn input output next

end Make24.Console

open Make24 Console

def main : IO UInt32 := do
  let input ← IO.getStdin
  let output ← IO.getStdout
  let clock := (← Std.Time.Timestamp.now).toSecondsSinceUnixEpoch.val
  write output Terminal.opening
  let line ← readLine input #[]
  let turn := Terminal.begin clock (Terminal.typed line)
  write output turn.lines
  match turn.next with
  | none => pure ()
  | some game => playOn input output game
  return Terminal.exitCode
