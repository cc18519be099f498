import RowStore.Client
import RowStore.Hub.Launch

/-!
# The command line

The hub and its client. A pair of streams stands in for a connection: a request is a line with its verb and
target and a line with its body, a reply is a line with its status and a line with its body.
-/

namespace RowStore.Main

set_option autoImplicit false

def misuse : UInt32 := 2

def failed : UInt32 := 1

def withoutEnd (line : String) : String :=
  String.ofList (Text.trimEnd line.toList)

def requestOf (head body : String) : Hub.Request where
  method := String.ofList (head.toList.takeWhile (· != ' '))
  target := String.ofList ((head.toList.dropWhile (· != ' ')).drop 1)
  mediaType := if body = "" then none else some "application/json"
  body

def replyBody (response : Hub.Response) : String :=
  match response.content with
  | .json value => Json.render value
  | .announced | .other => ""

/-- Answers requests until there are no more. -/
partial def serve (input output : IO.FS.Stream) (state : Hub.State) : IO Unit := do
  let head ← input.getLine
  if head.isEmpty then return
  let body ← input.getLine
  let (response, state) := Hub.answer state (requestOf (withoutEnd head) (withoutEnd body))
  output.putStrLn (toString response.status)
  output.putStrLn (replyBody response)
  output.flush
  serve input output state

def fileAt (path : String) : IO Hub.ConfigFile := do
  let entry : IO.FS.DirEntry := ⟨".", path⟩
  if ← entry.path.isDir then return .folder
  try
    return .text (← IO.FS.readFile path)
  catch _ => return .missing

def runHub (words : List String) : IO UInt32 := do
  let some options := Hub.LaunchOptions.ofWords? words | return misuse
  let filter := Hub.LogFilter.ofText ((← IO.getEnv "RK_LOG").getD Hub.Launch.standardFilter)
  for note in filter.notes do
    IO.eprintln note
  let launch := Hub.Launch.run (fun _ => none) options (← fileAt options.config)
  for line in launch.log filter do
    IO.println line
  match launch.result with
  | .error failure =>
    IO.eprintln failure.message
    return failed
  | .ok (_, state) =>
    serve (← IO.getStdin) (← IO.getStdout) state
    return 0

def exchange (request : Client.Request) : IO Client.Reply := do
  IO.println (request.verb.name ++ " " ++ request.url.target)
  IO.println ((request.body.map Json.render).getD "")
  let input ← IO.getStdin
  let status := ((Numeral.natural? (withoutEnd (← input.getLine)).toList)).getD 0
  return ⟨status, ← input.getLine⟩

def fail (fault : Client.Fault) : IO UInt32 := do
  IO.eprintln ("Error: " ++ fault.message)
  return failed

def runClient (words : List String) : IO UInt32 := do
  let some command := Client.Command.ofWords? words | return misuse
  match command.request ((← IO.getEnv "RK_BASE_URL").getD Client.standardBase) with
  | .error fault => fail fault
  | .ok request =>
    match command.answer request.url (← exchange request) with
    | .error fault => fail fault
    | .ok text =>
      IO.println text
      return 0

end RowStore.Main

/-- The hub after the word for it, and the client with any other. -/
def main (words : List String) : IO UInt32 :=
  match words with
  | "hub" :: words => RowStore.Main.runHub words
  | words => RowStore.Main.runClient words
