import ActionBridge.Moment
import ActionBridge.Network
import Std.Time

namespace ActionBridge.Main

open Std.Async

def now : IO String := do
  let since := (← Std.Time.Timestamp.now).toDurationSinceUnixEpoch
  return (Moment.mk since.second.val.toNat since.nano.val.toNat).toText

def contentOf (bytes : ByteArray) : FileContent :=
  match String.fromUTF8? bytes with
  | some text => .ok text
  | none => .error "stream did not contain valid UTF-8"

def readFile (path : String) : IO FileContent := do
  if ← (System.mkFilePath [path]).isDir then return .error "Is a directory (os error 21)"
  try return contentOf (← IO.FS.readBinFile path)
  catch e => return .error (toString e)

def place (path : String) : IO Place := do
  let file := System.mkFilePath [path]
  if path.isEmpty || !(← file.pathExists) then return .nothing
  if ← file.isDir then
    let mut files := #[]
    for entry in ← file.readDir do
      if (Directory.actionName? entry.fileName).isSome then
        files := files.push (entry.fileName, ← readFile (Directory.join path entry.fileName))
    return .directory files.toList
  return .file (← readFile path)

partial def readAll (input : IO.FS.Stream) (bytes : ByteArray) : IO ByteArray := do
  let more ← input.read 65536
  if more.isEmpty then return bytes else readAll input (bytes ++ more)

def host : IO Expression.Host := do
  let environment ← System.getEnv
  return ⟨environment.get?, ← now⟩

def machine : CommandLine.Machine Async where
  place path := place path
  input := do return contentOf (← readAll (← IO.getStdin) .empty)
  host := host
  transport := Network.transport
  clock := now
  listen := Network.listen host now

end ActionBridge.Main

def main (arguments : List String) : IO UInt32 := do
  let outcome ← (ActionBridge.CommandLine.run ActionBridge.Main.machine arguments).block
  (← IO.getStdout).putStr outcome.out
  (← IO.getStderr).putStr outcome.err
  return UInt32.ofNat outcome.code
