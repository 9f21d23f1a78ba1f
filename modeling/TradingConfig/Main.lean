/-
  TradingConfig.Main
  ────────────────────────────────
  **THE COMMAND LINE.**

  Reads the files that the start asks for, prints what it reports, and runs
  the watcher until the interrupt signal comes.  What is read, reported and
  published is decided by `Startup` and `Watcher`; here is only the world.
-/
import Std.Async.Signal
import TradingConfig.Json.Printer
import TradingConfig.Startup

namespace TradingConfig.Main

/-! ## §1. Files. -/

/-- Reads a file. -/
def readPath (path : Path) : IO (Except FileFault ByteArray) := do
  try
    return .ok (← IO.FS.readBinFile path.text)
  catch
    | .noFileOrDirectory .. => return .error .notFound
    | .noSuchThing .. => return .error .notFound
    | fault => return .error (.other (toString fault))

/-- The present contents of some files. -/
def readPaths (paths : List Path) : IO Store.Files := do
  let contents ← paths.mapM fun path => return (path, ← readPath path)
  return fun path => (contents.lookup path).getD (.error .notFound)

/-- The present contents of all files of a datastore. -/
def readDatastore (datastore : Datastore) : IO Store.Files :=
  readPaths (datastore.dataPaths ++ datastore.schemaPaths)

/-- The present contents of the files that a start asks for. -/
def readStart (arguments : List String) : IO Store.Files := do
  let path := Startup.optionsPath arguments
  let files ← readPaths [path]
  match Options.load files path with
  | .error _ => return files
  | .ok options =>
    let datastore := Datastore.ofOptions options.datastore
    readPaths (path :: datastore.dataPaths ++ datastore.schemaPaths)

/-! ## §2. The watcher. -/

/-- Waits for a number of tenths of a second; stops as soon as the program
is interrupted, and tells whether it was. -/
def pause (interrupted : IO Bool) : (tenths : Nat) → IO Bool
  | 0 => interrupted
  | tenths + 1 => do
    if ← interrupted then return true
    IO.sleep 100
    pause interrupted tenths

/-- Polls the files again and again until the program is interrupted. -/
def watch (interrupted : IO Bool) (seconds : Nat) (start : Watcher) : IO Unit := do
  let mut watcher := start
  repeat
    if ← pause interrupted (10 * seconds) then break
    watcher := (watcher.poll (← readDatastore watcher.datastore)).1

/-! ## §3. The program. -/

/-- Prints reports, one object a line. -/
def print (reports : List Report) : IO Unit := do
  let output ← IO.getStdout
  reports.forM fun report => output.putStrLn report.toJson.compactText
  output.flush

/-- Runs the program from its arguments to its exit code. -/
def run (arguments : List String) : IO UInt32 := do
  let progress := Startup.begin (← readStart arguments) arguments
  match progress.stage with
  | .stopped exitCode =>
    print progress.reports
    progress.errors.forM fun line => IO.eprintln line
    return exitCode.toUInt32
  | .watching options watcher =>
    let signal ← Std.Async.Signal.Waiter.mk .sigint false
    let arrival ← signal.wait
    let interrupted : IO Bool := return (← arrival.getState) == .finished
    progress.errors.forM fun line => IO.eprintln line
    print progress.reports
    let watcher := watcher.start (← readDatastore watcher.datastore)
    watch interrupted options.watcher.pollSeconds watcher
    print (Startup.shown options Startup.interrupted)
    return 0

end TradingConfig.Main

/-- The program. -/
def main (arguments : List String) : IO UInt32 :=
  TradingConfig.Main.run arguments
