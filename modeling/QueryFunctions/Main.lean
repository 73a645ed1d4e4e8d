import QueryFunctions.CallList

/-! The command line: runs the calls in the file that is named, or those of the demo. -/

open QueryFunctions

def contentOf (path : String) : IO (Option ByteArray) := do
  try
    return some (← IO.FS.readBinFile path)
  catch _ => return none

def main (args : List String) : IO UInt32 := do
  let report ← match args with
    | path :: _ => do pure (Report.ofFile (← contentOf path))
    | [] => pure Report.demo
  IO.print report.printed
  return report.exitCode.toUInt32
