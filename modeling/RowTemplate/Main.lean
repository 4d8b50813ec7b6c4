import RowTemplate.Command.Run
import Std.Time.Zoned

/-! # Command line

Reads the files that the arguments name, runs, and writes the report: expanded
documents to standard output, the reports of failed rows to standard error.
-/

namespace RowTemplate.Command

/-- The contents of a file, if it can be read. -/
def readFile? (path : String) : IO (Option (List UInt8)) := do
  try return some (← IO.FS.readBinFile path).toList
  catch _ => return none

/-- The present moment in local time. -/
def present : IO Moment := do
  let t ← Std.Time.DateTime.now
  return {
    year := t.year.toInt
    month := t.month.val.toNat
    day := t.day.val.toNat
    hour := t.hour.val.toNat
    minute := t.minute.val.toNat
    second := t.second.val.toNat
    nano := t.nanosecond.val.toNat
    offset := t.offset.second.val }

/-- Writes a report. -/
def Report.write (r : Report) : IO Unit := do
  let out ← IO.getStdout
  let err ← IO.getStderr
  r.output.forM out.putStrLn
  out.flush
  r.failures.forM err.putStrLn
  r.error.forM fun e => err.putStrLn ("Error: " ++ e.message)

end RowTemplate.Command

open RowTemplate.Command in
/-- Runs the command line. -/
def main (args : List String) : IO UInt32 := do
  let files ← (paths args).mapM fun path => return (path, ← readFile? path)
  let report := run (fun path => (files.lookup path).join) (← present) args
  report.write
  return report.status.toUInt32
