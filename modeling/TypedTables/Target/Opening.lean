import TypedTables.Store
import TypedTables.Target

/-!
# Opening a target

A store in memory is opened empty. There is no other store: no file can be opened, but for the paths that stand for a
store of no file. A path with a NUL is the path of nothing. -/

namespace TypedTables.Target

/-- The paths that stand for a store of no file. -/
def filelessPaths : List String := [memoryAddress, "", "file:", "file:" ++ memoryAddress]

/-- Why the file of a path cannot be opened. -/
def openFault (path : String) : String :=
  if '\x00' ∈ path.toList then
    let start := String.ofList (path.toList.takeWhile (· ≠ '\x00'))
    "nul byte found in provided data at position: " ++ toString start.utf8ByteSize
  else "unable to open database file: " ++ path

/-- Opens a target. -/
def connect : Target → Except Error Store
  | memory => .ok {}
  | file path => if path ∈ filelessPaths then .ok {} else .error (.openFailed path (openFault path))

end TypedTables.Target
