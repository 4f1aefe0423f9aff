import SpanSearch.Table

/-! # Files

Files are named by paths, which may also be written as addresses of the scheme for local files.
Addresses of the web are refused.
-/

namespace SpanSearch

/-- Why a file cannot be used. -/
inductive FileFault where
  | isRemote
  | cannotRead
  | cannotWrite
  deriving DecidableEq

/-- The wording of a fault. -/
def FileFault.message : FileFault → String
  | isRemote => "Loading URLs is not supported, download the file first"
  | cannotRead => "Opening file for reading failed"
  | cannotWrite => "Opening file for writing failed"

/-- The text after the given start, if it starts so. -/
def dropStart? (start text : String) : Option String :=
  if start.toList.isPrefixOf text.toList then
    some (String.ofList (text.toList.drop start.length))
  else none

/-- The path that a file name stands for. -/
def pathOf (name : String) : Except FileFault String :=
  if (dropStart? "https://" name).isSome || (dropStart? "http://" name).isSome then .error .isRemote
  else .ok ((dropStart? "file://" name).getD name)

/-- The contents of files, and the paths at which files can be written. -/
structure Files where
  contents : Table String
  writable : List String

namespace Files

/-- The content of the file with a name. -/
def read (files : Files) (name : String) : Except FileFault String := do
  let path ← pathOf name
  match files.contents.get? path with
  | some content => .ok content
  | none => .error .cannotRead

/-- The files after one with a name has been written. -/
def write (files : Files) (name content : String) : Except FileFault Files := do
  let path ← pathOf name
  if files.writable.contains path then
    .ok { files with contents := files.contents.insert path content }
  else .error .cannotWrite

end Files

end SpanSearch
