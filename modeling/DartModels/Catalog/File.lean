import DartModels.Catalog.Snapshot
import DartModels.Json.Reader

namespace DartModels

/-- Why a file cannot be opened. -/
inductive OpenFault where
  | missing
  | notDirectory
  | isDirectory
  | forbidden
  | nameTooLong
deriving DecidableEq, Repr

/-- The system's number for the reason. -/
def OpenFault.number : OpenFault → Nat
  | .missing => 2
  | .forbidden => 13
  | .notDirectory => 20
  | .isDirectory => 21
  | .nameTooLong => 36

/-- The system's words for the reason. -/
def OpenFault.reason : OpenFault → String
  | .missing => "No such file or directory"
  | .forbidden => "Permission denied"
  | .notDirectory => "Not a directory"
  | .isDirectory => "Is a directory"
  | .nameTooLong => "File name too long"

/-- What became of opening a file that was to be found under a path. -/
def OpenFault.message (fault : OpenFault) (path : String) : String :=
  "[Errno " ++ toString fault.number ++ "] " ++ fault.reason ++ ": " ++ Text.quoted path

/-- The bytes of a file, or why it cannot be opened. -/
abbrev Opened := Except OpenFault ByteArray

namespace Snapshot

/-- The parts of a path between its slashes. -/
def pathParts : List Char → List (List Char)
  | [] => [[]]
  | '/' :: rest => [] :: pathParts rest
  | c :: rest =>
    match pathParts rest with
    | [] => [[c]]
    | part :: parts => (c :: part) :: parts

/-- The slashes that a path starts with: two are kept, any other number counts as
    one. -/
def pathRoot : List Char → String
  | '/' :: '/' :: '/' :: _ => "/"
  | '/' :: '/' :: _ => "//"
  | '/' :: _ => "/"
  | _ => ""

/-- The path without empty parts and parts that stay where they are. -/
def normalPath (path : String) : String :=
  let parts := (pathParts path.toList).filter fun part => part != [] && part != ['.']
  let normal := pathRoot path.toList ++ Text.joined "/" (parts.map String.ofList)
  if normal = "" then "." else normal

/-- The text with every kind of line end written as a line feed. -/
def normalLineEnds : List Char → List Char
  | [] => []
  | '\r' :: '\n' :: rest => '\n' :: normalLineEnds rest
  | '\r' :: rest => '\n' :: normalLineEnds rest
  | c :: rest => c :: normalLineEnds rest

/-- Whether something can be found under a path at all. -/
def isPath (path : String) : Bool :=
  !path.toList.contains '\x00'

/-- The snapshot that a file holds which was opened under a normal path. -/
def ofFile [Text.HalfBlock] (path : String) (opened : Opened) : Except Failure Snapshot :=
  let failed (message : String) : Except Failure Snapshot :=
    .error (.problem (.metadata message (.text path) .null []))
  if !isPath path then .error (.fault .notPath)
  else match opened with
  | .error fault => failed ("Could not read metadata file: " ++ fault.message path)
  | .ok bytes =>
    match String.fromUTF8? bytes with
    | none => .error (.fault .notUtf8)
    | some raw =>
      let content := String.ofList (normalLineEnds raw.toList)
      match Json.load content with
      | .error .tooManyDigits => .error (.fault .tooManyDigits)
      | .error (.malformed error) =>
        failed ("Metadata file is not valid JSON: " ++ error.fault.message ++ " (line " ++
          toString (error.line content) ++ ")")
      | .ok value => ofJson (.text path) value

end Snapshot
end DartModels
