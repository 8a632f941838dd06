import EntryStop.Host.Files
import EntryStop.Machine.Word
import EntryStop.Text.Blank
import EntryStop.Text.Lines
import EntryStop.Text.Numeral
import EntryStop.Text.Split
import EntryStop.Text.Utf8

/-!
# Memory maps

The mappings of a process as its `maps` file lists them: one line for each, with
the address range, the permissions, the offset in the mapped file, the device,
the inode and, after padding, the path of the file.
-/

namespace EntryStop

structure Mapping where
  start : Address
  stop : Address
  readable : Bool
  writable : Bool
  executable : Bool
  offset : Word
  pathname : String
  deriving DecidableEq, Repr

namespace Mapping

def contains (m : Mapping) (a : Address) : Bool :=
  m.start ≤ a && a < m.stop

end Mapping

namespace MemoryMap

def firstExecutable (maps : List Mapping) : Option Mapping :=
  maps.find? Mapping.executable

inductive LineError where
  | fewFields
  | noRange (field : String)
  | badStart (text : String) (cause : NumeralError)
  | badStop (text : String) (cause : NumeralError)
  | badPermissions (text : String)
  | badOffset (text : String) (cause : NumeralError)
  deriving DecidableEq, Repr

inductive Error where
  | notText
  | line (text : String) (cause : LineError)
  deriving DecidableEq, Repr

def LineError.message : LineError -> String
  | fewFields => "expected at least 5 fields"
  | noRange field => "address range has no '-': " ++ field
  | badStart text cause =>
      "start address is not a number: " ++ text ++ ", " ++ cause.message
  | badStop text cause =>
      "end address is not a number: " ++ text ++ ", " ++ cause.message
  | badPermissions text =>
      "expected 4 permission characters, got '" ++ text ++ "'"
  | badOffset text cause =>
      "offset is not a number: " ++ text ++ ", " ++ cause.message

def Error.message : Error -> String
  | notText => "cannot read memory map, " ++ FileError.notText.message
  | line text cause => "cannot parse line " ++ text ++ ", " ++ cause.message

/-!
## Lines
-/

/-- The permissions are four bytes; the fourth one tells shared from private and
is not looked at. -/
def parsePermissions (field : List Char) : Except LineError (Bool × Bool × Bool) :=
  match Utf8.encode field with
  | [r, w, x, _] => .ok (r == 0x72, w == 0x77, x == 0x78)
  | _ => .error (.badPermissions (String.ofList field))

def parseRange (field : List Char) : Except LineError (Address × Address) :=
  match Text.splitFirst '-' field with
  | none => .error (.noRange (String.ofList field))
  | some (low, high) => do
      let start ← (Numeral.word64 16 low).mapError (.badStart (String.ofList low))
      let stop ← (Numeral.word64 16 high).mapError (.badStop (String.ofList high))
      return (start, stop)

def parseOffset (field : List Char) : Except LineError Word :=
  (Numeral.word64 16 field).mapError (.badOffset (String.ofList field))

def parseFields (range permissions offset path : List Char) :
    Except LineError Mapping := do
  let (start, stop) ← parseRange range
  let (readable, writable, executable) ← parsePermissions permissions
  let offset ← parseOffset offset
  return ⟨start, stop, readable, writable, executable, offset,
    String.ofList (Text.trim path)⟩

def parseLine (line : List Char) : Except LineError Mapping :=
  match Text.splitAtMost 6 ' ' line with
  | [range, permissions, offset, _, _] => parseFields range permissions offset []
  | [range, permissions, offset, _, _, path] =>
      parseFields range permissions offset path
  | _ => .error .fewFields

def readLine (line : List UInt8) : Except Error Mapping :=
  match Utf8.decode? line with
  | none => .error .notText
  | some text => (parseLine text).mapError (.line (String.ofList text))

/-!
## The whole map
-/

/-- The mappings of all lines; the first line that is none decides the error. -/
def parse (bytes : List UInt8) : Except Error (List Mapping) :=
  (Lines.ofBytes bytes).mapM readLine

end MemoryMap
end EntryStop
