import EntryStop.Host.ProcessFiles
import EntryStop.Program.Image
import EntryStop.Program.MemoryMap
import EntryStop.Tracing.Notice

/-!
# The entry of a process

Where the entry of a program is in the memory of a process that runs it: the file
offset of the entry, carried over by the mapping of the program's code.
-/

namespace EntryStop
namespace Entry

inductive Error where
  | unreadableMaps (pid : Pid) (cause : FileError)
  | malformedMaps (cause : MemoryMap.Error)
  | noExecutable (pid : Pid)
  | unreadableImage (path : String) (cause : FileError)
  | malformedImage (path : String) (cause : Image.Error)
  | outsideSections (path : String) (entry : Address)
  | unknown (reason : String)
  deriving DecidableEq, Repr

def Error.message : Error -> String
  | unreadableMaps pid cause =>
      "cannot open " ++ ProcessFiles.mapsPath pid ++ ", " ++ cause.message
  | malformedMaps cause => cause.message
  | noExecutable pid =>
      s!"couldn't find executable mapping in maps of {pid.text}"
  | unreadableImage path cause =>
      "cannot read " ++ path ++ " to parse elf header, " ++ cause.message
  | malformedImage path cause => "cannot parse " ++ path ++ ", " ++ cause.message
  | outsideSections path entry =>
      "no section of " ++ path ++ " contains entry " ++ Word.hex entry
  | unknown reason => reason

/-!
## Rebasing
-/

def rebase (m : Mapping) (fileOffset : Word) : Option Address :=
  (Word.add? m.start fileOffset).bind fun a => Word.sub? a m.offset

def address (m : Mapping) (info : EntryInfo) : Except Fault (Option Address) :=
  info.fileOffset.map fun offset => offset.bind (rebase m)

/-!
## Reading the files
-/

def readMaps (pid : Pid) (maps : Except FileError (List UInt8)) :
    Except Error (List Mapping) := do
  let bytes ← maps.mapError (.unreadableMaps pid)
  (MemoryMap.parse bytes).mapError .malformedMaps

def imageOf (parse : Image.Parser) (path : String)
    (contents : Except FileError (List UInt8)) : Except (Failure Error) EntryInfo := do
  let bytes ← contents.mapError fun cause => .reported (.unreadableImage path cause)
  (Image.read parse bytes).mapError fun failure => failure.map (.malformedImage path)

def readImage (parse : Image.Parser) (logging : Bool) (path : String)
    (contents : Except FileError (List UInt8)) :
    List Notice × Except (Failure Error) EntryInfo :=
  match imageOf parse path contents with
  | .error failure => ([], .error failure)
  | .ok info =>
      if logging && !info.sections.isEmpty then
        ([.sections path info.sections.length], .ok info)
      else ([], .ok info)

/-!
## Resolving the entry
-/

structure Source where
  maps : Except FileError (List UInt8)
  file : String -> Except FileError (List UInt8)
  parse : Image.Parser

def codeMapping (pid : Pid) (source : Source) : Except Error Mapping := do
  let maps ← readMaps pid source.maps
  match MemoryMap.firstExecutable maps with
  | none => throw (.noExecutable pid)
  | some m => return m

def place (m : Mapping) (info : EntryInfo) :
    Except (Failure Error) (Address × Word) := do
  let offset ← info.fileOffset.mapError .fault
  match offset.bind (rebase m) with
  | none => throw (.reported (.outsideSections m.pathname info.entry))
  | some entry => return (entry, offset.getD 0)

def resolve (logging : Bool) (pid : Pid) (source : Source) :
    List Notice × Except (Failure Error) Address :=
  match codeMapping pid source with
  | .error e => ([], .error (.reported e))
  | .ok m =>
      let first := if logging then [.mapped pid m] else []
      match readImage source.parse logging m.pathname (source.file m.pathname) with
      | (told, .error failure) => (first ++ told, .error failure)
      | (told, .ok info) =>
          match place m info with
          | .error failure => (first ++ told, .error failure)
          | .ok (entry, offset) =>
              let last := if logging then [.resolved pid m entry offset] else []
              (first ++ told ++ last, .ok entry)

end Entry
end EntryStop
