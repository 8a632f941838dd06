import EntryStop.Machine.Fault
import EntryStop.Machine.Word

/-!
# Program images

A 64-bit ELF image tells where its program is entered and where in the file the
bytes of each section lie.  The entry is a virtual address; with the sections it
becomes an offset in the file, which does not depend on where the image is
loaded.

Files are taken apart by a parser from outside.  It reads section headers without
looking at the length of the file, so that this is done here before any is asked for.
-/

namespace EntryStop

structure Section where
  addr : Address
  size : Word
  offset : Word
  deriving DecidableEq, Repr

structure EntryInfo where
  entry : Address
  sections : List Section
  deriving DecidableEq, Repr

-- The end of a section is not computed, since it need not fit in a word.
def Section.contains (s : Section) (a : Address) : Bool :=
  s.addr ≤ a && a - s.addr < s.size

def Section.fileOffset (s : Section) (a : Address) : Except Fault Word :=
  match Word.sub? a s.addr with
  | none => .error .subOverflow
  | some distance =>
      match Word.add? distance s.offset with
      | none => .error .addOverflow
      | some offset => .ok offset

/-- The file offset of the entry: through the first section that holds it, and
the entry itself if the image has no sections. -/
def EntryInfo.fileOffset (info : EntryInfo) : Except Fault (Option Word) :=
  if info.sections.isEmpty then .ok (some info.entry)
  else
    match info.sections.find? fun s => s.contains info.entry with
    | none => .ok none
    | some s => (s.fileOffset info.entry).map some

namespace Image

/-!
## Parsers
-/

inductive Class where
  | none
  | thirtyTwo
  | sixtyFour
  | other (code : UInt8)
  deriving DecidableEq, Repr

def Class.name : Class -> String
  | none => "None"
  | thirtyTwo => "ThirtyTwo"
  | sixtyFour => "SixtyFour"
  | other code => s!"Other({code})"

structure SectionHeader where
  address : Address
  offset : Word
  size : Word
  deriving DecidableEq, Repr

/-- What a parser tells of a file: fields of its header, and what it hands out, header by
header, when it is asked for the section table. -/
structure Parsed where
  cls : Class
  entry : Address
  tableOffset : Word
  headerSize : UInt16
  count : UInt16
  headers : List (Except Fault SectionHeader)

abbrev Parser := List UInt8 -> Except String Parsed

/-!
## Reading
-/

inductive Error where
  | unparsable (reason : String)
  | not64Bit (cls : Class)
  | sectionSize (size : UInt16)
  | tableBeyondEnd (offset : Word) (count : UInt16) (length : Nat)
  deriving DecidableEq, Repr

def Error.message : Error -> String
  | unparsable reason => "cannot parse elf binary: " ++ reason
  | not64Bit cls => "not a 64-bit elf file (" ++ cls.name ++ ")"
  | sectionSize size =>
      s!"unexpected section header size {size}, expected 64"
  | tableBeyondEnd offset count length =>
      s!"section table at {Word.hex offset} with {count} entries exceeds file size {length}"

def sectionHeaderSize : Nat := 64

def SectionHeader.toSection (h : SectionHeader) : Section :=
  ⟨h.address, h.size, h.offset⟩

namespace Parsed

def hasTable (p : Parsed) : Bool :=
  p.tableOffset != 0 && p.count != 0

-- The end of the table need not fit in a word either.
def tableEnd (p : Parsed) : Nat :=
  p.tableOffset.toNat + sectionHeaderSize * p.count.toNat

def sections (p : Parsed) : Except Fault (List Section) :=
  p.headers.mapM fun h => h.map SectionHeader.toSection

def info (p : Parsed) (length : Nat) : Except (Failure Error) EntryInfo :=
  if p.cls ≠ .sixtyFour then .error (.reported (.not64Bit p.cls))
  else if !p.hasTable then .ok ⟨p.entry, []⟩
  else if p.headerSize.toNat ≠ sectionHeaderSize then
    .error (.reported (.sectionSize p.headerSize))
  else if length < p.tableEnd then
    .error (.reported (.tableBeyondEnd p.tableOffset p.count length))
  else (p.sections.mapError .fault).map (⟨p.entry, ·⟩)

end Parsed

def read (parse : Parser) (bytes : List UInt8) : Except (Failure Error) EntryInfo :=
  match parse bytes with
  | .error reason => .error (.reported (.unparsable reason))
  | .ok p => p.info bytes.length

end Image
end EntryStop
