import EntryStop.Program.Image

/-!
# The layout of image files

Where the fields of a 64-bit ELF image stand in its file, and what is relied on from a
parser of such files.  The file is taken to start at an aligned address, so that a header
is aligned where its offset is.
-/

namespace EntryStop
namespace Image

/-!
## Numbers
-/

def littleEndian : List UInt8 -> Nat
  | [] => 0
  | b :: bytes => b.toNat + 256 * littleEndian bytes

def number (bytes : List UInt8) (offset width : Nat) : Nat :=
  littleEndian ((bytes.drop offset).take width)

def word (bytes : List UInt8) (offset : Nat) : Word :=
  UInt64.ofNat (number bytes offset 8)

/-!
## Fields
-/

def magic : List UInt8 := [0x7F, 0x45, 0x4C, 0x46]

def headerSize : Nat := 64

def entry (bytes : List UInt8) : Address := word bytes 24

def tableOffset (bytes : List UInt8) : Word := word bytes 40

def sectionSize (bytes : List UInt8) : Nat := number bytes 58 2

def sectionCount (bytes : List UInt8) : Nat := number bytes 60 2

def sectionHeader (bytes : List UInt8) (index : Nat) : List UInt8 :=
  (bytes.drop ((tableOffset bytes).toNat + sectionHeaderSize * index)).take
    sectionHeaderSize

def headerAt (header : List UInt8) : SectionHeader :=
  ⟨word header 16, word header 24, word header 32⟩

def sectionAt (header : List UInt8) : Section :=
  (headerAt header).toSection

structure IsImage (bytes : List UInt8) : Prop where
  length : headerSize ≤ bytes.length
  magic : bytes.take 4 = magic
  wide : number bytes 4 1 = 2

/-!
## Lawful parsers
-/

/-- Section headers with this index and above are not handed out. -/
def reservedIndex : Nat := 0xFF00

structure Parsed.Describes (p : Parsed) (bytes : List UInt8) : Prop where
  cls : p.cls = .sixtyFour
  entry : p.entry = Image.entry bytes
  tableOffset : p.tableOffset = Image.tableOffset bytes
  headerSize : p.headerSize.toNat = sectionSize bytes
  count : p.count.toNat = sectionCount bytes

structure Parsed.HeaderInFile (p : Parsed) (bytes : List UInt8) (index : Nat) : Prop where
  count : index < p.count.toNat
  size : p.headerSize.toNat = sectionHeaderSize
  fits : p.tableOffset.toNat + sectionHeaderSize * (index + 1) ≤ bytes.length

/-- The parser takes exactly the files with the header of a 64-bit image for such, and reads
their fields.  It hands out one section header for each that the file tells of.  A reserved
index and a misaligned header are faults of the parser; nothing is said about a header that
does not lie within the file. -/
structure Parser.Lawful (parse : Parser) : Prop where
  header : forall {bytes}, IsImage bytes ->
    exists p, parse bytes = .ok p ∧ p.Describes bytes
  image : forall {bytes p}, parse bytes = .ok p -> p.cls = .sixtyFour -> IsImage bytes
  length : forall {bytes p}, parse bytes = .ok p -> p.cls = .sixtyFour ->
    p.headers.length = p.count.toNat
  reserved : forall {bytes p index}, parse bytes = .ok p -> p.cls = .sixtyFour ->
    p.HeaderInFile bytes index -> reservedIndex ≤ index ->
      p.headers[index]? = some (.error .reservedSection)
  misaligned : forall {bytes p index}, parse bytes = .ok p -> p.cls = .sixtyFour ->
    p.HeaderInFile bytes index -> index < reservedIndex -> p.tableOffset.toNat % 8 ≠ 0 ->
      p.headers[index]? = some (.error .misalignedTable)
  aligned : forall {bytes p index}, parse bytes = .ok p -> p.cls = .sixtyFour ->
    p.HeaderInFile bytes index -> index < reservedIndex -> p.tableOffset.toNat % 8 = 0 ->
      p.headers[index]? = some (.ok (headerAt (sectionHeader bytes index)))

end Image
end EntryStop
