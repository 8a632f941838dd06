import EntryStop.Program.Layout

/-!
# A parser of image files

It goes along the section table once, header by header, and fails on a header that has a
reserved index, goes beyond the end of the file, or is misaligned.
-/

namespace EntryStop
namespace Image
namespace Parser

def headerSize32 : Nat := 52

def takeHeader (bytes : List UInt8) (index : Nat) (rest : List UInt8) :
    Except Fault SectionHeader :=
  let start := (tableOffset bytes).toNat + sectionHeaderSize * index
  let header := rest.take sectionHeaderSize
  if reservedIndex ≤ index then .error .reservedSection
  else if header.length < sectionHeaderSize then
    .error (.sliceBeyondEnd (start + sectionHeaderSize) bytes.length)
  else if start % 8 ≠ 0 then .error .misalignedTable
  else .ok (headerAt header)

def takeHeaders (bytes : List UInt8) :
    (count index : Nat) -> List UInt8 -> List (Except Fault SectionHeader)
  | 0, _, _ => []
  | count + 1, index, rest =>
      takeHeader bytes index rest ::
        takeHeaders bytes count (index + 1) (rest.drop sectionHeaderSize)

def headers (bytes : List UInt8) : List (Except Fault SectionHeader) :=
  takeHeaders bytes (sectionCount bytes) 0 (bytes.drop (tableOffset bytes).toNat)

def wideFile (bytes : List UInt8) : Parsed where
  cls := .sixtyFour
  entry := entry bytes
  tableOffset := tableOffset bytes
  headerSize := UInt16.ofNat (sectionSize bytes)
  count := UInt16.ofNat (sectionCount bytes)
  headers := headers bytes

-- Of a 32-bit file only the class is looked at.
def narrowFile : Parsed := ⟨.thirtyTwo, 0, 0, 0, 0, []⟩

def standard : Parser := fun bytes =>
  if bytes.length < 16 then .error "File is shorter than the first ELF header part"
  else if bytes.take 4 ≠ magic then .error "Did not find ELF magic number"
  else if number bytes 4 1 = 2 then
    if bytes.length < headerSize then .error "File is shorter than ELF headers"
    else .ok (wideFile bytes)
  else if number bytes 4 1 = 1 then
    if bytes.length < headerSize32 then .error "File is shorter than ELF headers"
    else .ok narrowFile
  else .error "Invalid ELF class"

end Parser
end Image
end EntryStop
