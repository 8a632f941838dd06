import EntryStop.Machine.Memory
import EntryStop.Program.MemoryMap

/-!
# Programs

What a child may run: an image that lies in memory.
-/

namespace EntryStop
namespace Launch

structure Program where
  path : String
  image : List UInt8
  maps : List UInt8

namespace Program

/-- The byte at an address of a mapped image; past the end of the file it is zero. -/
def byte? (maps : List Mapping) (image : List UInt8) (a : Address) : Option UInt8 :=
  (maps.find? fun m => m.contains a).map fun m =>
    image.getD (a - m.start + m.offset).toNat 0

def word? (p : Program) (a : Address) : Option Word := do
  let maps ← (MemoryMap.parse p.maps).toOption
  let bytes ← (List.range 8).mapM fun k => byte? maps p.image (a + UInt64.ofNat k)
  return bytes.foldr (fun b w => w * 256 + b.toUInt64) 0

end Program
end Launch
end EntryStop
