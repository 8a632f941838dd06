import EntryStop.Text.Blank
import EntryStop.Text.Lines
import EntryStop.Text.Numeral
import EntryStop.Text.Split

/-!
# Socket tables

The kernel's table of TCP sockets: a header line, then one row for each socket
with its local address and port, its state and its inode.
-/

namespace EntryStop

/-- A listening socket.  The port is kept as it was read, also if it is too large
to be one. -/
structure Listener where
  port : UInt32
  inode : UInt64
  deriving DecidableEq, Repr

namespace SocketTable

def listening : List Char := ['0', 'A']

/-- The listener that the fields of a row name: the port stands in the second
field after the last colon, the state in the fourth, the inode in the tenth. -/
def ofFields : List (List Char) -> Option Listener
  | _ :: localEnd :: _ :: state :: _ :: _ :: _ :: _ :: _ :: inode :: _ =>
      if state = listening then do
        let port ← (Numeral.word32 16 (Text.afterLast ':' localEnd)).toOption
        let inode ← (Numeral.word64 10 inode).toOption
        return ⟨port, inode⟩
      else none
  | _ => none

def ofRow (row : List Char) : Option Listener :=
  ofFields (Text.fields row)

def listeners (table : List Char) : List Listener :=
  ((Text.lines table).drop 1).filterMap ofRow

/-!
## Sockets of a process
-/

def linkOpening : List Char := "socket:[".toList

def linkInode (target : List Char) : Option UInt64 := do
  let rest ← Text.afterMarker? linkOpening target
  let digits ← (Text.afterMarker? [']'] rest.reverse).map List.reverse
  (Numeral.word64 10 digits).toOption

def inodes (targets : List (List Char)) : List UInt64 :=
  targets.filterMap linkInode

end SocketTable
end EntryStop
