import EntryStop.Program.MemoryMap
import EntryStop.Proofs.Machine.Results
import EntryStop.Proofs.Text.Fields
import EntryStop.Proofs.Text.Lines
import EntryStop.Proofs.Text.Numeral

/-!
# Memory maps that were written

A memory map is written as one line for each mapping.  How a line looks is free in the case
and the width of its numbers, in the fields that are not read, and in the padding before
the path.  Reading gives the mappings back whatever the lines look like.
-/

namespace EntryStop
namespace MemoryMap

/-!
## Lines of mappings
-/

structure Row where
  mapping : Mapping
  startStyle : Numeral.HexStyle
  stopStyle : Numeral.HexStyle
  offsetStyle : Numeral.HexStyle
  shared : Bool
  device : List Char
  inode : List Char
  padding : Nat

namespace Row

def range (r : Row) : List Char :=
  Numeral.hexText r.startStyle r.mapping.start.toNat ++
    '-' :: Numeral.hexText r.stopStyle r.mapping.stop.toNat

def permissions (r : Row) : List Char :=
  [if r.mapping.readable then 'r' else '-', if r.mapping.writable then 'w' else '-',
    if r.mapping.executable then 'x' else '-', if r.shared then 's' else 'p']

def offset (r : Row) : List Char :=
  Numeral.hexText r.offsetStyle r.mapping.offset.toNat

def place (r : Row) : List Char :=
  List.replicate r.padding ' ' ++ r.mapping.pathname.toList

def line (r : Row) : List Char :=
  r.range ++ ' ' :: (r.permissions ++ ' ' :: (r.offset ++ ' ' ::
    (r.device ++ ' ' :: (r.inode ++ r.place))))

def front (r : Row) : List Char :=
  r.range ++ ' ' :: (r.permissions ++ ' ' :: (r.offset ++ ' ' :: (r.device ++ ' ' :: r.inode)))

def trimmed (r : Row) : Mapping :=
  { r.mapping with pathname := String.ofList (Text.trim r.mapping.pathname.toList) }

def showsExecutable (r : Row) : Bool :=
  r.permissions[2]? == some 'x'

/-- The free fields have no blanks, no field has a newline, and a path stands behind padding
and neither begins nor ends with a blank. -/
structure WellFormed (r : Row) : Prop where
  device_blank : ' ' ∉ r.device
  device_newline : '\n' ∉ r.device
  inode_blank : ' ' ∉ r.inode
  inode_newline : '\n' ∉ r.inode
  path_newline : '\n' ∉ r.mapping.pathname.toList
  path_bare : Text.Bare r.mapping.pathname.toList
  padded : r.mapping.pathname ≠ "" -> 0 < r.padding

structure Printed (r : Row) : Prop where
  device_blank : ' ' ∉ r.device
  device_newline : '\n' ∉ r.device
  inode_blank : ' ' ∉ r.inode
  inode_newline : '\n' ∉ r.inode
  path_newline : '\n' ∉ r.mapping.pathname.toList
  padded : r.mapping.pathname ≠ "" -> 0 < r.padding

theorem WellFormed.printed {r : Row} (h : r.WellFormed) : r.Printed where
  device_blank := h.device_blank
  device_newline := h.device_newline
  inode_blank := h.inode_blank
  inode_newline := h.inode_newline
  path_newline := h.path_newline
  padded := h.padded

theorem WellFormed.trimmed_eq {r : Row} (h : r.WellFormed) : r.trimmed = r.mapping := by
  rw [trimmed, Text.trim_of_bare h.path_bare, String.ofList_toList]

end Row

def print (rows : List Row) : List Char :=
  rows.flatMap fun r => r.line ++ ['\n']

/-!
## Fields
-/

section

variable (r : Row)

theorem parseRange_range : parseRange r.range = .ok (r.mapping.start, r.mapping.stop) := by
  have hdash : '-' ∉ Numeral.hexText r.startStyle r.mapping.start.toNat :=
    Numeral.not_mem_hexText (by decide) _ _
  rw [parseRange, Row.range, Text.splitFirst_append hdash]
  simp only [Numeral.word64_hexText]
  rfl

theorem parsePermissions_permissions : parsePermissions r.permissions =
    .ok (r.mapping.readable, r.mapping.writable, r.mapping.executable) := by
  unfold Row.permissions
  cases r.mapping.readable <;> cases r.mapping.writable <;>
    cases r.mapping.executable <;> cases r.shared <;> rfl

theorem parseOffset_offset : parseOffset r.offset = .ok r.mapping.offset := by
  rw [parseOffset, Row.offset, Numeral.word64_hexText]
  rfl

theorem parseFields_row (path : List Char) :
    parseFields r.range r.permissions r.offset path =
      .ok { r.mapping with pathname := String.ofList (Text.trim path) } := by
  unfold parseFields
  rw [parseRange_range, parsePermissions_permissions, parseOffset_offset]
  rfl

variable {r}

theorem not_mem_range {c : Char} (hdigit : Numeral.digit? 16 c = none) (hdash : c ≠ '-') :
    c ∉ r.range := by
  intro hmem
  rcases List.mem_append.mp hmem with hstart | hrest
  · exact Numeral.not_mem_hexText hdigit _ _ hstart
  · rcases List.mem_cons.mp hrest with heq | hstop
    · exact hdash heq
    · exact Numeral.not_mem_hexText hdigit _ _ hstop

theorem not_mem_permissions {c : Char} (hc : c ∉ ['r', 'w', 'x', 's', 'p', '-']) :
    c ∉ r.permissions := by
  have hletter {flag : Bool} {yes no : Char} (hyes : c ≠ yes) (hno : c ≠ no) :
      c ≠ if flag then yes else no := by
    cases flag with
    | false => exact hno
    | true => exact hyes
  simp only [List.mem_cons, List.not_mem_nil, or_false, not_or] at hc
  rcases hc with ⟨hr, hw, hx, hs, hp, hdash⟩
  simp only [Row.permissions, List.mem_cons, List.not_mem_nil, or_false, not_or]
  exact ⟨hletter hr hdash, hletter hw hdash, hletter hx hdash, hletter hs hp⟩

theorem not_mem_offset {c : Char} (hdigit : Numeral.digit? 16 c = none) : c ∉ r.offset :=
  Numeral.not_mem_hexText hdigit _ _

/-!
## Lines
-/

theorem line_eq (r : Row) : r.line = r.front ++ r.place := by
  simp only [Row.line, Row.front, List.append_assoc, List.cons_append]

theorem splitAtMost_front_append (hdevice : ' ' ∉ r.device) (place : List Char) :
    Text.splitAtMost 6 ' ' (r.front ++ place) =
      r.range :: r.permissions :: r.offset :: r.device ::
        Text.splitAtMost 2 ' ' (r.inode ++ place) := by
  simp only [Row.front, List.append_assoc, List.cons_append]
  rw [Text.splitAtMost_append (not_mem_range (by decide) (by decide)),
    Text.splitAtMost_append (not_mem_permissions (by decide)),
    Text.splitAtMost_append (not_mem_offset (by decide)), Text.splitAtMost_append hdevice]

theorem parseLine_front (hdevice : ' ' ∉ r.device) (hinode : ' ' ∉ r.inode) :
    parseLine r.front = .ok { r.mapping with pathname := "" } := by
  have hcut := splitAtMost_front_append hdevice []
  rw [List.append_nil, List.append_nil, Text.splitAtMost_of_not_mem hinode] at hcut
  rw [parseLine, hcut]
  exact parseFields_row r []

theorem parseLine_front_append (hdevice : ' ' ∉ r.device) (hinode : ' ' ∉ r.inode)
    (path : List Char) :
    parseLine (r.front ++ ' ' :: path) =
      .ok { r.mapping with pathname := String.ofList (Text.trim path) } := by
  have hcut := splitAtMost_front_append hdevice (' ' :: path)
  rw [Text.splitAtMost_append hinode, Text.splitAtMost_one] at hcut
  rw [parseLine, hcut]
  exact parseFields_row r path

theorem trim_dropReturn (path : List Char) :
    Text.trim (Lines.dropReturn '\r' path) = Text.trim path := by
  rcases Text.exists_blanks_of_dropReturn path with ⟨blanks, hpath, hblanks⟩
  have htrim := Text.trim_append_blanks hblanks (Lines.dropReturn '\r' path)
  rw [← hpath] at htrim
  exact htrim.symm

theorem dropReturn_front (r : Row) :
    Lines.dropReturn '\r' r.front =
      { r with inode := Lines.dropReturn '\r' r.inode }.front := by
  have hfront (inode : List Char) : { r with inode }.front =
      (r.range ++ ' ' :: (r.permissions ++ ' ' :: (r.offset ++ ' ' :: r.device))) ++
        ' ' :: inode := by
    simp only [Row.front, List.append_assoc, List.cons_append]
    rfl
  have hdrop := Lines.dropReturn_append_cons (show ' ' ≠ '\r' by decide)
    (r.range ++ ' ' :: (r.permissions ++ ' ' :: (r.offset ++ ' ' :: r.device))) r.inode
  rw [← hfront, ← hfront] at hdrop
  exact hdrop

/-- A return in front of the newline is a blank behind the path, or else the end of the inode,
which is not read. -/
theorem parseLine_dropReturn_line (h : r.Printed) :
    parseLine (Lines.dropReturn '\r' r.line) = .ok r.trimmed := by
  rw [line_eq, Row.place, Row.trimmed]
  cases hpadding : r.padding with
  | zero =>
      have hempty : r.mapping.pathname = "" := by
        apply Decidable.not_not.mp
        intro hne
        exact absurd hpadding (Nat.ne_of_gt (h.padded hne))
      have hinode : ' ' ∉ Lines.dropReturn '\r' r.inode :=
        fun hmem => h.inode_blank (Lines.mem_of_mem_dropReturn hmem)
      have hplace : List.replicate 0 ' ' ++ "".toList = [] := rfl
      rw [hempty, hplace, List.append_nil, dropReturn_front]
      exact parseLine_front (r := { r with inode := _ }) h.device_blank hinode
  | succ count =>
      rw [List.replicate_succ, List.cons_append, Lines.dropReturn_append_cons (by decide),
        parseLine_front_append h.device_blank h.inode_blank, trim_dropReturn,
        Text.trim_padding]

theorem newline_not_mem_line (h : r.Printed) : '\n' ∉ r.line := by
  have hplace : '\n' ∉ r.place := by
    intro hmem
    rcases List.mem_append.mp hmem with hpadding | hpath
    · exact absurd (List.eq_of_mem_replicate hpadding) (by decide)
    · exact h.path_newline hpath
  simp [Row.line, not_mem_range (r := r) (c := '\n') (by decide) (by decide),
    not_mem_permissions (r := r) (c := '\n') (by decide),
    not_mem_offset (r := r) (c := '\n') (by decide), h.device_newline, h.inode_newline,
    hplace]

end

/-!
## Whole maps
-/

theorem readLine_encode (line : List Char) :
    readLine (Utf8.encode line) =
      (parseLine line).mapError (.line (String.ofList line)) := by
  rw [readLine, Utf8.decode?_encode]

theorem parse_encode (text : List Char) :
    parse (Utf8.encode text) =
      (Text.lines text).mapM fun line =>
        (parseLine line).mapError (.line (String.ofList line)) := by
  rw [parse, Lines.ofBytes_encode, List.mapM_map]
  congr 1
  funext line
  exact readLine_encode line

theorem parse_encode_printed {rows : List Row} (h : forall r, r ∈ rows -> r.Printed) :
    parse (Utf8.encode (print rows)) = .ok (rows.map Row.trimmed) := by
  have hlines : Text.lines (print rows) =
      rows.map fun r => Lines.dropReturn '\r' r.line :=
    Lines.split_flatMap '\r' fun r hr => newline_not_mem_line (h r hr)
  rw [parse_encode, hlines, mapM_eq_ok_iff, List.map_map, List.map_map]
  apply List.map_congr_left
  intro r hr
  exact mapError_eq_ok_iff.mpr (parseLine_dropReturn_line (h r hr))

theorem parse_encode_print {rows : List Row} (h : forall r, r ∈ rows -> r.WellFormed) :
    parse (Utf8.encode (print rows)) = .ok (rows.map Row.mapping) := by
  rw [parse_encode_printed fun r hr => (h r hr).printed]
  exact congrArg Except.ok (List.map_congr_left fun r hr => (h r hr).trimmed_eq)

theorem showsExecutable_eq (r : Row) : r.showsExecutable = r.mapping.executable := by
  unfold Row.showsExecutable Row.permissions
  cases r.mapping.executable <;> rfl

/-- Reading undoes writing: a map gives its mappings back in their order, and the mapping
of the program's code is the first one that shows the letter for executable code. -/
theorem parse_print (rows : List Row) (h : forall r, r ∈ rows -> r.WellFormed) :
    parse (Utf8.encode (print rows)) = .ok (rows.map Row.mapping) ∧
      firstExecutable (rows.map Row.mapping) =
        (rows.find? Row.showsExecutable).map Row.mapping := by
  refine ⟨parse_encode_print h, ?_⟩
  rw [firstExecutable, List.find?_map]
  have hshown : Mapping.executable ∘ Row.mapping = Row.showsExecutable := by
    funext r
    exact (showsExecutable_eq r).symm
  rw [hshown]

/-!
## Two lines
-/

def anonymous : Row where
  mapping := ⟨0, 0xFFFFFFFFFFFFFFFF, true, true, false, 0, ""⟩
  startStyle := ⟨false, 7⟩
  stopStyle := ⟨true, 0⟩
  offsetStyle := ⟨false, 0⟩
  shared := true
  device := "00:00".toList
  inode := "0\r".toList
  padding := 0

def library : Row where
  mapping := ⟨0x55D0C8A02000, 0x55D0C8A06000, true, false, true, 0x2000, "/opt/my lib"⟩
  startStyle := ⟨true, 0⟩
  stopStyle := ⟨false, 4⟩
  offsetStyle := ⟨false, 4⟩
  shared := false
  device := "fd:01".toList
  inode := "1311".toList
  padding := 3

theorem wellFormed_anonymous : anonymous.WellFormed where
  device_blank := by decide
  device_newline := by decide
  inode_blank := by decide
  inode_newline := by decide
  path_newline := by decide
  path_bare := ⟨nofun, nofun⟩
  padded := fun hne => absurd rfl hne

theorem wellFormed_library : library.WellFormed where
  device_blank := by decide
  device_newline := by decide
  inode_blank := by decide
  inode_newline := by decide
  path_newline := by decide
  path_bare := by
    constructor
    · intro c hc
      cases hc
      decide
    · intro c hc
      cases hc
      decide
  padded := fun _ => by decide

example : print [anonymous, library] =
    ("00000000-FFFFFFFFFFFFFFFF rw-s 0 00:00 0\r\n" ++
      "55D0C8A02000-000055d0c8a06000 r-xp 00002000 fd:01 1311   /opt/my lib\n").toList := by
  decide

theorem parse_print_library :
    (forall r, r ∈ [anonymous, library] -> r.WellFormed) ∧
      parse (Utf8.encode (print [anonymous, library])) =
        .ok [anonymous.mapping, library.mapping] ∧
      firstExecutable [anonymous.mapping, library.mapping] = some library.mapping := by
  have hrows : forall r, r ∈ [anonymous, library] -> r.WellFormed := by
    intro r hr
    cases hr with
    | head => exact wellFormed_anonymous
    | tail _ hr =>
        cases List.mem_singleton.mp hr
        exact wellFormed_library
  exact ⟨hrows, parse_print [anonymous, library] hrows⟩

end MemoryMap
end EntryStop
