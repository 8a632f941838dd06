import EntryStop.IdentPort.Find
import EntryStop.Proofs.IdentPort.SocketRows
import EntryStop.Proofs.Machine.Results

/-!
# The port of a socket that a process holds

The socket tables are searched for the first row that shows a listener in the range whose
socket the process holds.  The second table counts only if the first one has no such row, and
it may be missing.  A port is compared in full, so no other port is taken for one in the range.
-/

namespace EntryStop

/-!
## Rows that show a listener
-/

namespace SocketTable

def rows (table : List Char) : List (List Char) :=
  (Text.lines table).drop 1

/-- The words of the line have the port, the state and the inode of the listener at their
places. -/
def Shows (line : List Char) (l : Listener) : Prop :=
  exists words localEnd inode, Text.Runs words line ∧ words[1]? = some localEnd ∧
    words[3]? = some listening ∧ words[9]? = some inode ∧
    Numeral.word32 16 (Text.afterLast ':' localEnd) = .ok l.port ∧
    Numeral.word64 10 inode = .ok l.inode

theorem ofRow_eq_some_iff {line : List Char} {l : Listener} :
    ofRow line = some l ↔ Shows line l := by
  rw [ofRow, ofFields_eq_some_iff]
  constructor
  · intro h
    rcases h with ⟨localEnd, inode, hplaces⟩
    exact ⟨_, localEnd, inode, Text.fields_eq_iff.mp rfl, hplaces⟩
  · intro h
    rcases h with ⟨words, localEnd, inode, hwords, hplaces⟩
    rw [Text.fields_of_runs hwords]
    exact ⟨localEnd, inode, hplaces⟩

theorem find?_listeners_eq_some_iff {p : Listener -> Bool} {table : List Char} {l : Listener} :
    (listeners table).find? p = some l ↔
      exists before row after, rows table = before ++ row :: after ∧ Shows row l ∧
        p l = true ∧ forall other m, other ∈ before -> Shows other m -> ¬ p m = true := by
  rw [listeners, ← rows, List.find?_filterMap, Option.bind_eq_some_iff]
  constructor
  · intro h
    rcases h with ⟨row, hfind, hrow⟩
    rcases List.find?_eq_some_iff_append.mp hfind with ⟨hany, before, after, hrows, hbefore⟩
    rw [hrow, Option.any_some] at hany
    refine ⟨before, row, after, hrows, ofRow_eq_some_iff.mp hrow, hany, ?_⟩
    intro other m hother hshows
    have hnone := hbefore other hother
    rw [ofRow_eq_some_iff.mpr hshows, Option.any_some, Bool.not_eq_true'] at hnone
    exact Bool.eq_false_iff.mp hnone
  · intro h
    rcases h with ⟨before, row, after, hrows, hshows, hp, hbefore⟩
    have hrow := ofRow_eq_some_iff.mpr hshows
    refine ⟨row, List.find?_eq_some_iff_append.mpr ⟨?_, before, after, hrows, ?_⟩, hrow⟩
    · rw [hrow, Option.any_some]
      exact hp
    · intro other hother
      cases hnamed : ofRow other with
      | none => rfl
      | some m =>
          have hnone := hbefore other m hother (ofRow_eq_some_iff.mp hnamed)
          rw [Option.any_some, Bool.eq_false_iff.mpr hnone]
          rfl

end SocketTable

namespace IdentPort

open SocketTable

section

variable {pid : Pid} {range : PortRange} {inodes : List UInt64} {table : List Char}
  {l : Listener} {port : UInt16} {files : ProcessFiles}

/-!
## Searching a table
-/

structure Held (range : PortRange) (inodes : List UInt64) (l : Listener) : Prop where
  inRange : range.first.toNat ≤ l.port.toNat ∧ l.port.toNat ≤ range.last.toNat
  owned : l.inode ∈ inodes

def FirstHeld (range : PortRange) (inodes : List UInt64) (table : List Char)
    (l : Listener) : Prop :=
  exists before row after, rows table = before ++ row :: after ∧ Shows row l ∧
    Held range inodes l ∧
    forall other m, other ∈ before -> Shows other m -> ¬ Held range inodes m

def NoneHeld (range : PortRange) (inodes : List UInt64) (table : List Char) : Prop :=
  forall row l, row ∈ rows table -> Shows row l -> ¬ Held range inodes l

theorem held_iff :
    (range.contains l.port && inodes.contains l.inode) = true ↔ Held range inodes l := by
  rw [Bool.and_eq_true, PortRange.contains_iff, List.contains_iff_mem]
  constructor
  · intro h
    exact ⟨h.left, h.right⟩
  · intro h
    exact ⟨h.inRange, h.owned⟩

theorem Held.toUInt16_eq_iff (h : Held range inodes l) :
    l.port.toUInt16 = port ↔ l.port.toNat = port.toNat := by
  have hcontains : range.contains l.port = true := PortRange.contains_iff.mpr h.inRange
  rw [← UInt16.toNat_inj, PortRange.toNat_toUInt16_of_contains hcontains]

theorem FirstHeld.held (h : FirstHeld range inodes table l) : Held range inodes l := by
  rcases h with ⟨_, _, _, _, _, hheld, _⟩
  exact hheld

theorem ofTable_eq_some_iff :
    ofTable range inodes table = some port ↔
      exists l, FirstHeld range inodes table l ∧ l.port.toNat = port.toNat := by
  have hfirst (l : Listener) :
      ((listeners table).find? fun l => range.contains l.port && inodes.contains l.inode) =
          some l ↔ FirstHeld range inodes table l := by
    simp only [find?_listeners_eq_some_iff, held_iff, FirstHeld]
  rw [ofTable, Option.map_eq_some_iff]
  constructor
  · intro h
    rcases h with ⟨l, hfound, hport⟩
    have hl := (hfirst l).mp hfound
    exact ⟨l, hl, hl.held.toUInt16_eq_iff.mp hport⟩
  · intro h
    rcases h with ⟨l, hl, hport⟩
    exact ⟨l, (hfirst l).mpr hl, hl.held.toUInt16_eq_iff.mpr hport⟩

theorem ofTable_eq_none_iff :
    ofTable range inodes table = none ↔ NoneHeld range inodes table := by
  rw [ofTable, Option.map_eq_none_iff, List.find?_eq_none, listeners, ← rows]
  simp only [List.mem_filterMap, ofRow_eq_some_iff, held_iff]
  constructor
  · intro h row l hrow hshows
    exact h l ⟨row, hrow, hshows⟩
  · intro h l hl
    rcases hl with ⟨row, hrow, hshows⟩
    exact h row l hrow hshows

/-!
## Searching both tables
-/

theorem ofFiles_of_inodes (h : socketInodes pid files = .ok inodes) (range : PortRange) :
    (ofFiles pid range files).2 =
      match files.tcp with
      | .error cause => .error (.unreadableTable pid cause)
      | .ok tcp =>
          .ok ((ofTable range inodes tcp).or
            (files.tcp6.toOption.bind (ofTable range inodes))) := by
  simp only [ofFiles, h]
  cases files.tcp with
  | error cause => rfl
  | ok tcp =>
      cases hport : ofTable range inodes tcp with
      | some port => simp only [hport, Option.some_or]
      | none =>
          simp only [hport, Option.none_or]
          cases files.tcp6 with
          | error cause => rfl
          | ok tcp6 => rfl

section

variable (h : socketInodes pid files = .ok inodes)

include h

theorem ofFiles_eq_port_iff :
    (ofFiles pid range files).2 = .ok (some port) ↔
      exists tcp l, files.tcp = .ok tcp ∧ l.port.toNat = port.toNat ∧
        (FirstHeld range inodes tcp l ∨
          NoneHeld range inodes tcp ∧
            exists tcp6, files.tcp6 = .ok tcp6 ∧ FirstHeld range inodes tcp6 l) := by
  rw [ofFiles_of_inodes h]
  cases files.tcp with
  | error cause =>
      apply iff_of_false nofun
      intro h
      rcases h with ⟨_, _, htcp, _⟩
      cases htcp
  | ok tcp =>
      simp only [Except.ok.injEq, Option.or_eq_some_iff, Option.bind_eq_some_iff,
        toOption_eq_some_iff, ofTable_eq_some_iff, ofTable_eq_none_iff]
      constructor
      · intro h
        rcases h with ⟨l, hfirst, hport⟩ | ⟨hnone, tcp6, htcp6, l, hfirst, hport⟩
        · exact ⟨tcp, l, rfl, hport, Or.inl hfirst⟩
        · exact ⟨tcp, l, rfl, hport, Or.inr ⟨hnone, tcp6, htcp6, hfirst⟩⟩
      · intro h
        rcases h with ⟨_, l, rfl, hport, hfirst | ⟨hnone, tcp6, htcp6, hfirst⟩⟩
        · exact Or.inl ⟨l, hfirst, hport⟩
        · exact Or.inr ⟨hnone, tcp6, htcp6, l, hfirst, hport⟩

theorem ofFiles_eq_none_iff :
    (ofFiles pid range files).2 = .ok none ↔
      exists tcp, files.tcp = .ok tcp ∧ NoneHeld range inodes tcp ∧
        forall tcp6, files.tcp6 = .ok tcp6 -> NoneHeld range inodes tcp6 := by
  rw [ofFiles_of_inodes h]
  cases files.tcp with
  | error cause =>
      apply iff_of_false nofun
      intro h
      rcases h with ⟨_, htcp, _⟩
      cases htcp
  | ok tcp =>
      simp only [Except.ok.injEq, Option.or_eq_none_iff, Option.bind_eq_none_iff,
        toOption_eq_some_iff, ofTable_eq_none_iff]
      constructor
      · intro h
        exact ⟨tcp, rfl, h⟩
      · intro h
        rcases h with ⟨_, rfl, hnone⟩
        exact hnone

theorem ofFiles_eq_error_iff {e : Error} :
    (ofFiles pid range files).2 = .error e ↔
      exists cause, files.tcp = .error cause ∧ e = .unreadableTable pid cause := by
  rw [ofFiles_of_inodes h]
  cases files.tcp with
  | error cause =>
      constructor
      · intro h
        exact ⟨cause, rfl, (Except.error.inj h).symm⟩
      · intro h
        rcases h with ⟨_, hcause, rfl⟩
        cases hcause
        rfl
  | ok tcp =>
      apply iff_of_false nofun
      intro h
      rcases h with ⟨_, htcp, _⟩
      cases htcp

theorem ofFiles_of_unreadable_tcp6 {cause : FileError} {tcp6 : List Char}
    (hcause : files.tcp6 = .error cause) (hnone : NoneHeld range inodes tcp6) :
    (ofFiles pid range files).2 =
      (ofFiles pid range { files with tcp6 := .ok tcp6 }).2 := by
  have hsame : socketInodes pid { files with tcp6 := .ok tcp6 } = .ok inodes := h
  have hsecond : (Except.ok tcp6 : Except FileError (List Char)).toOption.bind
      (ofTable range inodes) = none := ofTable_eq_none_iff.mpr hnone
  rw [ofFiles_of_inodes h, ofFiles_of_inodes hsame, hcause, hsecond]
  rfl

/-- The answer is a port exactly if the first row with a listener in the range that the process
holds has exactly this port; the rows of the first table come before those of the second.  It
is no port exactly if the first table can be read and neither table that can be read has such
a row, and an error exactly if the first table cannot be read.  A second table that cannot be
read does not differ from one without such a row. -/
theorem ofFiles_finds_first_held :
    (forall port, (ofFiles pid range files).2 = .ok (some port) ↔
      exists tcp l, files.tcp = .ok tcp ∧ l.port.toNat = port.toNat ∧
        (FirstHeld range inodes tcp l ∨
          NoneHeld range inodes tcp ∧
            exists tcp6, files.tcp6 = .ok tcp6 ∧ FirstHeld range inodes tcp6 l)) ∧
    ((ofFiles pid range files).2 = .ok none ↔
      exists tcp, files.tcp = .ok tcp ∧ NoneHeld range inodes tcp ∧
        forall tcp6, files.tcp6 = .ok tcp6 -> NoneHeld range inodes tcp6) ∧
    (forall e, (ofFiles pid range files).2 = .error e ↔
      exists cause, files.tcp = .error cause ∧ e = .unreadableTable pid cause) ∧
    forall cause tcp6, files.tcp6 = .error cause -> NoneHeld range inodes tcp6 ->
      (ofFiles pid range files).2 =
        (ofFiles pid range { files with tcp6 := .ok tcp6 }).2 := by
  refine ⟨fun port => ofFiles_eq_port_iff h, ofFiles_eq_none_iff h,
    fun e => ofFiles_eq_error_iff h, ?_⟩
  intro cause tcp6 hcause hnone
  exact ofFiles_of_unreadable_tcp6 h hcause hnone

end

end

def foreignTable : List Char :=
  ("sl local_address\n" ++
    "0: 0:19808 0:0 0A 0:0 00:0 0 1000 0 4711 1\n" ++
    "1: 0:9808 0:0 0A 0:0 00:0 0 1000 0 4712 1\n").toList

def heldTable : List Char :=
  ("sl local_address\r\n" ++
    "0: ::1:9809 ::0 0A 0:0 00:0 0 1000 0 4711 1").toList

def heldFiles : ProcessFiles :=
  { ProcessFiles.absent with
    descriptors := .ok ["pipe:[4712]".toList, "socket:[4711]".toList]
    tcp := .ok foreignTable
    tcp6 := .ok heldTable }

theorem ofFiles_finds_first_held_secondTable :
    socketInodes 1234 heldFiles = .ok [4711] ∧
      NoneHeld .standard [4711] foreignTable ∧
      (ofFiles 1234 .standard heldFiles).2 = .ok (some 0x9809) ∧
      (ofFiles 1234 .standard { heldFiles with tcp6 := .error .notFound }).2 = .ok none := by
  have hinodes : socketInodes 1234 heldFiles = .ok [4711] := rfl
  have hmissing : socketInodes 1234 { heldFiles with tcp6 := .error .notFound } = .ok [4711] :=
    hinodes
  have hnone : NoneHeld .standard [4711] foreignTable :=
    ofTable_eq_none_iff.mp (by decide +kernel)
  have hport : ofTable .standard [4711] heldTable = some 0x9809 := by decide +kernel
  rcases ofTable_eq_some_iff.mp hport with ⟨l, hfirst, hl⟩
  refine ⟨hinodes, hnone, ?_, ?_⟩
  · apply ((ofFiles_finds_first_held hinodes).left 0x9809).mpr
    exact ⟨foreignTable, l, rfl, hl, Or.inr ⟨hnone, heldTable, rfl, hfirst⟩⟩
  · apply (ofFiles_finds_first_held hmissing).right.left.mpr
    exact ⟨foreignTable, rfl, hnone, nofun⟩

end IdentPort
end EntryStop
