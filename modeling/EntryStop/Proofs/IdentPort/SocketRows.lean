import EntryStop.IdentPort.SocketTable
import EntryStop.Proofs.Text.Lines
import EntryStop.Proofs.Text.Numeral
import EntryStop.Proofs.Text.Runs

/-!
# Rows of socket tables

A row shows a socket: where it is bound, its state and its inode, each at its place among the
words of the row.  Reading a table gives back the listening sockets of its rows.  Every other
line that may stand in a table is passed over and changes nothing about the rows around it.
-/

namespace EntryStop
namespace SocketTable

/-!
## Words of a line
-/

theorem numbers_eq_some_iff {port : Except NumeralError UInt32}
    {inode : Except NumeralError UInt64} {l : Listener} :
    (do let port ← port.toOption; let inode ← inode.toOption; return ⟨port, inode⟩) = some l ↔
      port = .ok l.port ∧ inode = .ok l.inode := by
  cases port with
  | error e =>
      apply iff_of_false nofun
      intro h
      cases h.left
  | ok port =>
      cases inode with
      | error e =>
          apply iff_of_false nofun
          intro h
          cases h.right
      | ok inode =>
          constructor
          · intro h
            cases h
            exact ⟨rfl, rfl⟩
          · intro h
            rcases h with ⟨hport, hinode⟩
            cases hport
            cases hinode
            rfl

section

variable {words : List (List Char)}

theorem ofFields_eq_some_iff {l : Listener} :
    ofFields words = some l ↔
      exists localEnd inode, words[1]? = some localEnd ∧ words[3]? = some listening ∧
        words[9]? = some inode ∧
        Numeral.word32 16 (Text.afterLast ':' localEnd) = .ok l.port ∧
        Numeral.word64 10 inode = .ok l.inode := by
  constructor
  · intro h
    unfold ofFields at h
    split at h
    · next localEnd _ state _ _ _ _ _ inode _ =>
        by_cases hstate : state = listening
        · rw [if_pos hstate] at h
          exact ⟨localEnd, inode, rfl, congrArg some hstate, rfl, numbers_eq_some_iff.mp h⟩
        · rw [if_neg hstate] at h
          cases h
    · cases h
  · intro h
    rcases h with ⟨localEnd, inode, hlocal, hstate, hinode, hnumbers⟩
    -- The tenth word stands behind nine others, so the words have the shape of a row.
    rcases words with _ | ⟨_, _ | ⟨_, _ | ⟨_, _ | ⟨_, _ | ⟨_, _ | ⟨_, _ | ⟨_, _ | ⟨_, _ | ⟨_, _ |
      ⟨_, _⟩⟩⟩⟩⟩⟩⟩⟩⟩⟩
    any_goals cases hinode
    cases hlocal
    cases hstate
    rw [ofFields, if_pos rfl]
    exact numbers_eq_some_iff.mpr hnumbers

inductive PassedOver (words : List (List Char)) : Prop where
  | few : words.length < 10 -> PassedOver words
  | state {state : List Char} : words[3]? = some state -> state ≠ listening ->
      PassedOver words
  | port {localEnd : List Char} {e : NumeralError} : words[1]? = some localEnd ->
      Numeral.word32 16 (Text.afterLast ':' localEnd) = .error e -> PassedOver words
  | inode {inode : List Char} {e : NumeralError} : words[9]? = some inode ->
      Numeral.word64 10 inode = .error e -> PassedOver words

theorem ofFields_eq_none_iff : ofFields words = none ↔ PassedOver words := by
  constructor
  · intro h
    by_cases hfew : words.length < 10
    · exact .few hfew
    · have hword (i : Nat) (hi : i < 10) : exists word, words[i]? = some word :=
        ⟨_, List.getElem?_eq_getElem (Nat.lt_of_lt_of_le hi (Nat.le_of_not_lt hfew))⟩
      rcases hword 1 (by decide) with ⟨localEnd, hlocal⟩
      rcases hword 3 (by decide) with ⟨state, hstate⟩
      rcases hword 9 (by decide) with ⟨inode, hinode⟩
      by_cases hlistening : state = listening
      · subst hlistening
        cases hport : Numeral.word32 16 (Text.afterLast ':' localEnd) with
        | error e => exact .port hlocal hport
        | ok port =>
            cases hnumber : Numeral.word64 10 inode with
            | error e => exact .inode hinode hnumber
            | ok number =>
                have hsome : ofFields words = some ⟨port, number⟩ :=
                  ofFields_eq_some_iff.mpr
                    ⟨localEnd, inode, hlocal, hstate, hinode, hport, hnumber⟩
                cases h.symm.trans hsome
      · exact .state hstate hlistening
  · intro hover
    cases hnamed : ofFields words with
    | none => rfl
    | some l =>
        rcases ofFields_eq_some_iff.mp hnamed with
          ⟨localEnd, inode, hlocal, hstate, hinode, hport, hnumber⟩
        exfalso
        cases hover with
        | few hfew =>
            have hshort : words[9]? = none :=
              List.getElem?_eq_none (Nat.le_of_lt_succ hfew)
            cases hshort.symm.trans hinode
        | state hother hne => exact hne (Option.some.inj (hother.symm.trans hstate))
        | port hother hbad =>
            cases Option.some.inj (hother.symm.trans hlocal)
            cases hbad.symm.trans hport
        | inode hother hbad =>
            cases Option.some.inj (hother.symm.trans hinode)
            cases hbad.symm.trans hnumber

end

theorem ofRow_eq_none_iff {line : List Char} :
    ofRow line = none ↔ exists words, Text.Runs words line ∧ PassedOver words := by
  rw [ofRow, ofFields_eq_none_iff]
  constructor
  · intro hover
    exact ⟨Text.fields line, Text.fields_eq_iff.mp rfl, hover⟩
  · intro h
    rcases h with ⟨words, hwords, hover⟩
    rw [Text.fields_of_runs hwords]
    exact hover

/-!
## Rows
-/

structure Row where
  slot : List Char
  address : List Char
  port : UInt16
  portStyle : Numeral.HexStyle
  remote : List Char
  state : List Char
  columns : List (List Char)
  five : columns.length = 5
  inode : UInt64
  inodeZeros : Nat
  trailing : List (List Char)

namespace Row

def localEnd (r : Row) : List Char :=
  r.address ++ ':' :: Numeral.hexText r.portStyle r.port.toNat

def words (r : Row) : List (List Char) :=
  [r.slot, r.localEnd, r.remote, r.state] ++ r.columns ++
    Numeral.decimalText r.inodeZeros r.inode.toNat :: r.trailing

def listener? (r : Row) : Option Listener :=
  if r.state = listening then some ⟨r.port.toUInt32, r.inode⟩ else none

theorem word32_localEnd (r : Row) :
    Numeral.word32 16 (Text.afterLast ':' r.localEnd) = .ok r.port.toUInt32 := by
  have hcolon : ':' ∉ Numeral.hexText r.portStyle r.port.toNat :=
    Numeral.not_mem_hexText (by decide) _ _
  rw [localEnd, Text.afterLast_append hcolon, Numeral.word32_hexText]

theorem getElem?_words_inode (r : Row) :
    r.words[9]? = some (Numeral.decimalText r.inodeZeros r.inode.toNat) := by
  have hlength : ([r.slot, r.localEnd, r.remote, r.state] ++ r.columns).length = 9 := by
    rw [List.length_append, r.five]
    rfl
  rw [words, List.getElem?_append_right (Nat.le_of_eq hlength), hlength]
  rfl

theorem ofFields_words (r : Row) : ofFields r.words = r.listener? := by
  by_cases hstate : r.state = listening
  · rw [listener?, if_pos hstate]
    exact ofFields_eq_some_iff.mpr ⟨r.localEnd, _, rfl, congrArg some hstate,
      r.getElem?_words_inode, r.word32_localEnd, Numeral.word64_decimalText _ _⟩
  · rw [listener?, if_neg hstate]
    exact ofFields_eq_none_iff.mpr (.state rfl hstate)

end Row

structure ShownRow extends Row where
  line : List Char
  runs : Text.Runs toRow.words line
  newline : '\n' ∉ line

theorem ofRow_line (r : ShownRow) : ofRow r.line = r.listener? := by
  rw [ofRow, Text.fields_of_runs r.runs, Row.ofFields_words]

/-!
## Tables
-/

def table (header : List Char) (lines : List (List Char)) (closed : Bool) : List Char :=
  header ++ lines.flatMap (fun line => '\n' :: line) ++ if closed then ['\n'] else []

theorem ofRow_dropReturn (line : List Char) :
    ofRow (Lines.dropReturn '\r' line) = ofRow line := by
  rcases Text.exists_blanks_of_dropReturn line with ⟨blanks, hline, hblanks⟩
  have hfields := Text.fields_append_blanks hblanks (Lines.dropReturn '\r' line)
  rw [← hline] at hfields
  rw [ofRow, ofRow, hfields]

theorem listeners_eq_pieces (text : List Char) :
    listeners text =
      ((Lines.pieces '\n' text).drop 1).filterMap fun piece => ofRow piece.1 := by
  rw [listeners, Text.lines, Lines.split, ← List.map_drop, List.filterMap_map]
  congr 1
  funext piece
  rcases piece with ⟨line, ended⟩
  cases ended with
  | false => rfl
  | true => exact ofRow_dropReturn line

theorem table_cons (header line : List Char) (lines : List (List Char)) (closed : Bool) :
    table header (line :: lines) closed = header ++ '\n' :: table line lines closed := by
  simp only [table, List.flatMap_cons, List.append_assoc, List.cons_append]

theorem pieces_table_nil {header : List Char} (hheader : '\n' ∉ header) (closed : Bool) :
    Lines.pieces '\n' (table header [] closed) = [(header, closed)] ∨
      Lines.pieces '\n' (table header [] closed) = [] ∧ header = [] := by
  cases closed with
  | true =>
      left
      rw [table, List.flatMap_nil, List.append_nil, if_pos rfl,
        Lines.pieces_line_append hheader, Lines.pieces_nil]
  | false =>
      by_cases hempty : header = []
      · right
        subst hempty
        exact ⟨rfl, rfl⟩
      · left
        rw [table, List.flatMap_nil, List.append_nil, if_neg Bool.false_ne_true,
          Lines.pieces_append_of_not_mem hempty hheader, Lines.pieces_nil]

theorem filterMap_pieces_table {header : List Char} {lines : List (List Char)}
    (hlines : forall line, line ∈ header :: lines -> '\n' ∉ line) (closed : Bool) :
    ((Lines.pieces '\n' (table header lines closed)).filterMap fun piece => ofRow piece.1) =
      (header :: lines).filterMap ofRow := by
  induction lines generalizing header with
  | nil =>
      rcases pieces_table_nil (hlines header List.mem_cons_self) closed with
        hpieces | ⟨hpieces, rfl⟩
      · rw [hpieces]
        rfl
      · rw [hpieces]
        rfl
  | cons line lines ih =>
      have hrest := ih fun other hother => hlines other (List.mem_cons_of_mem header hother)
      rw [table_cons, Lines.pieces_line_append (hlines header List.mem_cons_self),
        List.filterMap_cons, hrest]
      exact (List.filterMap_cons).symm

theorem listeners_table {header : List Char} {lines : List (List Char)}
    (hheader : '\n' ∉ header) (hlines : forall line, line ∈ lines -> '\n' ∉ line)
    (closed : Bool) : listeners (table header lines closed) = lines.filterMap ofRow := by
  rw [listeners_eq_pieces]
  cases lines with
  | nil =>
      rcases pieces_table_nil hheader closed with hpieces | ⟨hpieces, _⟩
      · rw [hpieces]
        rfl
      · rw [hpieces]
        rfl
  | cons line lines =>
      rw [table_cons, Lines.pieces_line_append hheader]
      exact filterMap_pieces_table hlines closed

theorem filterMap_insert_eq_iff {α β : Type} {f : α -> Option β} {before after : List α}
    {x : α} :
    (before ++ x :: after).filterMap f = (before ++ after).filterMap f ↔ f x = none := by
  rw [List.filterMap_append, List.filterMap_append, List.append_right_inj, List.filterMap_cons]
  cases f x with
  | none => exact iff_of_true rfl rfl
  | some y => exact iff_of_false (List.cons_ne_self y _) nofun

/-- A table gives the listening sockets of its rows, in their order and as often as they are
shown.  A line that is put at any place among the lines of a table changes nothing exactly if
something is wrong with its words. -/
theorem listeners_of_rows {header : List Char} (hheader : '\n' ∉ header) (closed : Bool) :
    (forall rows : List ShownRow,
      listeners (table header (rows.map ShownRow.line) closed) =
        rows.filterMap fun r => r.listener?) ∧
    forall before line after,
      (forall other, other ∈ before ++ line :: after -> '\n' ∉ other) ->
      (listeners (table header (before ++ line :: after) closed) =
          listeners (table header (before ++ after) closed) ↔
        exists words, Text.Runs words line ∧ PassedOver words) := by
  constructor
  · intro rows
    have hlines : forall line, line ∈ rows.map ShownRow.line -> '\n' ∉ line := by
      intro line hline
      rcases List.mem_map.mp hline with ⟨r, _, rfl⟩
      exact r.newline
    rw [listeners_table hheader hlines, List.filterMap_map]
    congr 1
    funext r
    exact ofRow_line r
  · intro before line after hlines
    have hothers : forall other, other ∈ before ++ after -> '\n' ∉ other := by
      intro other hother
      apply hlines
      rw [List.mem_append, List.mem_cons]
      exact (List.mem_append.mp hother).imp_right Or.inr
    rw [listeners_table hheader hlines, listeners_table hheader hothers,
      filterMap_insert_eq_iff, ofRow_eq_none_iff]

/-!
## Two rows
-/

def titles : List Char :=
  "  sl  local_address rem_address   st tx_queue inode".toList

def listeningRow : ShownRow where
  slot := "0:".toList
  address := "::1".toList
  port := 0x9808
  portStyle := ⟨true, 0⟩
  remote := "::0".toList
  state := "0A".toList
  columns := ["0:0".toList, "00:0".toList, "0".toList, "1000".toList, "0".toList]
  five := rfl
  inode := 18446744073709551615
  inodeZeros := 0
  trailing := ["1".toList]
  line := "   0: ::1:9808 ::0 0A 0:0 00:0 0  1000\t0 18446744073709551615 1 \r".toList
  runs := by decide +kernel
  newline := by decide

def connectedRow : ShownRow where
  slot := "1:".toList
  address := "7F".toList
  port := 9
  portStyle := ⟨false, 3⟩
  remote := "7F:1F90".toList
  state := "01".toList
  columns := ["0:0".toList, "00:0".toList, "0".toList, "1000".toList, "0".toList]
  five := rfl
  inode := 4243
  inodeZeros := 0
  trailing := []
  line := "1: 7F:0009 7F:1F90 01 0:0 00:0 0 1000 0 4243".toList
  runs := by decide +kernel
  newline := by decide

def wideLine : List Char :=
  "2: 7F:100000000 7F:1F90 0A 0:0 00:0 0 1000 0 4244".toList

theorem newline_not_mem_lines :
    forall line, line ∈ [listeningRow.line] ++ wideLine :: [connectedRow.line] ->
      '\n' ∉ line := by
  intro line hline
  rcases List.mem_append.mp hline with hfront | hback
  · rw [List.mem_singleton.mp hfront]
    exact listeningRow.newline
  · rcases List.mem_cons.mp hback with heq | hback
    · rw [heq]
      decide
    · rw [List.mem_singleton.mp hback]
      exact connectedRow.newline

theorem listeners_of_rows_connected :
    '\n' ∉ titles ∧
      listeners (table titles [listeningRow.line, connectedRow.line, listeningRow.line] false) =
        [⟨0x9808, 18446744073709551615⟩, ⟨0x9808, 18446744073709551615⟩] ∧
      (forall line, line ∈ [listeningRow.line] ++ wideLine :: [connectedRow.line] ->
        '\n' ∉ line) ∧
      listeners (table titles ([listeningRow.line] ++ wideLine :: [connectedRow.line]) true) =
        listeners (table titles ([listeningRow.line] ++ [connectedRow.line]) true) := by
  have htitles : '\n' ∉ titles := by decide
  refine ⟨htitles, ?_, newline_not_mem_lines, ?_⟩
  · exact (listeners_of_rows htitles false).left [listeningRow, connectedRow, listeningRow]
  · apply ((listeners_of_rows htitles true).right _ _ _ newline_not_mem_lines).mpr
    exact ⟨Text.fields wideLine, Text.fields_eq_iff.mp rfl, .port rfl rfl⟩

end SocketTable
end EntryStop
