import EntryStop.Proofs.IdentPort.Leftmost
import EntryStop.Proofs.Text.LineStarts

/-!
# Name fields of a listing

A listing consists of lines, and a line that begins with the marker is a name field.  The
search does not look at lines: the port that it finds is that of a name field exactly if the
marker in front of it stands right behind a newline.
-/

namespace EntryStop
namespace Listing

/-!
## Name fields
-/

def Names (line : List Char) (port : Nat) : Prop :=
  exists after, line = marker ++ after ∧ Numeral.StartsWith after port

def NamesPort (output : List Char) (port : Nat) : Prop :=
  exists line, line ∈ (Text.lines output).tail ∧ Names line port

/-- The marker behind `before` begins a line: what is in front of it are whole lines. -/
def BeginsLine (output before : List Char) : Prop :=
  exists after, output = before ++ (marker ++ after) ∧
    Text.lines output = Text.lines before ++ Text.lines (marker ++ after)

theorem marker_append_ne_nil (after : List Char) : marker ++ after ≠ [] :=
  List.cons_ne_nil _ _

theorem names_iff {line : List Char} {port : Nat} :
    Names line port ↔
      exists after, after ∈ Text.afterMarker? marker line ∧ Numeral.StartsWith after port := by
  constructor
  · intro h
    rcases h with ⟨after, hline, hport⟩
    exact ⟨after, Text.afterMarker?_eq_some_iff.mpr hline, hport⟩
  · intro h
    rcases h with ⟨after, hafter, hport⟩
    exact ⟨after, Text.afterMarker?_eq_some_iff.mp hafter, hport⟩

instance (line : List Char) (port : Nat) : Decidable (Names line port) :=
  decidable_of_iff _ names_iff.symm

instance (output : List Char) (port : Nat) : Decidable (NamesPort output port) :=
  List.decidableBEx _ _

section

variable {range : PortRange} {output rest before line : List Char} {n : Nat}

theorem names_head?_iff (h : (Text.lines rest).head? = some line) :
    Names line n ↔ exists after, rest = marker ++ after ∧ Numeral.StartsWith after n := by
  rcases Lines.head?_split_append h with ⟨left, hrest, hleft⟩
  have hstop : forall c, left.head? = some c -> c.isDigit = false := by
    intro c hc
    rcases hleft c hc with rfl | rfl
    · rfl
    · rfl
  constructor
  · intro h
    rcases h with ⟨after, hline, hport⟩
    refine ⟨after ++ left, ?_, (Numeral.startsWith_append_iff hstop).mpr hport⟩
    rw [hrest, hline, List.append_assoc]
  · intro h
    rcases h with ⟨after, hmarker, hport⟩
    rcases List.append_eq_append_iff.mp (hrest.symm.trans hmarker) with
      ⟨back, hback, hleftEq⟩ | ⟨front, hline, hafter⟩
    · cases back with
      | nil =>
          rw [List.append_nil] at hback
          refine ⟨[], hback ▸ (List.append_nil line).symm, ?_⟩
          rw [← Numeral.startsWith_append_iff hstop, hleftEq]
          exact hport
      | cons c back =>
          -- The line would end inside the marker, where there is no end of a line.
          have hmem : c ∈ marker := by
            rw [hback]
            exact List.mem_append_right line List.mem_cons_self
          rcases hleft c (hleftEq ▸ rfl) with rfl | rfl
          · exact absurd hmem (by decide)
          · exact absurd hmem (by decide)
    · refine ⟨front, hline, ?_⟩
      rw [hafter, Numeral.startsWith_append_iff hstop] at hport
      exact hport

theorem namesPort_iff :
    NamesPort output n ↔
      exists front after, output = front ++ '\n' :: (marker ++ after) ∧
        Numeral.StartsWith after n := by
  constructor
  · intro h
    rcases h with ⟨line, hline, hnames⟩
    rcases Lines.mem_tail_split_iff.mp hline with ⟨front, back, houtput, hhead⟩
    rcases (names_head?_iff hhead).mp hnames with ⟨after, hback, hport⟩
    exact ⟨front, after, hback ▸ houtput, hport⟩
  · intro h
    rcases h with ⟨front, after, houtput, hport⟩
    rcases Lines.exists_head?_split '\n' '\r' (marker_append_ne_nil after) with ⟨line, hhead⟩
    have hnames : Names line n := (names_head?_iff hhead).mpr ⟨after, rfl, hport⟩
    exact ⟨line, Lines.mem_tail_split_iff.mpr ⟨front, _, houtput, hhead⟩, hnames⟩

theorem beginsLine_iff {after : List Char} (houtput : output = before ++ (marker ++ after))
    (hne : before ≠ []) : BeginsLine output before ↔ before.getLast? = some '\n' := by
  rw [← Lines.split_append_iff '\n' '\r' hne (marker_append_ne_nil after)]
  constructor
  · intro h
    rcases h with ⟨other, hother, hlines⟩
    rw [List.append_cancel_left (houtput.symm.trans hother), ← hother]
    exact hlines
  · intro hlines
    exact ⟨after, houtput, houtput ▸ hlines⟩

theorem getLast?_cons_eq_newline_iff :
    ('p' :: before).getLast? = some '\n' ↔ before.getLast? = some '\n' := by
  cases before with
  | nil => decide
  | cons c before => rw [List.getLast?_cons_cons]

theorem namesPort_iff_of_firstPort (hfirst : FirstPort range rest before n) :
    NamesPort ('p' :: rest) n ↔
      exists later, before.length ≤ later.length ∧ later.getLast? = some '\n' ∧
        PortBehind range rest later n := by
  rw [namesPort_iff]
  constructor
  · intro h
    rcases h with ⟨front, after, houtput, hport⟩
    cases front with
    | nil => cases houtput
    | cons c front =>
        rw [List.cons_append, List.cons.injEq, List.append_cons] at houtput
        rcases hfirst.behind with ⟨_, _, _, hrange⟩
        have hbehind : PortBehind range rest (front ++ ['\n']) n :=
          ⟨after, houtput.right, hport, hrange⟩
        exact ⟨_, hfirst.leftmost _ _ hbehind, List.getLast?_concat, hbehind⟩
  · intro h
    rcases h with ⟨later, _, hlast, after, hrest, hport, _⟩
    rcases List.getLast?_eq_some_iff.mp hlast with ⟨front, rfl⟩
    refine ⟨'p' :: front, after, ?_, hport⟩
    rw [hrest, List.append_assoc, List.singleton_append, List.cons_append]

end

/-!
## The field of a port
-/

/-- The port of a listing is taken from a name field exactly if the leftmost marker that a
port of the range follows stands right behind a newline.  Some name field has that port
exactly if this marker or a later one does so. -/
theorem taken_from_name_field_iff {output : List Char} {pid : Pid} {range : PortRange}
    {port : UInt16} (h : parse output pid range = .ok port) :
    exists rest before, output = 'p' :: rest ∧ FirstPort range rest before port.toNat ∧
      (BeginsLine output ('p' :: before) ↔ before.getLast? = some '\n') ∧
      (NamesPort output port.toNat ↔
        exists later, before.length ≤ later.length ∧ later.getLast? = some '\n' ∧
          PortBehind range rest later port.toNat) := by
  rcases parse_eq_ok_iff.mp h with ⟨rest, before, rfl, _, hfirst⟩
  rcases hfirst.behind with ⟨after, hrest, _⟩
  have houtput : 'p' :: rest = 'p' :: before ++ (marker ++ after) := congrArg ('p' :: ·) hrest
  refine ⟨rest, before, rfl, hfirst, ?_, namesPort_iff_of_firstPort hfirst⟩
  rw [beginsLine_iff houtput (List.cons_ne_nil _ _), getLast?_cons_eq_newline_iff]

/-!
## Two listings
-/

def fieldListing : List Char := "p1234\nCOMMAND\nn*:48000\n".toList

def wordListing : List Char := "p1234\nxn*:48001\nn*:48000\n".toList

theorem taken_from_name_field_iff_fieldListing :
    parse fieldListing 1234 ⟨48000, 48100⟩ = .ok 48000 ∧
      exists rest before, fieldListing = 'p' :: rest ∧
        FirstPort ⟨48000, 48100⟩ rest before 48000 ∧
        (BeginsLine fieldListing ('p' :: before) ↔ before.getLast? = some '\n') ∧
        (NamesPort fieldListing 48000 ↔
          exists later, before.length ≤ later.length ∧ later.getLast? = some '\n' ∧
            PortBehind ⟨48000, 48100⟩ rest later 48000) := by
  have hparse : parse fieldListing 1234 ⟨48000, 48100⟩ = .ok 48000 := rfl
  exact ⟨hparse, taken_from_name_field_iff hparse⟩

theorem port_taken_inside_word :
    parse wordListing 1234 ⟨48000, 48100⟩ = .ok 48001 ∧
      ¬ NamesPort wordListing 48001 :=
  ⟨rfl, by decide⟩

end Listing
end EntryStop
