import EntryStop.Host.Pid
import EntryStop.IdentPort.Range
import EntryStop.Text.Numeral
import EntryStop.Text.Split

/-!
# Listings of open ports

The listing that `lsof` prints for one process: the process number after the
letter `p`, and each open port after the marker `n*:`.
-/

namespace EntryStop
namespace Listing

inductive Error where
  | noProcess (output : List Char)
  | otherProcess (reported : Option UInt32) (pid : Pid)
  | noPort (range : PortRange) (rest : List Char)
  deriving DecidableEq, Repr

def reportedText : Option UInt32 -> String
  | none => "None"
  | some n => s!"Some({n.toNat})"

def Error.message : Error -> String
  | noProcess output => "failed to parse output from lsof:\n" ++ String.ofList output
  | otherProcess reported pid =>
      "pid from lsof output (" ++ reportedText reported ++
        ") doesn't match child PID " ++ pid.text
  | noPort range rest =>
      "malformed line - expected 'n*:<port>' within " ++ range.text ++ ":\n" ++
        String.ofList rest

def marker : List Char := ['n', '*', ':']

def portAt? (range : PortRange) (text : List Char) : Option UInt16 :=
  match Numeral.leading? text with
  | some port => if range.contains port then some port.toUInt16 else none
  | none => none

/-- The port after the first marker that a port of the range follows.  If there is
none, the text after the last marker is left, and `unread` if there is no marker.
A marker cannot begin inside another one, so the search may go on from its second
character. -/
def search (range : PortRange) (unread : List Char) :
    List Char -> Except (List Char) UInt16
  | [] => .error unread
  | c :: cs =>
      match Text.afterMarker? marker (c :: cs) with
      | none => search range unread cs
      | some rest =>
          match portAt? range rest with
          | some port => .ok port
          | none => search range rest cs

def parse (output : List Char) (pid : Pid) (range : PortRange) :
    Except Error UInt16 :=
  match output with
  | 'p' :: rest =>
      let reported := Numeral.leading? rest
      if reported = some pid.toUInt32 then
        (search range rest rest).mapError (.noPort range)
      else .error (.otherProcess reported pid)
  | _ => .error (.noProcess output)

theorem portAt?_eq_some_iff {range : PortRange} {text : List Char} {port : UInt16} :
    portAt? range text = some port ↔
      ∃ n, Numeral.leading? text = some n ∧ range.contains n = true ∧
        n.toUInt16 = port := by
  unfold portAt?
  split
  · next n h => simp [h]
  · next h => simp [h]

end Listing
end EntryStop
