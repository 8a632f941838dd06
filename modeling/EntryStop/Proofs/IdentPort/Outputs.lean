import EntryStop.IdentPort.Find
import EntryStop.Proofs.IdentPort.Leftmost
import EntryStop.Proofs.IdentPort.Retries

/-!
# The port that the outputs of a command name

The command is run until it prints something, and what it prints first is the only thing
that is read.  An output without a port is not a reason to run it again.
-/

namespace EntryStop
namespace IdentPort

open Backoff

/-!
## Ways to end
-/

section

variable {pid : Pid} {range : PortRange} {outputs : List (Option (List Char))}
  {text : List Char} {k : Nat}

theorem fits_attempts : Fits initialDelay (attempts - 1) := by decide

theorem retry_of_firstPrint (hk : k < attempts) (hfirst : FirstPrint outputs k text) :
    retry attempts initialDelay outputs = ⟨.ok (some text), k + 1, delays initialDelay k⟩ :=
  (course_retry attempts initialDelay outputs).eq_of_printed hk hfirst
    (fits_attempts.mono (Nat.le_pred_of_lt hk))

theorem ofOutputs_of_port {port : UInt16} (hk : k < attempts)
    (hfirst : FirstPrint outputs k text) (hparse : Listing.parse text pid range = .ok port) :
    ofOutputs pid range outputs = ⟨.ok port, k + 1, delays initialDelay k, []⟩ := by
  simp only [ofOutputs, retry_of_firstPrint hk hfirst, hparse]

theorem ofOutputs_of_malformed {error : Listing.Error} (hk : k < attempts)
    (hfirst : FirstPrint outputs k text) (hparse : Listing.parse text pid range = .error error) :
    ofOutputs pid range outputs =
      ⟨.ok 0, k + 1, delays initialDelay k, [.malformed error]⟩ := by
  simp only [ofOutputs, retry_of_firstPrint hk hfirst, hparse]

theorem ofOutputs_of_silent (hsilent : forall j, j < attempts -> SilentAt outputs j) :
    ofOutputs pid range outputs =
      ⟨.ok 0, attempts, delays initialDelay (attempts - 1), [.noOutput pid]⟩ := by
  have hretry := (course_retry attempts initialDelay outputs).eq_of_silent hsilent fits_attempts
  simp only [ofOutputs, hretry]

end

/-!
## Answers
-/

theorem exists_port (pid : Pid) (range : PortRange) (outputs : List (Option (List Char))) :
    exists port, (ofOutputs pid range outputs).port = .ok port ∧
      (port ≠ 0 -> range.first.toNat ≤ port.toNat ∧ port.toNat ≤ range.last.toNat) := by
  rcases exists_firstPrint_or_silent outputs attempts with ⟨k, text, hk, hfirst⟩ | hsilent
  · cases hparse : Listing.parse text pid range with
    | ok port =>
        rw [ofOutputs_of_port hk hfirst hparse]
        rcases Listing.parse_eq_ok_iff.mp hparse with ⟨_, _, _, _, hport⟩
        rcases hport.behind with ⟨_, _, _, hrange⟩
        exact ⟨port, rfl, fun _ => hrange⟩
    | error error =>
        rw [ofOutputs_of_malformed hk hfirst hparse]
        exact ⟨0, rfl, fun hne => absurd rfl hne⟩
  · rw [ofOutputs_of_silent hsilent]
    exact ⟨0, rfl, fun hne => absurd rfl hne⟩

theorem answer_congr {outputs others : List (Option (List Char))} {text : List Char}
    {i j : Nat} (pid : Pid) (range : PortRange) (hi : i < attempts) (hj : j < attempts)
    (hfirst : FirstPrint outputs i text) (hother : FirstPrint others j text) :
    (ofOutputs pid range others).port = (ofOutputs pid range outputs).port ∧
      (ofOutputs pid range others).notices = (ofOutputs pid range outputs).notices := by
  cases hparse : Listing.parse text pid range with
  | ok port =>
      rw [ofOutputs_of_port hi hfirst hparse, ofOutputs_of_port hj hother hparse]
      exact ⟨rfl, rfl⟩
  | error error =>
      rw [ofOutputs_of_malformed hi hfirst hparse, ofOutputs_of_malformed hj hother hparse]
      exact ⟨rfl, rfl⟩

section

variable (pid : Pid) (range : PortRange) (outputs : List (Option (List Char)))

/-- The answer is the port in what the command prints first within ten runs, between which
it waits for one millisecond and its doubles.  It is zero, with one error told, if there is
no such port or nothing is printed.  There is always an answer, and no other than zero is out
of the range. -/
theorem ofOutputs_reads_first_print :
    (forall k text, k < 10 -> FirstPrint outputs k text ->
      (forall port, Listing.parse text pid range = .ok port ->
        ofOutputs pid range outputs = ⟨.ok port, k + 1, delays 1000000 k, []⟩) ∧
      forall error, Listing.parse text pid range = .error error ->
        ofOutputs pid range outputs =
          ⟨.ok 0, k + 1, delays 1000000 k, [.malformed error]⟩ ∧
        (Notice.malformed error).record.level = .error) ∧
    ((forall j, j < 10 -> SilentAt outputs j) ->
      ofOutputs pid range outputs = ⟨.ok 0, 10, delays 1000000 9, [.noOutput pid]⟩ ∧
        (Notice.noOutput pid).record.level = .error) ∧
    (exists port, (ofOutputs pid range outputs).port = .ok port ∧
      (port ≠ 0 -> range.first.toNat ≤ port.toNat ∧ port.toNat ≤ range.last.toNat)) ∧
    forall others i j text, i < 10 -> j < 10 -> FirstPrint outputs i text ->
      FirstPrint others j text ->
      (ofOutputs pid range others).port = (ofOutputs pid range outputs).port ∧
        (ofOutputs pid range others).notices = (ofOutputs pid range outputs).notices := by
  refine ⟨?_, ?_, exists_port pid range outputs, ?_⟩
  · intro k text hk hfirst
    constructor
    · intro port hparse
      exact ofOutputs_of_port hk hfirst hparse
    · intro error hparse
      exact ⟨ofOutputs_of_malformed hk hfirst hparse, rfl⟩
  · intro hsilent
    exact ⟨ofOutputs_of_silent hsilent, rfl⟩
  · intro others i j text hi hj hfirst hother
    exact answer_congr pid range hi hj hfirst hother

end

def lateListing : List (Option (List Char)) :=
  [none, some [], some "p1234\nf3\nn*:5000\nf4\nn*:48042\n".toList]

def foreignListing : List (Option (List Char)) :=
  [some "p1\n".toList, some "p1234\nn*:48042\n".toList]

theorem ofOutputs_reads_first_print_lateListing :
    FirstPrint lateListing 2 "p1234\nf3\nn*:5000\nf4\nn*:48042\n".toList ∧
      ofOutputs 1234 ⟨48000, 48100⟩ lateListing = ⟨.ok 48042, 3, [1000000, 2000000], []⟩ ∧
      FirstPrint foreignListing 0 "p1\n".toList ∧
      ofOutputs 1234 ⟨48000, 48100⟩ foreignListing =
        ⟨.ok 0, 1, [], [.malformed (.otherProcess (some 1) 1234)]⟩ := by
  have hlate : FirstPrint lateListing 2 "p1234\nf3\nn*:5000\nf4\nn*:48042\n".toList :=
    ⟨⟨rfl, by decide⟩, by decide⟩
  have hforeign : FirstPrint foreignListing 0 "p1\n".toList := ⟨⟨rfl, by decide⟩, by decide⟩
  have hport := (ofOutputs_reads_first_print 1234 ⟨48000, 48100⟩ lateListing).left 2 _
    (by decide) hlate
  have herror := (ofOutputs_reads_first_print 1234 ⟨48000, 48100⟩ foreignListing).left 0 _
    (by decide) hforeign
  exact ⟨hlate, hport.left 48042 rfl, hforeign, (herror.right _ rfl).left⟩

end IdentPort
end EntryStop
