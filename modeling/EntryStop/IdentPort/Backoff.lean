import EntryStop.Machine.Fault

/-!
# Retrying with growing delays

A command is run until it prints something, a limited number of times, with a
delay between two runs that doubles each time.
-/

namespace EntryStop
namespace Backoff

/-- A delay in nanoseconds.  Its whole seconds have to fit in a machine word. -/
abbrev Delay := Nat

def delayLimit : Nat := UInt64.size * 1000000000

def double? (delay : Delay) : Option Delay :=
  if 2 * delay < delayLimit then some (2 * delay) else none

structure Retried where
  output : Except Fault (Option (List Char))
  runs : Nat
  waits : List Delay

def printed (output : Option (List Char)) : Option (List Char) :=
  output.filter fun text => !text.isEmpty

/-- At most `attempts` runs; the n-th one gives the n-th output, and nothing where
the outputs have run out.  After the last run there is no delay, but a delay is
doubled as soon as it is over. -/
def retry : (attempts : Nat) -> Delay -> List (Option (List Char)) -> Retried
  | 0, _, _ => ⟨.ok none, 0, []⟩
  | attempts + 1, delay, outputs =>
      match printed (outputs.headD none) with
      | some text => ⟨.ok (some text), 1, []⟩
      | none =>
          if attempts = 0 then ⟨.ok none, 1, []⟩
          else
            match double? delay with
            | none => ⟨.error .delayOverflow, 1, [delay]⟩
            | some next =>
                let later := retry attempts next outputs.tail
                ⟨later.output, later.runs + 1, delay :: later.waits⟩

theorem retry_of_printed {outputs : List (Option (List Char))} {text : List Char}
    (h : printed (outputs.headD none) = some text) (attempts : Nat) (delay : Delay) :
    retry (attempts + 1) delay outputs = ⟨.ok (some text), 1, []⟩ := by
  rw [retry, h]

end Backoff
end EntryStop
