import EntryStop.IdentPort.Listing
import EntryStop.Proofs.Machine.Results
import EntryStop.Proofs.Text.Leading

/-!
# The leftmost port of a listing

A listing is searched for the leftmost marker that a port of the range follows.  Markers
without a number, with a number too large for a word, or with a port out of the range are
passed over, and none of them hides a marker behind it.
-/

namespace EntryStop
namespace Listing

/-!
## Markers and ports
-/

/-- Behind `before` stands a marker, and the number that follows it is in the range.  Such a
number is a port, so it fits in a word. -/
def PortBehind (range : PortRange) (text before : List Char) (port : Nat) : Prop :=
  exists after, text = before ++ (marker ++ after) ∧ Numeral.StartsWith after port ∧
    range.first.toNat ≤ port ∧ port ≤ range.last.toNat

structure FirstPort (range : PortRange) (text before : List Char) (port : Nat) : Prop where
  behind : PortBehind range text before port
  leftmost : forall earlier other, PortBehind range text earlier other ->
    before.length ≤ earlier.length

section

variable {range : PortRange} {text before : List Char} {c : Char} {n : Nat}
  {port : UInt16}

theorem portAt?_eq_some_iff_startsWith :
    portAt? range text = some port ↔
      Numeral.StartsWith text port.toNat ∧ range.first.toNat ≤ port.toNat ∧
        port.toNat ≤ range.last.toNat := by
  rw [portAt?_eq_some_iff]
  constructor
  · intro h
    rcases h with ⟨n, hleading, hcontains, rfl⟩
    rw [PortRange.toNat_toUInt16_of_contains hcontains]
    exact ⟨Numeral.leading?_eq_some_iff.mp hleading, PortRange.contains_iff.mp hcontains⟩
  · intro h
    rcases h with ⟨hstarts, hrange⟩
    have hword : port.toUInt32.toNat = port.toNat := UInt16.toNat_toUInt32 port
    refine ⟨port.toUInt32, Numeral.leading?_eq_some_iff.mpr (hword.symm ▸ hstarts), ?_,
      UInt16.toUInt16_toUInt32 port⟩
    rw [PortRange.contains_iff, hword]
    exact hrange

theorem PortBehind.exists_port (h : PortBehind range text before n) :
    exists port : UInt16, port.toNat = n := by
  rcases h with ⟨_, _, _, _, hlast⟩
  have hn : n < UInt16.size := Nat.lt_of_le_of_lt hlast range.last.toNat_lt
  exact ⟨UInt16.ofNat n, UInt16.toNat_ofNat_of_lt' hn⟩

theorem portBehind_nil_iff :
    PortBehind range text [] port.toNat ↔
      exists after, Text.afterMarker? marker text = some after ∧
        portAt? range after = some port := by
  constructor
  · intro h
    rcases h with ⟨after, htext, hport⟩
    exact ⟨after, Text.afterMarker?_eq_some_iff.mpr htext,
      portAt?_eq_some_iff_startsWith.mpr hport⟩
  · intro h
    rcases h with ⟨after, hafter, hport⟩
    have htext : text = marker ++ after := Text.afterMarker?_eq_some_iff.mp hafter
    exact ⟨after, htext, portAt?_eq_some_iff_startsWith.mp hport⟩

theorem not_portBehind_empty : ¬ PortBehind range [] before n := by
  intro h
  rcases h with ⟨after, htext, _⟩
  have hmarker := (List.append_eq_nil_iff.mp htext.symm).right
  cases (List.append_eq_nil_iff.mp hmarker).left

theorem PortBehind.cons (h : PortBehind range text before n) (c : Char) :
    PortBehind range (c :: text) (c :: before) n := by
  rcases h with ⟨after, rfl, hport⟩
  exact ⟨after, rfl, hport⟩

theorem PortBehind.of_cons (h : PortBehind range (c :: text) before n)
    (hne : before ≠ []) : exists front, before = c :: front ∧ PortBehind range text front n := by
  rcases h with ⟨after, htext, hport⟩
  cases before with
  | nil => exact absurd rfl hne
  | cons d front =>
      rw [List.cons_append, List.cons.injEq] at htext
      exact ⟨front, by rw [htext.left], after, htext.right, hport⟩

theorem FirstPort.cons (h : FirstPort range text before n)
    (hnone : forall other, ¬ PortBehind range (c :: text) [] other) :
    FirstPort range (c :: text) (c :: before) n where
  behind := h.behind.cons c
  leftmost earlier other hother := by
    cases earlier with
    | nil => exact absurd hother (hnone other)
    | cons d earlier =>
        rcases hother.of_cons (List.cons_ne_nil d earlier) with ⟨front, heq, hfront⟩
        rw [heq, List.length_cons, List.length_cons]
        exact Nat.succ_le_succ (h.leftmost front other hfront)

theorem FirstPort.unique {before' : List Char} {n' : Nat}
    (h : FirstPort range text before n) (h' : FirstPort range text before' n') :
    before = before' ∧ n = n' := by
  have hlength : before.length = before'.length :=
    Nat.le_antisymm (h.leftmost _ _ h'.behind) (h'.leftmost _ _ h.behind)
  rcases h.behind with ⟨after, htext, hstarts, _⟩
  rcases h'.behind with ⟨after', htext', hstarts', _⟩
  rcases List.append_inj (htext.symm.trans htext') hlength with ⟨hbefore, hrest⟩
  rw [List.append_cancel_left hrest] at hstarts
  exact ⟨hbefore, hstarts.unique hstarts'⟩

/-!
## The search
-/

theorem search_of_portBehind_nil (unread : List Char)
    (h : PortBehind range text [] port.toNat) : search range unread text = .ok port := by
  rcases portBehind_nil_iff.mp h with ⟨after, hafter, hport⟩
  cases text with
  | nil => exact absurd h not_portBehind_empty
  | cons c text => simp only [search, hafter, hport]

theorem search_cons_of_not_portBehind (unread : List Char)
    (h : forall other, ¬ PortBehind range (c :: text) [] other) :
    exists left, search range unread (c :: text) = search range left text := by
  rw [search]
  cases hafter : Text.afterMarker? marker (c :: text) with
  | none => exact ⟨unread, rfl⟩
  | some after =>
      cases hport : portAt? range after with
      | none => exact ⟨after, by simp only [hport]⟩
      | some port => exact absurd (portBehind_nil_iff.mpr ⟨after, hafter, hport⟩) (h _)

end

theorem search_cases (range : PortRange) (unread text : List Char) :
    (exists port before, search range unread text = .ok port ∧
      FirstPort range text before port.toNat) ∨
    ((exists left, search range unread text = .error left) ∧
      forall before n, ¬ PortBehind range text before n) := by
  induction text generalizing unread with
  | nil => exact Or.inr ⟨⟨unread, rfl⟩, fun before n => not_portBehind_empty⟩
  | cons c text ih =>
      by_cases hhere : exists n, PortBehind range (c :: text) [] n
      · rcases hhere with ⟨n, hn⟩
        rcases hn.exists_port with ⟨port, rfl⟩
        exact Or.inl ⟨port, [], search_of_portBehind_nil unread hn, hn,
          fun earlier _ _ => Nat.zero_le earlier.length⟩
      · have hnone : forall other, ¬ PortBehind range (c :: text) [] other :=
          fun other hother => hhere ⟨other, hother⟩
        rcases search_cons_of_not_portBehind unread hnone with ⟨left, hsearch⟩
        rw [hsearch]
        rcases ih left with ⟨port, before, hok, hfirst⟩ | ⟨herror, hnowhere⟩
        · exact Or.inl ⟨port, c :: before, hok, hfirst.cons hnone⟩
        · refine Or.inr ⟨herror, ?_⟩
          intro before n hbehind
          by_cases hnil : before = []
          · exact hnone n (hnil ▸ hbehind)
          · rcases hbehind.of_cons hnil with ⟨front, _, hfront⟩
            exact hnowhere front n hfront

theorem search_eq_ok_iff {range : PortRange} {unread text : List Char} {port : UInt16} :
    search range unread text = .ok port ↔
      exists before, FirstPort range text before port.toNat := by
  rcases search_cases range unread text with
    ⟨found, front, hok, hfirst⟩ | ⟨⟨left, herror⟩, hnone⟩
  · rw [hok]
    constructor
    · intro h
      cases h
      exact ⟨front, hfirst⟩
    · intro h
      rcases h with ⟨before, hbefore⟩
      rw [UInt16.toNat_inj.mp (hfirst.unique hbefore).right]
  · rw [herror]
    constructor
    · intro h
      cases h
    · intro h
      rcases h with ⟨before, hbefore⟩
      exact absurd hbefore.behind (hnone before _)

theorem exists_firstPort_of_portBehind {range : PortRange} {text before : List Char} {n : Nat}
    (h : PortBehind range text before n) :
    exists (port : UInt16) (front : List Char), FirstPort range text front port.toNat := by
  rcases search_cases range [] text with ⟨port, front, _, hfirst⟩ | ⟨_, hnone⟩
  · exact ⟨port, front, hfirst⟩
  · exact absurd h (hnone before n)

/-!
## Listings
-/

theorem parse_of_process {rest : List Char} {pid : Pid} (range : PortRange)
    (h : Numeral.StartsWith rest pid.toUInt32.toNat) :
    parse ('p' :: rest) pid range = (search range rest rest).mapError (.noPort range) := by
  rw [parse, if_pos (Numeral.leading?_eq_some_iff.mpr h)]

theorem parse_of_otherProcess {rest : List Char} {pid : Pid} (range : PortRange)
    (h : ¬ Numeral.StartsWith rest pid.toUInt32.toNat) :
    parse ('p' :: rest) pid range = .error (.otherProcess (Numeral.leading? rest) pid) := by
  rw [parse, if_neg fun hread => h (Numeral.leading?_eq_some_iff.mp hread)]

theorem parse_of_no_process {output : List Char} (pid : Pid) (range : PortRange)
    (h : forall rest, output ≠ 'p' :: rest) :
    parse output pid range = .error (.noProcess output) := by
  unfold parse
  split
  · next rest => exact absurd rfl (h rest)
  · rfl

theorem parse_eq_ok_iff {output : List Char} {pid : Pid} {range : PortRange}
    {port : UInt16} :
    parse output pid range = .ok port ↔
      exists rest before, output = 'p' :: rest ∧
        Numeral.StartsWith rest pid.toUInt32.toNat ∧
        FirstPort range rest before port.toNat := by
  constructor
  · intro h
    by_cases hp : exists rest, output = 'p' :: rest
    · rcases hp with ⟨rest, rfl⟩
      by_cases hpid : Numeral.StartsWith rest pid.toUInt32.toNat
      · rw [parse_of_process range hpid, mapError_eq_ok_iff, search_eq_ok_iff] at h
        rcases h with ⟨before, hfirst⟩
        exact ⟨rest, before, rfl, hpid, hfirst⟩
      · rw [parse_of_otherProcess range hpid] at h
        cases h
    · rw [parse_of_no_process pid range fun rest hrest => hp ⟨rest, hrest⟩] at h
      cases h
  · intro h
    rcases h with ⟨rest, before, rfl, hpid, hfirst⟩
    rw [parse_of_process range hpid, mapError_eq_ok_iff, search_eq_ok_iff]
    exact ⟨before, hfirst⟩

section

variable (output : List Char) (pid : Pid) (range : PortRange)

theorem parse_finds_leftmost_port :
    (forall port, parse output pid range = .ok port ↔
      exists rest before, output = 'p' :: rest ∧
        Numeral.StartsWith rest pid.toUInt32.toNat ∧
        FirstPort range rest before port.toNat) ∧
    ((exists port, parse output pid range = .ok port) ↔
      exists rest before n, output = 'p' :: rest ∧
        Numeral.StartsWith rest pid.toUInt32.toNat ∧ PortBehind range rest before n) ∧
    forall rest, output = 'p' :: rest -> ¬ Numeral.StartsWith rest pid.toUInt32.toNat ->
      parse output pid range = .error (.otherProcess (Numeral.leading? rest) pid) := by
  refine ⟨fun port => parse_eq_ok_iff, ?_, ?_⟩
  · constructor
    · intro h
      rcases h with ⟨port, hport⟩
      rcases parse_eq_ok_iff.mp hport with ⟨rest, before, houtput, hpid, hfirst⟩
      exact ⟨rest, before, port.toNat, houtput, hpid, hfirst.behind⟩
    · intro h
      rcases h with ⟨rest, before, n, houtput, hpid, hbehind⟩
      rcases exists_firstPort_of_portBehind hbehind with ⟨port, front, hfirst⟩
      exact ⟨port, parse_eq_ok_iff.mpr ⟨rest, front, houtput, hpid, hfirst⟩⟩
  · intro rest houtput hpid
    rw [houtput]
    exact parse_of_otherProcess range hpid

end

theorem parse_finds_leftmost_port_otherProcess :
    ¬ Numeral.StartsWith "12345\nn*:48000\n".toList 1234 ∧
      parse "p12345\nn*:48000\n".toList 1234 ⟨48000, 48100⟩ =
        .error (.otherProcess (some 12345) 1234) := by
  have hother : ¬ Numeral.StartsWith "12345\nn*:48000\n".toList 1234 := by decide
  have hlisting := (parse_finds_leftmost_port "p12345\nn*:48000\n".toList 1234
    ⟨48000, 48100⟩).right.right
  exact ⟨hother, hlisting _ rfl hother⟩

example :
    parse "p1234\nn*:\nn*:99999999999\nn*:48101\nn*:048050\nn*:48051\n".toList 1234
      ⟨48000, 48100⟩ = .ok 48050 := rfl

end Listing
end EntryStop
