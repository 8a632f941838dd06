import EntryStop.Launch.Session

/-!
# What courses come to

Only the hook stops a child that is not traced, and it is traced from then on.  No course
comes to the trap by itself: a child has to be continued from the start of a program.
-/

namespace EntryStop
namespace Launch

def Course.Sound (c : Course) : Prop :=
  match c.event with
  | .stops .. | .starts .. => c.traced = true
  | .hits .. => False
  | .ends _ | .lingers => True

section

variable {s : Setting} {c : Course}

theorem sound_course (s : Setting) (traced : Bool) (h : Handling) (steps : List Step) :
    (course s traced h steps).Sound := by
  fun_induction course s traced h steps with
  | case1 | case7 | case9 | case10 | case11 | case13 | case16 => trivial
  | case2 _ _ _ _ ih | case3 _ _ _ ih | case5 _ _ _ ih | case6 _ _ _ ih
  | case12 _ _ _ _ _ _ _ _ ih | case14 _ _ _ _ _ _ ih => exact ih
  | case4 | case8 => rfl
  | case15 traced _ _ _ _ program _ ending event =>
      cases traced with
      | true => rfl
      | false => cases hending : ending <;> simp [Course.Sound, event, hending]

theorem Course.Sound.traced_of_isStop (h : c.Sound) (hstop : c.event.isStop = true) :
    c.traced = true := by
  cases c with
  | mk event told traced =>
      cases event with
      | stops | starts => exact h
      | hits => exact h.elim
      | ends | lingers => cases hstop

theorem Course.next_of_stops {signal : Signal} {h : Handling} {steps : List Step}
    (hevent : c.event = .stops signal h steps) : c.next s = course s c.traced h steps := by
  rw [Course.next, hevent]

theorem Course.Sound.traced_next (h : c.Sound) (hstop : (c.next s).event.isStop = true) :
    (c.next s).traced = true := by
  cases c with
  | mk event told traced =>
      cases event with
      | stops _ handling steps =>
          exact (sound_course s traced handling steps).traced_of_isStop hstop
      | starts => exact h
      | hits => exact h.elim
      | ends | lingers => cases hstop

/-!
## Programs that are not there
-/

def tries (programs : List (String × List String)) : List Step :=
  programs.map fun (path, arguments) => .exec path arguments

theorem course_tries {missing : List (String × List String)}
    (hmissing : forall p, p ∈ missing -> s.find p.1 = none) (traced : Bool) (h : Handling)
    (steps : List Step) :
    course s traced h (tries missing ++ steps) = course s traced h steps := by
  induction missing with
  | nil => rfl
  | cons first missing ih =>
      have hfirst : s.find first.1 = none := hmissing first List.mem_cons_self
      have hrest := ih fun p hp => hmissing p (List.mem_cons_of_mem first hp)
      rw [← hrest]
      show course s traced h (.exec first.1 first.2 :: (tries missing ++ steps)) = _
      rw [course, hfirst]

theorem course_exec {path : String} {program : Program} (hfind : s.find path = some program)
    (h : Handling) (arguments : List String) (steps : List Step) :
    course s true h (.exec path arguments :: steps) =
      ⟨.starts program (s.ending program h.ignored path arguments), none, true⟩ := by
  rw [course, hfind]
  rfl

theorem endingOf?_tries {missing : List (String × List String)}
    (hmissing : forall p, p ∈ missing -> s.find p.1 = none) (h : Handling)
    (steps : List Step) : endingOf? s h (tries missing ++ steps) = endingOf? s h steps := by
  induction missing with
  | nil => rfl
  | cons first missing ih =>
      have hfirst : s.find first.1 = none := hmissing first List.mem_cons_self
      have hrest := ih fun p hp => hmissing p (List.mem_cons_of_mem first hp)
      rw [← hrest]
      show endingOf? s h (.exec first.1 first.2 :: (tries missing ++ steps)) = _
      rw [endingOf?, hfirst]

end

/-!
## Children that are not to be traced
-/

/-- The signal that cannot be ignored or caught is neither. -/
structure Handling.Lawful (h : Handling) : Prop where
  ignored : .kill ∉ h.ignored
  caught : .kill ∉ h.caught

section

variable {s : Setting} {h : Handling}

theorem Handling.lawful_forked : Handling.forked.Lawful := ⟨by decide, by decide⟩

theorem Handling.Lawful.receive (hh : h.Lawful) (signal : Signal) :
    (h.receive signal).2.Lawful := by
  unfold Handling.receive
  split
  · exact hh
  · split
    · exact ⟨hh.ignored, fun hmem => hh.caught ((List.mem_filter.mp hmem).left)⟩
    · exact hh

theorem Handling.Lawful.receive_kill (hh : h.Lawful) :
    h.receive .kill = (.terminate, h) := by
  have hignored : h.ignored.contains Signal.kill = false := by
    rw [List.contains_eq_mem]
    exact decide_eq_false hh.ignored
  have hcaught : h.caught.contains Signal.kill = false := by
    rw [List.contains_eq_mem]
    exact decide_eq_false hh.caught
  rw [Handling.receive, hignored, hcaught]
  rfl

/-- If hooks do nothing, a child that does not ask to be traced and does not sleep ends as if
nobody was there. -/
theorem ending?_course (henabled : s.enabled = false) (hh : h.Lawful) {steps : List Step}
    (htraceMe : .traceMe ∉ steps) (hsleep : .sleep ∉ steps) :
    (course s false h steps).event.ending? s = endingOf? s h steps := by
  induction steps generalizing h with
  | nil => rfl
  | cons step steps ih =>
      have hrest {h : Handling} (hh : h.Lawful) :
          (course s false h steps).event.ending? s = endingOf? s h steps :=
        ih hh (fun hmem => htraceMe (List.mem_cons_of_mem step hmem))
          (fun hmem => hsleep (List.mem_cons_of_mem step hmem))
      cases step with
      | hook =>
          rw [course, endingOf?, henabled]
          exact hrest hh
      | hookReturn => exact hrest hh
      | traceMe => exact absurd List.mem_cons_self htraceMe
      | raise signal =>
          have hlater := hh.receive signal
          rw [course, endingOf?]
          by_cases hkill : signal = .kill
          · subst hkill
            rw [if_pos rfl, hh.receive_kill]
            rfl
          · rw [if_neg hkill, if_neg Bool.false_ne_true]
            cases hreceive : h.receive signal with
            | mk disposition later =>
                rw [hreceive] at hlater
                cases disposition with
                | terminate | dump | halt => rfl
                | ignore => exact hrest hlater
      | sleep => exact absurd List.mem_cons_self hsleep
      | exec path arguments =>
          rw [course, endingOf?]
          cases s.find path with
          | none => exact hrest hh
          | some program =>
              dsimp only
              cases s.ending program h.ignored path arguments <;> rfl
      | exit code => rfl

end

end Launch
end EntryStop
