import Mathlib
import EntryStop.Program.Encode
import EntryStop.Program.Parser
import EntryStop.Proofs.Attach.Answer
import EntryStop.Proofs.Attach.Pointer
import EntryStop.Proofs.Launch.Courses
import EntryStop.Proofs.Machine.Results

/-!
# Stopping a launched child

A child is stopped at its entry exactly if it stops where it should three times and its
program has an entry in memory.  Then it is held by its tracer.  A child that goes through
the hook and starts a program does all this, and stands on the entry of that program.
-/

namespace EntryStop
namespace Launch

open Attach

/-!
## What a parent sees
-/

def Event.sighting (pid : Pid) (asked : Bool) (e : Event) : Sighting :=
  ⟨e.isStop, e.status pid asked⟩

section

variable (s : Setting) (pid : Pid) (cs : Courses)

theorem sighting_outlook (asked : Bool) (timeout : Word) (e : Event) :
    ((e.outlook pid asked).wait timeout).sighting = e.sighting pid asked := by
  cases e with
  | stops | hits | lingers => rfl
  | starts => cases asked <;> rfl
  | ends ending => cases ending <;> rfl

theorem initialStop_child : (child s pid cs).initialStop = cs.first.event.sighting pid false :=
  sighting_outlook pid false _ _

theorem execStop_child : (child s pid cs).execStop = cs.second.event.sighting pid true :=
  sighting_outlook pid true _ _

theorem trapStop_child : (child s pid cs).trapStop = cs.third.event.sighting pid true :=
  sighting_outlook pid true _ _

/-!
## The program at the second stop
-/

theorem entry_child : (child s pid cs).entry =
    (Entry.resolve false pid (sourceOf s.parse (imageAfter s cs.second.event))).2 := rfl

theorem entryAddress_child : (child s pid cs).entryAddress =
    (entryOf s pid (imageAfter s cs.second.event)).getD 0 := by
  rw [Child.entryAddress, entry_child, entryOf]
  cases (Entry.resolve false pid (sourceOf s.parse (imageAfter s cs.second.event))).2 <;> rfl

theorem entry_child_eq_ok_iff {e : Address} : (child s pid cs).entry = .ok e ↔
    entryOf s pid (imageAfter s cs.second.event) = some e := by
  rw [entry_child, entryOf, toOption_eq_some_iff]

theorem get?_ofList_toList (a : Address) (word? : Option Word) :
    (Memory.ofList (word?.toList.map fun word => (a, word))).get? a = word? := by
  cases word? with
  | none => rfl
  | some word => exact Memory.get?_set_self Memory.empty a word

theorem memory_child : (child s pid cs).memory.get? (child s pid cs).entryAddress =
    (imageAfter s cs.second.event).word? (child s pid cs).entryAddress := by
  rw [entryAddress_child]
  exact get?_ofList_toList _ _

/-!
## The way to the entry
-/

/-- The child stops itself, stops once more in a program whose entry holds a word, and stops a
third time without leaving that program. -/
structure Reaches (e : Address) (w : Word) : Prop where
  first : exists h steps, cs.first.event = .stops .stop h steps
  second : cs.second.event.isStop = true
  entry : entryOf s pid (imageAfter s cs.second.event) = some e
  word : (imageAfter s cs.second.event).word? e = some w
  third : cs.third.event.isStop = true
  removal : restoreRefusal cs.third.event = none

section

variable {s pid cs} {e : Address} {w : Word}

theorem clear_initialStop_child_iff : Hurdle.initialStop.Clear (child s pid cs) ↔
    exists h steps, cs.first.event = .stops .stop h steps := by
  simp only [Hurdle.Clear, initialStop_child, Event.sighting]
  cases cs.first.event with
  | stops signal h steps =>
      constructor
      · rintro ⟨_, hstatus⟩
        rcases hstatus _ rfl with ⟨_, heq⟩
        cases heq
        exact ⟨h, steps, rfl⟩
      · rintro ⟨_, _, heq⟩
        cases heq
        refine ⟨rfl, fun status hstatus => ?_⟩
        cases hstatus
        exact ⟨pid, rfl⟩
  | starts | hits =>
      refine ⟨fun h => ?_, nofun⟩
      rcases h.right _ rfl with ⟨_, heq⟩
      cases heq
  | ends | lingers => exact ⟨fun h => (nomatch h.left), nofun⟩

theorem Reaches.entryAddress (h : Reaches s pid cs e w) :
    (child s pid cs).entryAddress = e := by
  rw [entryAddress_child, h.entry]
  rfl

theorem Reaches.memory (h : Reaches s pid cs e w) :
    (child s pid cs).memory.get? (child s pid cs).entryAddress = some w := by
  rw [memory_child, h.entryAddress, h.word]

theorem Reaches.entryWord (h : Reaches s pid cs e w) :
    (child s pid cs).entryWord = w := by
  rw [Child.entryWord, h.memory]
  rfl

theorem Reaches.clear (h : Reaches s pid cs e w) (hurdle : Hurdle) :
    hurdle.Clear (child s pid cs) := by
  cases hurdle with
  | initialStop => exact clear_initialStop_child_iff.mpr h.first
  | execStop => exact (congrArg Sighting.stopped (execStop_child s pid cs)).trans h.second
  | entry =>
      rw [Hurdle.Clear, h.entryAddress]
      exact (entry_child_eq_ok_iff s pid cs).mpr h.entry
  | word => exact ⟨rfl, by rw [h.entryWord]; exact h.memory⟩
  | trapStop => exact (congrArg Sighting.stopped (trapStop_child s pid cs)).trans h.third
  | removal => exact h.removal
  | tracing | firstContinue | trap | secondContinue | registersRead | registersWritten => rfl

theorem reaches_of_clear (h : forall hurdle : Hurdle, hurdle.Clear (child s pid cs)) :
    Reaches s pid cs (child s pid cs).entryAddress (child s pid cs).entryWord where
  first := clear_initialStop_child_iff.mp (h .initialStop)
  second := (congrArg Sighting.stopped (execStop_child s pid cs)).symm.trans (h .execStop)
  entry := (entry_child_eq_ok_iff s pid cs).mp (h .entry)
  word := (memory_child s pid cs).symm.trans (h .word).right
  third := (congrArg Sighting.stopped (trapStop_child s pid cs)).symm.trans (h .trapStop)
  removal := h .removal

end

end

/-!
## The answer
-/

section

variable (s : Setting) (pid : Pid) (steps : List Step)

theorem answer_eq_true_iff : (stop s pid steps).answer = .ok true ↔
    s.enabled = true ∧ exists e w, Reaches s pid (courses s steps) e w := by
  apply (stopAtMain_eq_true_iff .x86_64 s.enabled s.logging _).trans
  constructor
  · rintro ⟨henabled, hclear⟩
    exact ⟨henabled, _, _, reaches_of_clear hclear⟩
  · rintro ⟨henabled, e, w, hreaches⟩
    exact ⟨henabled, hreaches.clear⟩

section

variable {s pid steps} (h : (stop s pid steps).answer = .ok true)
include h

theorem view_tracee : (stop s pid steps).tracee.view =
    arrived .x86_64 (child s pid (courses s steps)) :=
  view_stopAtMain .x86_64 s.enabled s.logging _ h

theorem count_cont_tracee : (stop s pid steps).tracee.calls.count .cont = 2 := by
  have hactions : (stop s pid steps).tracee.actions =
      protocolOf .x86_64 (child s pid (courses s steps)) :=
    congrArg (fun v : View => v.actions) (view_tracee h)
  have hcount : (stop s pid steps).tracee.calls.count .cont =
      (stop s pid steps).tracee.actions.count .cont :=
    (List.count_filter rfl).symm
  rw [hcount, hactions]
  rfl

theorem course_and_told_of_answer :
    ((stop s pid steps).course, (stop s pid steps).told) = (courses s steps).after 2 := by
  rw [← count_cont_tracee h]
  rfl

theorem course_of_answer : (stop s pid steps).course = (courses s steps).third :=
  congrArg Prod.fst (course_and_told_of_answer h)

theorem isHeld_of_answer : (stop s pid steps).isHeld = true := by
  rcases (answer_eq_true_iff s pid steps).mp h with ⟨_, e, w, hreaches⟩
  rw [Stopped.isHeld, course_of_answer h, hreaches.third, Bool.and_true]
  rcases hreaches.first with ⟨handling, rest, hfirst⟩
  have hsecond : (courses s steps).second.Sound := by
    show ((courses s steps).first.next s).Sound
    rw [Course.next_of_stops hfirst]
    exact sound_course s _ handling rest
  exact hsecond.traced_next hreaches.third

end

end

/-!
## Children that may not be traced
-/

/-- Nothing is done to a child that may not be traced, and nothing is told of it. -/
theorem stop_of_disabled {s : Setting} (henabled : s.enabled = false) (pid : Pid)
    (steps : List Step) :
    (stop s pid steps).answer = .ok false ∧ (stop s pid steps).tracee.calls = [] ∧
      (stop s pid steps).tracee.notices = [] ∧
      (.traceMe ∉ steps -> .sleep ∉ steps ->
        ending? s (stop s pid steps) = endingOf? s .forked steps) := by
  have hstop : stop s pid steps =
      ⟨.ok false, .meet s.logging (child s pid (courses s steps)),
        (courses s steps).first, (courses s steps).first.told⟩ := by
    rw [stop, henabled, stopAtMain_of_not_allowed]
    rfl
  rw [hstop]
  exact ⟨rfl, rfl, rfl, ending?_course henabled Handling.lawful_forked⟩

/-!
## Children that start a program
-/

section

variable {s : Setting} {missing : List (String × List String)} {path : String}
  {program : Program}

def launching (missing : List (String × List String)) (path : String)
    (arguments : List String) (rest : List Step) : List Step :=
  .hook :: (tries missing ++ .exec path arguments :: rest)

variable (henabled : s.enabled = true)
  (hmissing : forall p, p ∈ missing -> s.find p.1 = none)
  (hfind : s.find path = some program) (arguments : List String) (rest : List Step)
include henabled hmissing hfind

theorem courses_launching : courses s (launching missing path arguments rest) =
    let ending := s.ending program Handling.forked.ignored path arguments
    ⟨⟨.stops .stop .forked (.hookReturn :: (tries missing ++ .exec path arguments :: rest)),
        none, true⟩,
      ⟨.starts program ending, some (hookNotices s.logging), true⟩,
      ⟨.hits program ending, none, true⟩⟩ := by
  have hsecond : course s true .forked
      (.hookReturn :: (tries missing ++ .exec path arguments :: rest)) =
      ⟨.starts program (s.ending program Handling.forked.ignored path arguments),
        some (hookNotices s.logging), true⟩ := by
    rw [course, course_tries hmissing, course_exec hfind, Course.telling]
    simp only [Option.getD_none, List.append_nil]
  have hfirst : course s false .forked (launching missing path arguments rest) =
      ⟨.stops .stop .forked
        (.hookReturn :: (tries missing ++ .exec path arguments :: rest)), none, true⟩ := by
    rw [launching, course, henabled]
    rfl
  simp only [courses, hfirst, Course.next, hsecond]

omit henabled in
theorem endingOf?_launching :
    endingOf? { s with enabled := false } .forked (launching missing path arguments rest) =
      s.ending program Handling.forked.ignored path arguments := by
  have hnone : forall p, p ∈ missing -> Setting.find { s with enabled := false } p.1 = none :=
    hmissing
  have hsome : Setting.find { s with enabled := false } path = some program := hfind
  rw [launching, endingOf?, if_neg Bool.false_ne_true, endingOf?_tries hnone, endingOf?, hsome]

variable {pid : Pid} {e : Address} {w : Word}
  (hentry : entryOf s pid program = some e) (hword : program.word? e = some w)
include hentry hword

theorem reaches_launching :
    Reaches s pid (courses s (launching missing path arguments rest)) e w := by
  rw [courses_launching henabled hmissing hfind]
  exact ⟨⟨_, _, rfl⟩, rfl, hentry, hword, rfl, rfl⟩

/-- A child that goes through the hook and tries programs until one is there is stopped and
held on the entry of that program, with the word there as the program has it.  The hook has
told what it does, and let go the child ends as if it had never been traced. -/
theorem stop_launching :
    let c := stop s pid (launching missing path arguments rest)
    c.answer = .ok true ∧ c.isHeld = true ∧ c.atEntry s = true ∧
      c.tracee.memory.get? e = some w ∧
      (c.trapRemoved s = true ↔ w ≠ Arch.x86_64.patch w) ∧
      c.told = some (hookNotices s.logging) ∧
      ending? s c = endingOf? { s with enabled := false } .forked
        (launching missing path arguments rest) := by
  intro c
  have hcourses := courses_launching henabled hmissing hfind arguments rest
  have hreaches := reaches_launching henabled hmissing hfind arguments rest hentry hword
  have hanswer : c.answer = .ok true :=
    (answer_eq_true_iff s pid _).mpr ⟨henabled, e, w, hreaches⟩
  have hview := view_tracee hanswer
  have hpid : c.tracee.pid = pid := congrArg (fun v : View => v.pid) hview
  have hpointer : c.tracee.pointer = e := by
    have hbehind : (child s pid (courses s (launching missing path arguments rest))).pointer =
        Arch.x86_64.afterTrap e := by
      rw [hcourses]
      show Arch.x86_64.afterTrap ((entryOf s pid program).getD 0) = _
      rw [hentry]
      rfl
    rw [pointer_arrived hview, hbehind, Arch.beforeTrap_afterTrap]
  have hmemory : c.tracee.memory.get? e = some w := by
    have hstored : c.tracee.memory = _ := congrArg (fun v : View => v.memory) hview
    rw [hstored, ← hreaches.entryAddress, ← hreaches.entryWord]
    exact Memory.get?_set_self _ _ _
  have hcourse : c.course.event =
      .hits program (s.ending program Handling.forked.ignored path arguments) := by
    rw [course_of_answer hanswer, hcourses]
  refine ⟨hanswer, isHeld_of_answer hanswer, ?_, hmemory, ?_, ?_, ?_⟩
  · rw [Stopped.atEntry, hcourse, hpid, hpointer, beq_iff_eq]
    exact hentry
  · simp only [Stopped.trapRemoved, hcourse, hpid, imageAfter, hentry, hword, hmemory,
      bne_iff_ne]
  · rw [show c.told = _ from congrArg Prod.snd (course_and_told_of_answer hanswer), hcourses]
    rfl
  · rw [ending?, hcourse, endingOf?_launching hmissing hfind]
    rfl

end

def flatProgram : Program where
  path := "/a"
  image := Image.encode .zero 0x1010 [] [] []
  maps := Utf8.encode "400000-402000 r-xp 00000000 fd:01 11 /a\n".toList

def oneProgram : Setting where
  enabled := true
  logging := false
  files := .directory [("a", .file flatProgram.image)]
  current := []
  programs := [flatProgram]
  ending _ _ _ _ := some (.exited 3)
  parent := flatProgram
  parse := .standard

theorem stop_launching_oneProgram :
    let steps := launching [("/b", [])] "/a" ["-x"] []
    (stop oneProgram 7 steps).answer = .ok true ∧
      (stop oneProgram 7 steps).tracee.memory.get? 0x401010 = some 0 ∧
      ending? oneProgram (stop oneProgram 7 steps) = some (.exited 3) := by
  have hmissing : oneProgram.find "/b" = none := by cbv
  have hfind : oneProgram.find "/a" = some flatProgram := by cbv
  have hall : forall p : String × List String, p ∈ [("/b", [])] -> oneProgram.find p.1 = none := by
    intro p hp
    rw [List.mem_singleton.mp hp, hmissing]
  have hentry : entryOf oneProgram 7 flatProgram = some 0x401010 := by decide +kernel
  have hword : flatProgram.word? 0x401010 = some 0 := by decide +kernel
  have hstop := stop_launching rfl hall hfind ["-x"] [] hentry hword
  rcases hstop with ⟨hanswer, _, _, hmemory, _, _, hending⟩
  exact ⟨hanswer, hmemory, hending.trans (endingOf?_launching hall hfind ["-x"] [])⟩

end Launch
end EntryStop
