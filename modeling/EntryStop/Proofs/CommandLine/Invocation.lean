import EntryStop.CommandLine.Invocation
import EntryStop.Proofs.Text.Numeral
import EntryStop.Proofs.Text.Signed

/-!
# Invocations written out

Every invocation can be spelled by arguments that are read as this one.  Values stand behind
equals signs, and process numbers behind two dashes, so that neither a dash nor a blank in them
does harm.
-/

namespace EntryStop
namespace CommandLine

/-!
## Spelling
-/

def assignment (name value : String) : String :=
  "--" ++ name ++ "=" ++ value

def Command.name : Command -> String
  | inspect _ => "inspect"
  | identPort .. => "ident-port"
  | resume .. => "resume"
  | debuggerPresent => "debugger-present"
  | scope => "scope"

def Command.arguments : Command -> List String
  | inspect pid => ["--", pid.text]
  | identPort pid range byFiles =>
      [assignment "first" (toString range.first.toNat),
        assignment "last" (toString range.last.toNat)] ++
        ((if byFiles then ["--procfs"] else []) ++ ["--", pid.text])
  | resume pid delay => [assignment "delay" (toString delay.toNat), "--", pid.text]
  | debuggerPresent | scope => []

def Invocation.arguments (i : Invocation) : List String :=
  (if i.verbose then ["-v"] else []) ++ ((i.filter.map ("-l=" ++ ·)).toList ++
    ((if !i.trace then ["--no-ptrace"] else []) ++
      ((if i.logging then ["--ptrace-logging"] else []) ++
        i.command.name :: i.command.arguments)))

def Reading.ofOptions (options : List (String × Option String)) : Reading :=
  ⟨options, [], none, false⟩

/-!
## Single arguments
-/

section

variable {spec : ArgumentSpec} {argument : String} {rest : List String}
  {options : List (String × Option String)}

theorem readArguments_cons {r r' : Reading}
    (hcommand : spec.commands.contains argument = false)
    (hread : readArgument spec r argument = .ok r') :
    readArguments spec r (argument :: rest) = readArguments spec r' rest := by
  rw [readArguments, hcommand, Bool.and_false, hread]
  rfl

theorem contains_commands_of_dash {text : List Char} (h : argument.toList = '-' :: text) :
    mainSpec.commands.contains argument = false := by
  apply eq_false_of_ne_true
  intro hcontains
  have hmem : argument ∈ mainSpec.commands := List.contains_iff_mem.mp hcontains
  have hdash : forall command, command ∈ mainSpec.commands ->
      command.toList.head? ≠ some '-' := by decide
  exact hdash argument hmem (congrArg List.head? h)

theorem cutAtEquals_append {name : List Char} (hname : '=' ∉ name) (value : List Char) :
    cutAtEquals (name ++ '=' :: value) = (name, some value) := by
  have hbefore : forall c, c ∈ name -> (c != '=') = true :=
    fun c hc => bne_iff_ne.mpr (fun heq => hname (heq ▸ hc))
  rw [cutAtEquals, List.dropWhile_append_of_pos hbefore, List.takeWhile_append_of_pos hbefore]
  simp

theorem readArgument_letters {r : Reading} {c : Char} {cs : List Char}
    (hr : r.trailing = false) (hc : c ≠ '-') (h : argument.toList = '-' :: c :: cs) :
    readArgument spec r argument = readLetters spec r (c :: cs) := by
  rw [readArgument, hr, if_neg Bool.false_ne_true, h]
  split <;> simp_all

theorem readArgument_word {r : Reading} {text : List Char} (hr : r.trailing = false)
    (hne : text ≠ []) (h : argument.toList = '-' :: '-' :: text) :
    readArgument spec r argument = readWord spec r text := by
  rw [readArgument, hr, if_neg Bool.false_ne_true, h]
  cases text with
  | nil => exact absurd rfl hne
  | cons c cs => rfl

theorem readArgument_assignment {o : OptionSpec} {name : String} {r : Reading}
    (hr : r.trailing = false) (hequals : '=' ∉ name.toList)
    (hfind : spec.options.find? (fun o => o.word == some name) = some o)
    (htakes : o.takesValue = true) (value : String) :
    readArgument spec r (assignment name value) = .ok (r.value o.key value) := by
  have htext : (assignment name value).toList =
      '-' :: '-' :: (name.toList ++ '=' :: value.toList) := by
    simp [assignment, String.toList_append]
  have hcut := cutAtEquals_append hequals value.toList
  rw [readArgument_word hr (by simp) htext, readWord, hcut]
  simp only [String.ofList_toList, hfind, htakes, if_true]

theorem readArgument_filter {r : Reading} (hr : r.trailing = false) (filter : String) :
    readArgument mainSpec r ("-l=" ++ filter) = .ok (r.value "loglevel" filter) := by
  have htext : ("-l=" ++ filter).toList = '-' :: 'l' :: '=' :: filter.toList := by
    rw [String.toList_append]
    rfl
  have hletters : readLetters mainSpec r ('l' :: '=' :: filter.toList) =
      .ok (r.value "loglevel" (String.ofList filter.toList)) := rfl
  rw [readArgument_letters hr (by decide) htext, hletters, String.ofList_toList]

/-!
## Arguments in a row
-/

theorem readArguments_flag {key : String} (given : Bool)
    (hcommand : spec.commands.contains argument = false)
    (hread : readArgument spec (.ofOptions options) argument =
      .ok (.ofOptions (options ++ [(key, none)]))) :
    readArguments spec (.ofOptions options) ((if given then [argument] else []) ++ rest) =
      readArguments spec (.ofOptions (options ++ if given then [(key, none)] else [])) rest := by
  cases given with
  | true => exact readArguments_cons hcommand hread
  | false =>
      simp only [Bool.false_eq_true, if_false, List.nil_append, List.append_nil]

theorem readArguments_filter (filter : Option String) :
    readArguments mainSpec (.ofOptions options) ((filter.map ("-l=" ++ ·)).toList ++ rest) =
      readArguments mainSpec
        (.ofOptions (options ++ (filter.map fun text => ("loglevel", some text)).toList)) rest := by
  cases filter with
  | none => rw [Option.map_none, Option.map_none, Option.toList_none, List.nil_append,
      Option.toList_none, List.append_nil]
  | some text =>
      have hdash : ("-l=" ++ text).toList = '-' :: ("l=" ++ text).toList := by
        simp [String.toList_append]
      exact readArguments_cons (contains_commands_of_dash hdash) (readArgument_filter rfl text)

theorem readArguments_assignment {o : OptionSpec} {name : String}
    (hcommands : spec.commands = []) (hequals : '=' ∉ name.toList)
    (hfind : spec.options.find? (fun o => o.word == some name) = some o)
    (htakes : o.takesValue = true) (value : String) :
    readArguments spec (.ofOptions options) (assignment name value :: rest) =
      readArguments spec (.ofOptions (options ++ [(o.key, some value)])) rest := by
  apply readArguments_cons
  · rw [hcommands]
    rfl
  · exact readArgument_assignment rfl hequals hfind htakes value

/-- The last argument is taken as it is, also if it begins with a dash. -/
theorem readArguments_positional (hcommands : spec.commands = []) (hone : spec.positionals = 1)
    (text : String) : readArguments spec (.ofOptions options) ["--", text] =
      .ok ⟨options, [text], none⟩ := by
  have hdashes : readArgument spec (.ofOptions options) "--" =
      .ok { Reading.ofOptions options with trailing := true } := rfl
  have htext : readArgument spec { Reading.ofOptions options with trailing := true } text =
      .ok { Reading.ofOptions options with positionals := [text], trailing := true } := by
    rw [readArgument, if_pos rfl, readPositional, hone]
    rfl
  have hnone (argument : String) : spec.commands.contains argument = false := by
    rw [hcommands]
    rfl
  rw [readArguments_cons (hnone _) hdashes, readArguments_cons (hnone _) htext]
  rfl

end

/-!
## Whole command lines
-/

def Invocation.options (i : Invocation) : List (String × Option String) :=
  (if i.verbose then [("verbose", none)] else []) ++
    (i.filter.map fun text => ("loglevel", some text)).toList ++
    (if !i.trace then [("no-ptrace", none)] else []) ++
    (if i.logging then [("ptrace-logging", none)] else [])

theorem readArguments_invocation (i : Invocation) :
    readArguments mainSpec .start i.arguments =
      .ok ⟨i.options, [], some (i.command.name, i.command.arguments)⟩ := by
  have hcommand (options : List (String × Option String)) :
      readArguments mainSpec (.ofOptions options) (i.command.name :: i.command.arguments) =
        .ok ⟨options, [], some (i.command.name, i.command.arguments)⟩ := by
    cases i.command <;> rfl
  show readArguments mainSpec (.ofOptions []) i.arguments = _
  rw [Invocation.arguments, readArguments_flag i.verbose rfl rfl,
    readArguments_filter, readArguments_flag (!i.trace) rfl rfl,
    readArguments_flag i.logging rfl rfl, hcommand]
  rfl

def Command.parsed : Command -> Parsed
  | inspect pid => ⟨[], [pid.text], none⟩
  | identPort pid range byFiles =>
      ⟨[("first", some (toString range.first.toNat)), ("last", some (toString range.last.toNat))] ++
        (if byFiles then [("procfs", none)] else []), [pid.text], none⟩
  | resume pid delay => ⟨[("delay", some (toString delay.toNat))], [pid.text], none⟩
  | debuggerPresent | scope => ⟨[], [], none⟩

theorem readArguments_command (c : Command) :
    readArguments (commandSpec c.name) .start c.arguments = .ok c.parsed := by
  show readArguments _ (.ofOptions []) _ = _
  cases c with
  | inspect pid => exact readArguments_positional rfl rfl _
  | identPort pid range byFiles =>
      refine (readArguments_assignment rfl (by decide) rfl rfl _).trans ?_
      refine (readArguments_assignment rfl (by decide) rfl rfl _).trans ?_
      refine (readArguments_flag byFiles rfl rfl).trans ?_
      exact readArguments_positional rfl rfl _
  | resume pid delay =>
      refine (readArguments_assignment rfl (by decide) rfl rfl _).trans ?_
      exact readArguments_positional rfl rfl _
  | debuggerPresent | scope => rfl

theorem pidOf_parsed (options : List (String × Option String)) (pid : Pid) :
    pidOf ⟨options, [pid.text], none⟩ = some pid := by
  have hpid : Numeral.signed32 pid.text.toList = .ok pid :=
    Numeral.signed32_eq_ok_iff.mpr (Numeral.denotes_toString pid.toInt)
  show (Numeral.signed32 pid.text.toList).toOption = some pid
  rw [hpid]
  rfl

theorem portOf_of_value {p : Parsed} {key : String} {port : UInt16}
    (h : p.value? key = some (toString port.toNat)) (standard : UInt16) :
    portOf p key standard = some port := by
  rw [portOf, h]
  show (Numeral.word16 10 (toString port.toNat).toList).toOption = some port
  rw [Numeral.word16_toString]
  rfl

theorem delayOf_of_value {p : Parsed} {delay : UInt32}
    (h : p.value? "delay" = some (toString delay.toNat)) : delayOf p = some delay := by
  rw [delayOf, h]
  show (Numeral.word32 10 (toString delay.toNat).toList).toOption = some delay
  rw [Numeral.word32_toString]
  rfl

theorem commandOf_parsed (c : Command) : commandOf c.name c.parsed = some c := by
  cases c with
  | inspect pid =>
      simp only [commandOf, Command.name, Command.parsed, pidOf_parsed]
      rfl
  | identPort pid range byFiles =>
      have hpid : pidOf (Command.identPort pid range byFiles).parsed = some pid :=
        pidOf_parsed _ pid
      have hfirst : (Command.identPort pid range byFiles).parsed.value? "first" =
          some (toString range.first.toNat) := by cases byFiles <;> rfl
      have hlast : (Command.identPort pid range byFiles).parsed.value? "last" =
          some (toString range.last.toNat) := by cases byFiles <;> rfl
      have hfiles : (Command.identPort pid range byFiles).parsed.given "procfs" = byFiles := by
        cases byFiles <;> rfl
      simp only [commandOf, Command.name, portOf_of_value hfirst, portOf_of_value hlast, hfiles,
        hpid]
      rfl
  | resume pid delay =>
      have hpid : pidOf (Command.resume pid delay).parsed = some pid := pidOf_parsed _ pid
      have hdelay : (Command.resume pid delay).parsed.value? "delay" =
          some (toString delay.toNat) := rfl
      simp only [commandOf, Command.name, delayOf_of_value hdelay, hpid]
      rfl
  | debuggerPresent | scope => rfl

def Invocation.parsed (i : Invocation) : Parsed :=
  ⟨i.options, [], none⟩

theorem parsed_fields (i : Invocation) :
    i.parsed.isProper mainSpec = true ∧ i.parsed.given "verbose" = i.verbose ∧
      i.parsed.given "loglevel" = i.filter.isSome ∧ i.parsed.value? "loglevel" = i.filter ∧
      i.parsed.given "no-ptrace" = !i.trace ∧ i.parsed.given "ptrace-logging" = i.logging := by
  obtain ⟨verbose, filter, trace, logging, command⟩ := i
  cases verbose <;> cases filter <;> cases trace <;> cases logging <;>
    exact ⟨rfl, rfl, rfl, rfl, rfl, rfl⟩

/-- Arguments that spell an invocation are read as this one, whatever its numbers and its filter
are.  A verbose one has no filter of its own. -/
theorem ofArguments_arguments (i : Invocation) (h : i.verbose = true -> i.filter = none) :
    Request.ofArguments i.arguments = .run i := by
  obtain ⟨hproper, hverbose, hloglevel, hfilter, htrace, hlogging⟩ := parsed_fields i
  have hcommand : i.command.parsed.isProper (commandSpec i.command.name) = true := by
    cases i.command with
    | identPort pid range byFiles => cases byFiles <;> rfl
    | inspect | resume | debuggerPresent | scope => rfl
  have hname : i.command.name ≠ "help" := by
    cases i.command <;> simp [Command.name]
  have hapart : (i.verbose && i.filter.isSome) = false := by
    cases hv : i.verbose with
    | false => rfl
    | true => rw [h hv, Option.isSome_none, Bool.and_false]
  rw [Request.ofArguments, readArguments_invocation]
  split
  case h_1 heq => cases heq
  case h_2 heq => cases heq
  case h_3 heq =>
      simp only [Except.ok.injEq, Parsed.mk.injEq, Option.some.injEq, Prod.mk.injEq] at heq
      exact absurd heq.2.2.1 hname
  case h_4 heq =>
      simp only [Except.ok.injEq, Parsed.mk.injEq, Option.some.injEq, Prod.mk.injEq] at heq
      obtain ⟨rfl, rfl, rfl, rfl⟩ := heq
      simp only [Invocation.parsed] at hproper hverbose hloglevel hfilter htrace hlogging
      simp only [readArguments_command, commandOf_parsed, hcommand, hproper, hverbose, hloglevel,
        hfilter, htrace, hlogging, hapart, Bool.not_true, Bool.or_self, Bool.false_eq_true,
        if_false, Bool.not_not]

-- There are other spellings, such as a value right behind its letter.
example : Request.ofArguments ["-v", "--no-ptrace", "resume", "-d3", "7"] =
    .run ⟨true, none, false, false, .resume 7 3⟩ := rfl

end CommandLine
end EntryStop
