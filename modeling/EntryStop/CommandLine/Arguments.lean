/-!
# Arguments

Arguments are options, which may take a value, and positional words.  An option is
named by a letter after one dash or by a word after two; letters may be joined,
and a value may follow at once, after an equals sign, or as the next argument.
After two dashes alone, everything is positional.
-/

namespace EntryStop
namespace CommandLine

structure OptionSpec where
  key : String
  letter : Option Char
  word : Option String
  takesValue : Bool

structure ArgumentSpec where
  options : List OptionSpec
  positionals : Nat
  commands : List String

structure Parsed where
  options : List (String × Option String)
  positionals : List String
  command : Option (String × List String)

inductive Stop where
  | version
  | help
  | unknown
  deriving DecidableEq, Repr

structure Reading where
  options : List (String × Option String)
  positionals : List String
  pending : Option String
  trailing : Bool

namespace Reading

def start : Reading := ⟨[], [], none, false⟩

def flag (r : Reading) (key : String) : Reading :=
  { r with options := r.options ++ [(key, none)], pending := none }

def value (r : Reading) (key value : String) : Reading :=
  { r with options := r.options ++ [(key, some value)], pending := none }

/-- An option that waits for its value counts as given without one until then. -/
def await (r : Reading) (key : String) : Reading :=
  { r with options := r.options ++ [(key, none)], pending := some key }

def fill (r : Reading) (key value : String) : Reading :=
  { r with options := r.options.dropLast ++ [(key, some value)], pending := none }

end Reading

def cutAtEquals (text : List Char) : List Char × Option (List Char) :=
  match text.dropWhile (· != '=') with
  | [] => (text, none)
  | _ :: value => (text.takeWhile (· != '='), some value)

def readWord (spec : ArgumentSpec) (r : Reading) (text : List Char) :
    Except Stop Reading :=
  let (name, value) := cutAtEquals text
  let name := String.ofList name
  match spec.options.find? (fun o => o.word == some name), value with
  | some o, some value =>
      if o.takesValue then .ok (r.value o.key (String.ofList value)) else .error .unknown
  | some o, none => .ok (if o.takesValue then r.await o.key else r.flag o.key)
  | none, none =>
      if name = "version" then .error .version
      else if name = "help" then .error .help
      else .error .unknown
  | none, some _ => .error .unknown

def readLetters (spec : ArgumentSpec) (r : Reading) : List Char -> Except Stop Reading
  | [] => .ok r
  | c :: cs =>
      match spec.options.find? fun o => o.letter == some c with
      | some o =>
          if o.takesValue then
            match cs with
            | [] => .ok (r.await o.key)
            | '=' :: value => .ok (r.value o.key (String.ofList value))
            | value => .ok (r.value o.key (String.ofList value))
          else readLetters spec (r.flag o.key) cs
      | none =>
          if c = 'V' then .error .version
          else if c = 'h' then .error .help
          else .error .unknown

def readPositional (spec : ArgumentSpec) (r : Reading) (argument : String) :
    Except Stop Reading :=
  if r.positionals.length < spec.positionals then
    .ok { r with positionals := r.positionals ++ [argument], pending := none }
  else .error .unknown

def readArgument (spec : ArgumentSpec) (r : Reading) (argument : String) :
    Except Stop Reading :=
  if r.trailing then readPositional spec r argument
  else
    match argument.toList, r.pending with
    | ['-', '-'], _ => .ok { r with trailing := true }
    | '-' :: '-' :: text, _ => readWord spec r text
    | '-' :: c :: cs, _ => readLetters spec r (c :: cs)
    | _, some key => .ok (r.fill key argument)
    | _, none => readPositional spec r argument

def readArguments (spec : ArgumentSpec) (r : Reading) :
    List String -> Except Stop Parsed
  | [] => .ok ⟨r.options, r.positionals, none⟩
  | argument :: rest =>
      if !r.trailing && r.pending.isNone && spec.commands.contains argument then
        .ok ⟨r.options, r.positionals, some (argument, rest)⟩
      else
        match readArgument spec r argument with
        | .error stop => .error stop
        | .ok r => readArguments spec r rest

namespace Parsed

def values (p : Parsed) (key : String) : List (Option String) :=
  (p.options.filter fun (k, _) => k == key).map Prod.snd

def given (p : Parsed) (key : String) : Bool :=
  !(p.values key).isEmpty

def value? (p : Parsed) (key : String) : Option String :=
  (p.values key).head?.join

def isProper (p : Parsed) (spec : ArgumentSpec) : Bool :=
  spec.options.all fun o =>
    match p.values o.key with
    | [] => true
    | [value] => !o.takesValue || value.isSome
    | _ => false

end Parsed
end CommandLine
end EntryStop
