import EntryStop.Log
import EntryStop.Text.Blank

/-!
# Selecting log records

A filter is a list of directives separated by commas.  A directive gives a level
for all records, for those whose topic starts with a name, or names a topic whose
records are all heard.  After a slash stands a text that a record has to contain.
-/

namespace EntryStop
namespace CommandLine

structure Directive where
  name : List Char
  verbosity : Nat
  deriving DecidableEq, Repr

structure Filter where
  directives : List Directive
  pattern : Option (List Char)
  deriving DecidableEq, Repr

namespace Filter

def everything : Nat := Log.Level.trace.verbosity

def levelNames : List (String × Nat) :=
  [("off", 0), ("error", 1), ("warn", 2), ("info", 3), ("debug", 4), ("trace", 5)]

def verbosity? (text : List Char) : Option Nat :=
  let name := String.ofList (text.map Char.toLower)
  (levelNames.find? fun (n, _) => n == name).map Prod.snd

def pieces (sep : Char) : List Char -> List (List Char)
  | [] => [[]]
  | c :: cs =>
      if c = sep then [] :: pieces sep cs
      else
        match pieces sep cs with
        | [] => [[c]]
        | piece :: rest => (c :: piece) :: rest

def complaint (text : List Char) : String :=
  "warning: invalid logging spec '" ++ String.ofList text ++ "', ignoring it"

def directive (text : List Char) : Except String Directive :=
  match (pieces '=' text) with
  | [name] =>
      match verbosity? name with
      | some verbosity => .ok ⟨[], verbosity⟩
      | none => .ok ⟨name, everything⟩
  | [name, level] =>
      let level := Text.trim level
      if level.isEmpty then .ok ⟨name, everything⟩
      else
        match verbosity? level with
        | some verbosity => .ok ⟨name, verbosity⟩
        | none => .error (complaint level)
  | _ => .error (complaint text)

def readDirectives (text : List Char) : List String × List Directive :=
  let read := ((pieces ',' text).map Text.trim).filter (!·.isEmpty) |>.map directive
  (read.filterMap fun | .error complaint => some complaint | .ok _ => none,
    read.filterMap fun | .ok d => some d | .error _ => none)

def orErrors (ds : List Directive) : List Directive :=
  if ds.isEmpty then [⟨[], Log.Level.error.verbosity⟩] else ds

def parse (text : List Char) : List String × Filter :=
  match pieces '/' text with
  | [names] =>
      let (complaints, ds) := readDirectives names
      (complaints, ⟨orErrors ds, none⟩)
  | [names, pattern] =>
      let (complaints, ds) := readDirectives names
      (complaints, ⟨orErrors ds, some pattern⟩)
  | _ => ([complaint text ++ " (too many '/'s)"], ⟨orErrors [], none⟩)

/-- The directive for a topic: of those whose name the topic starts with the one
with the longest name, and of equal ones the last. -/
def directiveFor (ds : List Directive) (topic : List Char) : Option Directive :=
  ds.foldl
    (fun best d =>
      if d.name.isPrefixOf topic then
        match best with
        | some b => if b.name.length ≤ d.name.length then some d else best
        | none => some d
      else best)
    none

def occurs (pattern : List Char) : List Char -> Bool
  | [] => pattern.isEmpty
  | c :: cs => pattern.isPrefixOf (c :: cs) || occurs pattern cs

def passes (f : Filter) (r : Log.Record) : Bool :=
  match directiveFor f.directives r.topic.path.toList with
  | none => false
  | some d =>
      r.level.verbosity ≤ d.verbosity &&
        match f.pattern with
        | none => true
        | some pattern => occurs pattern r.text.toList

end Filter

/-!
## Printing records
-/

def indented : List Char -> List Char
  | [] => []
  | c :: cs => if c = '\n' then '\n' :: ' ' :: ' ' :: ' ' :: ' ' :: indented cs else c :: indented cs

def recordLine (r : Log.Record) : String :=
  "[" ++ String.ofList (r.level.name.toList.rightpad 5 ' ') ++ " " ++ r.topic.path ++ "] " ++
    String.ofList (indented r.text.toList)

end CommandLine
end EntryStop
