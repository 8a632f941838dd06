/-!
# Files

Why a file cannot be read, a tree of files with links, and what a path leads to in it.
-/

namespace EntryStop

inductive FileError where
  | notFound
  | denied
  | notDirectory
  | isDirectory
  | nameTooLong
  | tooManyLinks
  | nulByte
  | notText
  deriving DecidableEq, Repr

namespace FileError

def title : FileError -> String
  | notFound => "No such file or directory"
  | denied => "Permission denied"
  | notDirectory => "Not a directory"
  | isDirectory => "Is a directory"
  | nameTooLong => "File name too long"
  | tooManyLinks => "Too many levels of symbolic links"
  | nulByte => "file name contained an unexpected NUL byte"
  | notText => "stream did not contain valid UTF-8"

def number? : FileError -> Option Nat
  | notFound => some 2
  | denied => some 13
  | notDirectory => some 20
  | isDirectory => some 21
  | nameTooLong => some 36
  | tooManyLinks => some 40
  | nulByte | notText => none

def message (e : FileError) : String :=
  match e.number? with
  | some n => e.title ++ " (os error " ++ toString n ++ ")"
  | none => e.title

end FileError

inductive FileTree where
  | file (bytes : List UInt8)
  | directory (entries : List (String × FileTree))
  | device
  | link (target : String)

namespace FileTree

def nameLimit : Nat := 255

def pathLimit : Nat := 4095

def linkLimit : Nat := 40

def lookup (name : String) : List (String × FileTree) -> Option FileTree
  | [] => none
  | (n, tree) :: entries => if n = name then some tree else lookup name entries

def at? : FileTree -> List String -> Option FileTree
  | tree, [] => some tree
  | directory entries, name :: names =>
      (lookup name entries).bind fun tree => tree.at? names
  | _, _ :: _ => none

/-!
## Paths
-/

/-- A walk along names from a directory.  Places are lists of names from the nearest one
to the root.  A link in the way is handed to `follow` with the names behind it; one at the
end is left alone unless `last`. -/
def walkBy (root : FileTree) (last : Bool)
    (follow : List String -> String -> List String -> Except FileError (List String))
    (place : List String) : List String -> Except FileError (List String)
  | [] => .ok place
  | name :: names =>
      if name = "" ∨ name = "." then walkBy root last follow place names
      else if name = ".." then walkBy root last follow place.tail names
      else if nameLimit < name.utf8ByteSize then .error .nameTooLong
      else
        match root.at? (name :: place).reverse with
        | none =>
            if names.all (· = "") then .ok (name :: place) else .error .notFound
        | some (link target) =>
            if names.isEmpty ∧ !last then .ok (name :: place)
            else follow place target names
        | some (directory ..) => walkBy root last follow (name :: place) names
        | some _ => if names.isEmpty then .ok (name :: place) else .error .notDirectory

def walk (root : FileTree) (last : Bool) :
    Nat -> List String -> List String -> Except FileError (List String)
  | 0 => walkBy root last fun _ _ _ => .error .tooManyLinks
  | n + 1 =>
      walkBy root last fun place target names =>
        let place := if target.startsWith "/" then [] else place
        walk root last n place (target.splitOn "/" ++ names)

/-- The names from the root to the place that a path leads to, seen from the directory
`current`.  The last name need not be there. -/
def resolve (root : FileTree) (last : Bool) (current : List String) (path : String) :
    Except FileError (List String) := do
  if path.toList.contains (Char.ofNat 0) then throw .nulByte
  if path = "" then throw .notFound
  if pathLimit < path.utf8ByteSize then throw .nameTooLong
  let start := if path.startsWith "/" then [] else current.reverse
  return (← walk root last linkLimit start (path.splitOn "/")).reverse

def locate (root : FileTree) (current : List String) (path : String) :
    Except FileError FileTree := do
  match root.at? (← resolve root true current path) with
  | some tree => return tree
  | none => throw .notFound

def read (root : FileTree) (current : List String) (path : String) :
    Except FileError (List UInt8) := do
  match ← locate root current path with
  | directory .. => throw .isDirectory
  | file bytes => return bytes
  | device | link _ => return []

def pathOf (names : List String) : String :=
  "/" ++ "/".intercalate names

end FileTree
end EntryStop
