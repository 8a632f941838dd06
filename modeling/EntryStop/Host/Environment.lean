import EntryStop.Text.Split
import EntryStop.Text.Utf8

/-!
# The environment

The variables of the program, each with the bytes of its value, and the form
`KEY=VALUE` in which they are kept and handed to a new program.
-/

namespace EntryStop

abbrev Environment := List (List UInt8 × List UInt8)

namespace Environment

def current : Environment -> Environment
  | [] => []
  | (name, value) :: env =>
      if env.any fun (n, _) => n == name then current env else (name, value) :: current env

def separator : UInt8 := 0x3D

def form (name value : List UInt8) : List UInt8 :=
  name ++ separator :: value

/-- The value of a variable, looked up in the forms.  A name with an equals sign in
it thus finds the rest of a value that has one as well; the empty name finds
nothing. -/
def value? (env : Environment) (name : List UInt8) : Option (List UInt8) :=
  if name.isEmpty then none
  else
    (current env).findSome? fun (n, value) =>
      Text.afterMarker? (form name []) (form n value)

def text (env : Environment) (name : List Char) : List Char :=
  ((env.value? (Utf8.encode name)).bind Utf8.decode?).getD []

/-- The forms of all variables in the order of their bytes.  A form with a zero byte
inside cannot be handed on and is left out. -/
def entries (env : Environment) : List (List UInt8) :=
  let forms := (current env).map fun (name, value) => form name value
  (forms.filter fun form => !form.contains 0).mergeSort fun a b => decide (a ≤ b)

end Environment
end EntryStop
