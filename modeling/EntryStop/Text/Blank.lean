/-!
# Blank characters

White space in the text that a kernel or a command prints: the characters with
the Unicode property `White_Space`, removal of them at the ends of a text, and
the blank-free fields between them.
-/

namespace EntryStop
namespace Text

/-- The characters with the Unicode property `White_Space`. -/
def isBlank (c : Char) : Bool :=
  let n := c.toNat
  (0x9 ≤ n && n ≤ 0xD) || n == 0x20 || n == 0x85 || n == 0xA0 || n == 0x1680 ||
    (0x2000 ≤ n && n ≤ 0x200A) || n == 0x2028 || n == 0x2029 || n == 0x202F ||
    n == 0x205F || n == 0x3000

/-!
## Trimming
-/

def trimLeft (cs : List Char) : List Char :=
  cs.dropWhile isBlank

def trimRight (cs : List Char) : List Char :=
  (cs.reverse.dropWhile isBlank).reverse

def trim (cs : List Char) : List Char :=
  trimRight (trimLeft cs)

/-!
## Fields
-/

/-- The fields of a text whose first characters belong to the field `run`,
which is held in reverse. -/
def fieldsAfter (run : List Char) : List Char -> List (List Char)
  | [] => if run.isEmpty then [] else [run.reverse]
  | c :: cs =>
      if isBlank c then
        if run.isEmpty then fieldsAfter [] cs
        else run.reverse :: fieldsAfter [] cs
      else fieldsAfter (c :: run) cs

def fields (cs : List Char) : List (List Char) :=
  fieldsAfter [] cs

theorem fields_cons_of_blank {c : Char} (h : isBlank c = true)
    (cs : List Char) : fields (c :: cs) = fields cs := by
  simp [fields, fieldsAfter, h]

end Text
end EntryStop
