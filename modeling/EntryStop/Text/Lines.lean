/-!
# Lines

A line ends at a newline, and a carriage return directly before that newline
is no part of the line.  A last line without a newline counts and keeps its
carriage return; nothing after the last newline is no line.  The cut is made
alike on characters and on bytes.
-/

namespace EntryStop
namespace Lines

variable {α : Type} [DecidableEq α]

/-- The pieces of a text, each with the mark whether a newline ended it. -/
def pieces (newline : α) : List α -> List (List α × Bool)
  | [] => []
  | c :: cs =>
      if c = newline then ([], true) :: pieces newline cs
      else
        match pieces newline cs with
        | [] => [([c], false)]
        | (line, ended) :: rest => (c :: line, ended) :: rest

def dropReturn (carriage : α) (line : List α) : List α :=
  if line.getLast? = some carriage then line.dropLast else line

def split (newline carriage : α) (text : List α) : List (List α) :=
  (pieces newline text).map fun (line, ended) =>
    if ended then dropReturn carriage line else line

/-!
## Pieces and newlines
-/

theorem pieces_nil (newline : α) : pieces newline [] = [] := rfl

theorem pieces_newline_cons (newline : α) (text : List α) :
    pieces newline (newline :: text) = ([], true) :: pieces newline text := by
  simp [pieces]

theorem pieces_line_append {newline : α} {line : List α}
    (h : newline ∉ line) (text : List α) :
    pieces newline (line ++ newline :: text) =
      (line, true) :: pieces newline text := by
  induction line with
  | nil => simp [pieces]
  | cons c line ih =>
      simp only [List.mem_cons, not_or] at h
      simp [pieces, Ne.symm h.left, ih h.right]

theorem pieces_append (newline : α) (first rest : List α) :
    pieces newline (first ++ newline :: rest) =
      pieces newline (first ++ [newline]) ++ pieces newline rest := by
  induction first with
  | nil => simp [pieces]
  | cons c first ih =>
      by_cases h : c = newline
      · simp [pieces, h, ih]
      · simp only [List.cons_append, pieces, h, if_false, ih]
        cases hp : pieces newline (first ++ [newline]) with
        | nil =>
            cases first with
            | nil => simp [pieces] at hp
            | cons d first =>
                simp only [List.cons_append, pieces] at hp
                split at hp
                · cases hp
                · split at hp <;> cases hp
        | cons p ps => rfl

theorem split_append (newline carriage : α) (first rest : List α) :
    split newline carriage (first ++ newline :: rest) =
      split newline carriage (first ++ [newline]) ++
        split newline carriage rest := by
  rw [split, pieces_append newline first rest, List.map_append]
  rfl

end Lines

/-!
## Lines of a text and of bytes
-/

def Text.lines (text : List Char) : List (List Char) :=
  Lines.split '\n' '\r' text

def Lines.ofBytes (bytes : List UInt8) : List (List UInt8) :=
  Lines.split 10 13 bytes

end EntryStop
