/-!
# Splitting at a separator

A text is cut at the first separator, at the last one, or at a limited number
of separators from the left, or after a marker at its start.
-/

namespace EntryStop
namespace Text

def splitFirst (sep : Char) : List Char -> Option (List Char × List Char)
  | [] => none
  | c :: cs =>
      if c = sep then some ([], cs)
      else (splitFirst sep cs).map fun (before, after) => (c :: before, after)

/-- At most `limit` pieces: the last one keeps the separators that are left. -/
def splitAtMost : Nat -> Char -> List Char -> List (List Char)
  | 0, _, _ => []
  | 1, _, cs => [cs]
  | limit + 2, sep, cs =>
      match splitFirst sep cs with
      | none => [cs]
      | some (before, after) => before :: splitAtMost (limit + 1) sep after

def afterLast (sep : Char) (cs : List Char) : List Char :=
  (cs.reverse.takeWhile (· != sep)).reverse

def afterMarker? {α : Type} [DecidableEq α] : (marker text : List α) -> Option (List α)
  | [], text => some text
  | _ :: _, [] => none
  | m :: marker, c :: text => if m = c then afterMarker? marker text else none

theorem splitFirst_append {sep : Char} {before : List Char}
    (h : sep ∉ before) (after : List Char) :
    splitFirst sep (before ++ sep :: after) = some (before, after) := by
  induction before with
  | nil => simp [splitFirst]
  | cons c cs ih =>
      simp only [List.mem_cons, not_or] at h
      simp [splitFirst, Ne.symm h.left, ih h.right]

theorem splitFirst_eq_none {sep : Char} {cs : List Char} (h : sep ∉ cs) :
    splitFirst sep cs = none := by
  induction cs with
  | nil => rfl
  | cons c cs ih =>
      simp only [List.mem_cons, not_or] at h
      simp [splitFirst, Ne.symm h.left, ih h.right]

theorem afterMarker?_eq_some_iff {α : Type} [DecidableEq α]
    {marker text rest : List α} :
    afterMarker? marker text = some rest ↔ text = marker ++ rest := by
  induction marker generalizing text with
  | nil => cases text <;> simp [afterMarker?, eq_comm]
  | cons m marker ih =>
      cases text with
      | nil => simp [afterMarker?]
      | cons c text =>
          by_cases h : m = c
          · subst h
            simp [afterMarker?, ih]
          · simp [afterMarker?, h, Ne.symm h]

end Text
end EntryStop
