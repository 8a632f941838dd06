import EntryStop.Proofs.Text.LineStarts
import EntryStop.Text.Blank
import EntryStop.Text.Split

/-!
# Fields and padding

A text is cut at the separators that stand between its fields, and what trimming leaves of
a padded text is the text.
-/

namespace EntryStop
namespace Text

/-!
## Cutting at separators
-/

theorem splitAtMost_append {sep : Char} {before : List Char} (h : sep ∉ before)
    (limit : Nat) (after : List Char) :
    splitAtMost (limit + 2) sep (before ++ sep :: after) =
      before :: splitAtMost (limit + 1) sep after := by
  rw [splitAtMost, splitFirst_append h]

theorem splitAtMost_of_not_mem {sep : Char} {cs : List Char} (h : sep ∉ cs)
    (limit : Nat) : splitAtMost (limit + 2) sep cs = [cs] := by
  rw [splitAtMost, splitFirst_eq_none h]

theorem splitAtMost_one (sep : Char) (cs : List Char) : splitAtMost 1 sep cs = [cs] := rfl

theorem afterLast_append {sep : Char} {after : List Char} (h : sep ∉ after)
    (before : List Char) : afterLast sep (before ++ sep :: after) = after := by
  have hafter : forall c, c ∈ after.reverse -> (c != sep) = true := by
    intro c hc
    apply bne_iff_ne.mpr
    intro heq
    exact h (heq ▸ List.mem_reverse.mp hc)
  rw [afterLast, List.reverse_append, List.reverse_cons, List.append_assoc,
    List.takeWhile_append_of_pos hafter, List.singleton_append,
    List.takeWhile_cons_of_neg (by simp), List.append_nil, List.reverse_reverse]

theorem afterMarker?_eq_none_iff {marker text : List Char} :
    afterMarker? marker text = none ↔ ¬ marker <+: text := by
  rw [Option.eq_none_iff_forall_ne_some]
  constructor
  · intro h hprefix
    rcases hprefix with ⟨rest, hrest⟩
    exact h rest (afterMarker?_eq_some_iff.mpr hrest.symm)
  · intro h rest hrest
    exact h ⟨rest, (afterMarker?_eq_some_iff.mp hrest).symm⟩

/-!
## Trimming
-/

structure Bare (cs : List Char) : Prop where
  head : forall c, cs.head? = some c -> isBlank c = false
  last : forall c, cs.getLast? = some c -> isBlank c = false

theorem dropWhile_of_head {cs : List Char}
    (h : forall c, cs.head? = some c -> isBlank c = false) :
    cs.dropWhile isBlank = cs := by
  cases cs with
  | nil => rfl
  | cons c cs => simp [h c rfl]

theorem trimRight_of_last {cs : List Char}
    (h : forall c, cs.getLast? = some c -> isBlank c = false) : trimRight cs = cs := by
  have hreverse : cs.reverse.dropWhile isBlank = cs.reverse := by
    apply dropWhile_of_head
    intro c hc
    rw [List.head?_reverse] at hc
    exact h c hc
  rw [trimRight, hreverse, List.reverse_reverse]

theorem trim_of_head {cs : List Char}
    (h : forall c, cs.head? = some c -> isBlank c = false) : trim cs = trimRight cs :=
  congrArg trimRight (dropWhile_of_head h)

theorem trim_of_bare {cs : List Char} (h : Bare cs) : trim cs = cs :=
  (trim_of_head h.head).trans (trimRight_of_last h.last)

theorem trimLeft_blanks_append {blanks : List Char}
    (h : forall c, c ∈ blanks -> isBlank c = true) (cs : List Char) :
    trimLeft (blanks ++ cs) = trimLeft cs :=
  List.dropWhile_append_of_pos h

theorem trim_padding (count : Nat) (cs : List Char) :
    trim (List.replicate count ' ' ++ cs) = trim cs := by
  have hblanks : forall c, c ∈ List.replicate count ' ' -> isBlank c = true := by
    intro c hc
    rw [List.eq_of_mem_replicate hc]
    rfl
  rw [trim, trimLeft_blanks_append hblanks, trim]

/-!
## Blanks at the end
-/

section

variable {blanks : List Char} (h : forall c, c ∈ blanks -> isBlank c = true)

include h

theorem trimRight_append_blanks (cs : List Char) :
    trimRight (cs ++ blanks) = trimRight cs := by
  rw [trimRight, List.reverse_append,
    List.dropWhile_append_of_pos fun c hc => h c (List.mem_reverse.mp hc), trimRight]

theorem trim_append_blanks (cs : List Char) : trim (cs ++ blanks) = trim cs := by
  have hblanks : trimLeft blanks = [] := by
    have hdrop := trimLeft_blanks_append h []
    rw [List.append_nil] at hdrop
    exact hdrop
  rw [trim, trimLeft, List.dropWhile_append]
  split
  · next hempty =>
      have hnil : trimLeft cs = [] := List.isEmpty_iff.mp hempty
      have hdrop : blanks.dropWhile isBlank = [] := hblanks
      rw [hdrop, trim, hnil]
  · exact trimRight_append_blanks h _

end

theorem exists_blanks (cs : List Char) :
    exists blanks, cs = trimRight cs ++ blanks ∧
      forall c, c ∈ blanks -> isBlank c = true := by
  refine ⟨(cs.reverse.takeWhile isBlank).reverse, ?_, ?_⟩
  · rw [trimRight, ← List.reverse_append, List.takeWhile_append_dropWhile,
      List.reverse_reverse]
  · intro c hc
    exact List.all_eq_true.mp List.all_takeWhile c (List.mem_reverse.mp hc)

theorem exists_padding (cs : List Char) :
    exists gap gap', cs = gap ++ (trim cs ++ gap') ∧
      (forall c, c ∈ gap -> isBlank c = true) ∧
      forall c, c ∈ gap' -> isBlank c = true := by
  rcases exists_blanks (trimLeft cs) with ⟨gap', hleft, hgap'⟩
  refine ⟨cs.takeWhile isBlank, gap', ?_, ?_, hgap'⟩
  · rw [trim, ← hleft, trimLeft, List.takeWhile_append_dropWhile]
  · intro c hc
    exact List.all_eq_true.mp List.all_takeWhile c hc

theorem exists_blanks_of_dropReturn (line : List Char) :
    exists blanks, line = Lines.dropReturn '\r' line ++ blanks ∧
      forall c, c ∈ blanks -> isBlank c = true := by
  rcases Lines.dropReturn_cases '\r' line with hsame | hdropped
  · refine ⟨[], ?_, nofun⟩
    rw [hsame, List.append_nil]
  · exact ⟨['\r'], hdropped, List.forall_mem_singleton.mpr rfl⟩

theorem getLast?_trimRight {cs : List Char} {c : Char}
    (hc : (trimRight cs).getLast? = some c) : isBlank c = false := by
  have hstop := List.head?_dropWhile_not isBlank cs.reverse
  rw [trimRight, List.getLast?_reverse] at hc
  rw [hc] at hstop
  exact hstop

theorem trimRight_eq_self_iff {cs : List Char} :
    trimRight cs = cs ↔ forall c, cs.getLast? = some c -> isBlank c = false := by
  constructor
  · intro h c hc
    exact getLast?_trimRight (h.symm ▸ hc)
  · exact trimRight_of_last

/-- The texts differ in the blanks at their ends only. -/
def SameButBlanks (cs ds : List Char) : Prop :=
  exists kept blanks blanks', cs = kept ++ blanks ∧ ds = kept ++ blanks' ∧
    (forall c, c ∈ blanks -> isBlank c = true) ∧
    forall c, c ∈ blanks' -> isBlank c = true

theorem trimRight_eq_iff {cs ds : List Char} :
    trimRight cs = trimRight ds ↔ SameButBlanks cs ds := by
  constructor
  · intro h
    rcases exists_blanks cs with ⟨blanks, hcs, hblanks⟩
    rcases exists_blanks ds with ⟨blanks', hds, hblanks'⟩
    exact ⟨trimRight cs, blanks, blanks', hcs, h ▸ hds, hblanks, hblanks'⟩
  · intro h
    rcases h with ⟨kept, blanks, blanks', rfl, rfl, hblanks, hblanks'⟩
    rw [trimRight_append_blanks hblanks, trimRight_append_blanks hblanks']

end Text
end EntryStop
