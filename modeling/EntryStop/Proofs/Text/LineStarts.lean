import EntryStop.Proofs.Text.Lines

/-!
# Where lines begin

A text may be cut in front of a place without changing its lines exactly if that place is
right behind a newline.  The lines after the first one are those that begin right behind a
newline.
-/

namespace EntryStop
namespace Lines

section

variable {α : Type} [DecidableEq α] {newline carriage c : α} {text line : List α}

/-!
## Numbers of lines
-/

theorem pieces_singleton (hc : c ≠ newline) : pieces newline [c] = [([c], false)] := by
  rw [pieces, if_neg hc, pieces_nil]

theorem pieces_cons_of_pieces {ended : Bool} {rest : List (List α × Bool)} (hc : c ≠ newline)
    (h : pieces newline text = (line, ended) :: rest) :
    pieces newline (c :: text) = (c :: line, ended) :: rest := by
  rw [pieces, if_neg hc, h]

theorem exists_pieces (newline : α) (h : text ≠ []) :
    exists line ended rest, pieces newline text = (line, ended) :: rest := by
  induction text with
  | nil => exact absurd rfl h
  | cons c text ih =>
      by_cases hc : c = newline
      · rw [hc, pieces_newline_cons]
        exact ⟨[], true, _, rfl⟩
      · by_cases hnil : text = []
        · rw [hnil, pieces_singleton hc]
          exact ⟨[c], false, [], rfl⟩
        · rcases ih hnil with ⟨line, ended, rest, hpieces⟩
          exact ⟨c :: line, ended, rest, pieces_cons_of_pieces hc hpieces⟩

theorem length_pieces_of_ne (hc : c ≠ newline) (h : text ≠ []) :
    (pieces newline (c :: text)).length = (pieces newline text).length := by
  rcases exists_pieces newline h with ⟨line, ended, rest, hpieces⟩
  rw [pieces_cons_of_pieces hc hpieces, hpieces, List.length_cons, List.length_cons]

theorem length_pieces_append {first rest : List α} (hfirst : first ≠ [])
    (hlast : first.getLast? ≠ some newline) (hrest : rest ≠ []) :
    (pieces newline first).length + (pieces newline rest).length =
      (pieces newline (first ++ rest)).length + 1 := by
  induction first with
  | nil => exact absurd rfl hfirst
  | cons c first ih =>
      by_cases hnil : first = []
      · subst hnil
        have hc : c ≠ newline := fun heq => hlast (congrArg some heq)
        rw [List.singleton_append, length_pieces_of_ne hc hrest, pieces_singleton hc,
          List.length_singleton, Nat.add_comm]
      · have hlast' : first.getLast? ≠ some newline := by
          rw [List.getLast?_cons_of_ne_nil hnil] at hlast
          exact hlast
        have hcount := ih hnil hlast'
        have hne : first ++ rest ≠ [] := fun h => hnil (List.append_eq_nil_iff.mp h).left
        rw [List.cons_append]
        by_cases hc : c = newline
        · rw [hc, pieces_newline_cons, pieces_newline_cons, List.length_cons, List.length_cons]
          omega
        · rw [length_pieces_of_ne hc hnil, length_pieces_of_ne hc hne]
          exact hcount

theorem length_split (newline carriage : α) (text : List α) :
    (split newline carriage text).length = (pieces newline text).length :=
  List.length_map _

/-- A text may be cut right behind a newline, and nowhere else. -/
theorem split_append_iff (newline carriage : α) {first rest : List α} (hfirst : first ≠ [])
    (hrest : rest ≠ []) :
    split newline carriage (first ++ rest) =
        split newline carriage first ++ split newline carriage rest ↔
      first.getLast? = some newline := by
  constructor
  · intro hcut
    refine Decidable.byContradiction ?_
    intro hlast
    have hlength := congrArg List.length hcut
    rw [List.length_append, length_split, length_split, length_split,
      length_pieces_append hfirst hlast hrest] at hlength
    exact Nat.succ_ne_self _ hlength.symm
  · intro hlast
    rcases List.getLast?_eq_some_iff.mp hlast with ⟨front, rfl⟩
    rw [List.append_assoc, List.singleton_append, split_append]

/-!
## Whole lines
-/

/-- There are only whole lines: nothing stands behind the last newline. -/
def EndsLine (newline : α) (text : List α) : Prop :=
  text = [] ∨ text.getLast? = some newline

instance (newline : α) (text : List α) : Decidable (EndsLine newline text) :=
  inferInstanceAs (Decidable (text = [] ∨ text.getLast? = some newline))

theorem split_append_of_endsLine {first : List α} (h : EndsLine newline first) (carriage : α)
    (rest : List α) :
    split newline carriage (first ++ rest) =
      split newline carriage first ++ split newline carriage rest := by
  rcases h with rfl | hlast
  · rfl
  · rcases List.getLast?_eq_some_iff.mp hlast with ⟨front, rfl⟩
    rw [List.append_assoc, List.singleton_append, split_append]

theorem split_line_append (h : newline ∉ line) (carriage : α) (rest : List α) :
    split newline carriage (line ++ newline :: rest) =
      dropReturn carriage line :: split newline carriage rest := by
  rw [split, pieces_line_append h, List.map_cons]
  rfl

omit [DecidableEq α] in
theorem EndsLine.line_append {rest : List α} (h : EndsLine newline rest) (line : List α) :
    EndsLine newline (line ++ newline :: rest) := by
  apply Or.inr
  rcases h with rfl | hlast
  · exact List.getLast?_concat
  · rw [List.append_cons, List.getLast?_append, hlast]
    rfl

/-!
## Lines after the first one
-/

theorem split_newline_cons (newline carriage : α) (text : List α) :
    split newline carriage (newline :: text) = [] :: split newline carriage text := by
  rw [split, pieces_newline_cons, List.map_cons]
  rfl

theorem tail_split_of_ne (hc : c ≠ newline) (text : List α) :
    (split newline carriage (c :: text)).tail = (split newline carriage text).tail := by
  by_cases hnil : text = []
  · rw [hnil, split, split, pieces_singleton hc]
    rfl
  · rcases exists_pieces newline hnil with ⟨line, ended, rest, hpieces⟩
    rw [split, split, pieces_cons_of_pieces hc hpieces, hpieces]
    rfl

theorem mem_tail_split_iff :
    line ∈ (split newline carriage text).tail ↔
      exists front back, text = front ++ newline :: back ∧
        (split newline carriage back).head? = some line := by
  induction text with
  | nil =>
      constructor
      · intro h
        cases h
      · intro h
        rcases h with ⟨front, back, htext, _⟩
        cases (List.append_eq_nil_iff.mp htext.symm).right
  | cons c text ih =>
      by_cases hc : c = newline
      · subst hc
        rw [split_newline_cons, List.tail_cons]
        constructor
        · intro hmem
          cases hlines : split c carriage text with
          | nil =>
              rw [hlines] at hmem
              cases hmem
          | cons first rest =>
              rw [hlines] at hmem ih
              rcases List.mem_cons.mp hmem with rfl | hrest
              · exact ⟨[], text, rfl, by rw [hlines, List.head?_cons]⟩
              · rcases ih.mp hrest with ⟨front, back, rfl, hhead⟩
                exact ⟨c :: front, back, rfl, hhead⟩
        · intro h
          rcases h with ⟨front, back, htext, hhead⟩
          cases front with
          | nil =>
              cases htext
              exact List.mem_of_mem_head? hhead
          | cons d front =>
              cases htext
              exact List.mem_of_mem_tail (ih.mpr ⟨front, back, rfl, hhead⟩)
      · rw [tail_split_of_ne hc, ih]
        constructor
        · intro h
          rcases h with ⟨front, back, rfl, hhead⟩
          exact ⟨c :: front, back, rfl, hhead⟩
        · intro h
          rcases h with ⟨front, back, htext, hhead⟩
          cases front with
          | nil =>
              cases htext
              exact absurd rfl hc
          | cons d front =>
              cases htext
              exact ⟨front, back, rfl, hhead⟩

/-!
## The first line
-/

theorem exists_head?_split (newline carriage : α) (h : text ≠ []) :
    exists line, (split newline carriage text).head? = some line := by
  rcases exists_pieces newline h with ⟨line, ended, rest, hpieces⟩
  rw [split, hpieces]
  exact ⟨_, rfl⟩

theorem head?_pieces_append {ended : Bool}
    (h : (pieces newline text).head? = some (line, ended)) :
    exists rest, text = line ++ rest ∧ forall c, rest.head? = some c -> c = newline := by
  induction text generalizing line with
  | nil => cases h
  | cons c text ih =>
      by_cases hc : c = newline
      · subst hc
        rw [pieces_newline_cons] at h
        cases h
        exact ⟨c :: text, rfl, fun d hd => (Option.some.inj hd).symm⟩
      · by_cases hnil : text = []
        · subst hnil
          rw [pieces_singleton hc] at h
          cases h
          refine ⟨[], rfl, ?_⟩
          intro d hd
          cases hd
        · rcases exists_pieces newline hnil with ⟨first, closed, others, hpieces⟩
          rw [pieces_cons_of_pieces hc hpieces] at h
          rw [hpieces] at ih
          cases h
          rcases ih rfl with ⟨rest, htext, hrest⟩
          exact ⟨rest, congrArg (c :: ·) htext, hrest⟩

theorem dropReturn_cases (carriage : α) (line : List α) :
    dropReturn carriage line = line ∨ line = dropReturn carriage line ++ [carriage] := by
  by_cases hlast : line.getLast? = some carriage
  · rcases List.getLast?_eq_some_iff.mp hlast with ⟨front, rfl⟩
    rw [dropReturn, if_pos hlast, List.dropLast_concat]
    exact Or.inr rfl
  · exact Or.inl (if_neg hlast)

theorem head?_split_append (h : (split newline carriage text).head? = some line) :
    exists rest, text = line ++ rest ∧
      forall c, rest.head? = some c -> c = newline ∨ c = carriage := by
  by_cases hnil : text = []
  · rw [hnil] at h
    cases h
  · rcases exists_pieces newline hnil with ⟨whole, ended, others, hpieces⟩
    have hhead : (pieces newline text).head? = some (whole, ended) := by
      rw [hpieces, List.head?_cons]
    rcases head?_pieces_append hhead with ⟨rest, htext, hrest⟩
    have hstop : forall c, rest.head? = some c -> c = newline ∨ c = carriage :=
      fun c hc => Or.inl (hrest c hc)
    have hline : (if ended then dropReturn carriage whole else whole) = line := by
      rw [split, hpieces] at h
      exact Option.some.inj h
    cases ended with
    | false => exact ⟨rest, hline ▸ htext, hstop⟩
    | true =>
        have hdrop : dropReturn carriage whole = line := hline
        rcases dropReturn_cases carriage whole with hsame | hdropped
        · rw [hsame] at hdrop
          exact ⟨rest, hdrop ▸ htext, hstop⟩
        · rw [hdrop] at hdropped
          refine ⟨carriage :: rest, ?_, fun c hc => Or.inr (Option.some.inj hc).symm⟩
          rw [htext, hdropped, List.append_assoc, List.singleton_append]

/-!
## Places of lines
-/

theorem split_of_not_mem (hne : text ≠ []) (h : newline ∉ text) (carriage : α) :
    split newline carriage text = [text] := by
  have hpieces := pieces_append_of_not_mem hne h []
  rw [List.append_nil, pieces_nil] at hpieces
  rw [split, hpieces]
  rfl

theorem exists_place_of_split {front back : List (List α)}
    (h : split newline carriage text = front ++ line :: back) :
    exists before whole rest, text = before ++ (whole ++ rest) ∧ EndsLine newline before ∧
      split newline carriage before = front ∧ newline ∉ whole ∧
      (forall c, rest.head? = some c -> c = newline) ∧
      (whole = line ∨ whole = line ++ [carriage]) := by
  induction front generalizing text with
  | nil =>
      by_cases hmem : newline ∈ text
      · rcases List.eq_append_cons_of_mem hmem with ⟨whole, rest, rfl, hwhole⟩
        rw [split_line_append hwhole, List.nil_append] at h
        rcases List.cons.inj h with ⟨rfl, _⟩
        refine ⟨[], whole, newline :: rest, rfl, Or.inl rfl, rfl, hwhole, ?_, ?_⟩
        · intro c hc
          exact (Option.some.inj hc).symm
        · exact (dropReturn_cases carriage whole).imp_left Eq.symm
      · by_cases hnil : text = []
        · rw [hnil] at h
          cases h
        · rw [split_of_not_mem hnil hmem, List.nil_append] at h
          rcases List.cons.inj h with ⟨rfl, _⟩
          exact ⟨[], text, [], (List.append_nil text).symm, Or.inl rfl, rfl, hmem, nofun,
            Or.inl rfl⟩
  | cons first front ih =>
      by_cases hmem : newline ∈ text
      · rcases List.eq_append_cons_of_mem hmem with ⟨start, later, rfl, hstart⟩
        rw [split_line_append hstart, List.cons_append] at h
        rcases List.cons.inj h with ⟨rfl, hlater⟩
        rcases ih hlater with ⟨before, whole, rest, rfl, hbefore, rfl, hplace⟩
        refine ⟨start ++ newline :: before, whole, rest, ?_, hbefore.line_append start, ?_,
          hplace⟩
        · rw [List.append_assoc, List.cons_append]
        · exact split_line_append hstart carriage before
      · by_cases hnil : text = []
        · rw [hnil] at h
          cases h
        · rw [split_of_not_mem hnil hmem, List.cons_append] at h
          cases (List.append_eq_nil_iff.mp (List.cons.inj h).right.symm).right

theorem exists_split_of_place {before whole rest : List α} (hbefore : EndsLine newline before)
    (hne : whole ≠ []) (hwhole : newline ∉ whole)
    (hrest : forall c, rest.head? = some c -> c = newline) (carriage : α) :
    exists line back, split newline carriage (before ++ (whole ++ rest)) =
        split newline carriage before ++ line :: back ∧
      (whole = line ∨ whole = line ++ [carriage]) := by
  rw [split_append_of_endsLine hbefore]
  cases rest with
  | nil =>
      rw [List.append_nil, split_of_not_mem hne hwhole]
      exact ⟨whole, [], rfl, Or.inl rfl⟩
  | cons c rest =>
      rw [hrest c rfl, split_line_append hwhole]
      exact ⟨_, _, rfl, (dropReturn_cases carriage whole).imp_left Eq.symm⟩

end

end Lines
end EntryStop
