import EntryStop.Proofs.Text.Fields

/-!
# Words and gaps

A text that shows words has blanks between them, and it may have some at its ends.  The words
are told from the text, so the fields of a text are the words it shows and no others.
-/

namespace EntryStop
namespace Text

/-- The text shows the words in their order.  A word is not empty and has no blank, and what
stands behind a word begins with a blank. -/
inductive Runs : List (List Char) -> List Char -> Prop where
  | done {gap : List Char} : (forall c, c ∈ gap -> isBlank c = true) -> Runs [] gap
  | word {gap word rest : List Char} {words : List (List Char)} :
      (forall c, c ∈ gap -> isBlank c = true) -> word ≠ [] ->
      (forall c, c ∈ word -> isBlank c = false) ->
      (forall c, rest.head? = some c -> isBlank c = true) ->
      Runs words rest -> Runs (word :: words) (gap ++ word ++ rest)

namespace Runs

variable {words : List (List Char)} {text : List Char}

theorem cons_blank {c : Char} (hc : isBlank c = true) (h : Runs words text) :
    Runs words (c :: text) := by
  cases h with
  | done hgap =>
      apply Runs.done
      intro d hd
      rcases List.mem_cons.mp hd with rfl | hd
      · exact hc
      · exact hgap d hd
  | word hgap hne hword hrest hwords =>
      rename_i gap word rest words
      show Runs (word :: words) ((c :: gap) ++ word ++ rest)
      apply Runs.word _ hne hword hrest hwords
      intro d hd
      rcases List.mem_cons.mp hd with rfl | hd
      · exact hc
      · exact hgap d hd

theorem of_word {word : List Char} (hne : word ≠ [])
    (hword : forall c, c ∈ word -> isBlank c = false)
    (htext : forall c, text.head? = some c -> isBlank c = true) (h : Runs words text) :
    Runs (word :: words) (word ++ text) := by
  show Runs (word :: words) ([] ++ word ++ text)
  exact Runs.word nofun hne hword htext h

theorem append_blanks {blanks : List Char} (hblanks : forall c, c ∈ blanks -> isBlank c = true)
    (h : Runs words text) : Runs words (text ++ blanks) := by
  induction h with
  | done hgap =>
      apply Runs.done
      intro c hc
      rcases List.mem_append.mp hc with hc | hc
      · exact hgap c hc
      · exact hblanks c hc
  | word hgap hne hword hrest _ ih =>
      rw [List.append_assoc]
      apply Runs.word hgap hne hword _ ih
      intro c hc
      rw [List.head?_append] at hc
      rcases Option.or_eq_some_iff.mp hc with hc | ⟨_, hc⟩
      · exact hrest c hc
      · exact hblanks c (List.mem_of_head? hc)

end Runs

/-!
## The cut into fields
-/

theorem fieldsAfter_word {word : List Char} (hword : forall c, c ∈ word -> isBlank c = false)
    (run rest : List Char) :
    fieldsAfter run (word ++ rest) = fieldsAfter (word.reverse ++ run) rest := by
  induction word generalizing run with
  | nil => rfl
  | cons c word ih =>
      rw [List.cons_append, fieldsAfter, if_neg (by simp [hword c List.mem_cons_self]),
        ih (fun d hd => hword d (List.mem_cons_of_mem c hd)), List.reverse_cons,
        List.append_assoc, List.singleton_append]

theorem fieldsAfter_of_ne_nil {run rest : List Char} (hrun : run ≠ [])
    (hrest : forall c, rest.head? = some c -> isBlank c = true) :
    fieldsAfter run rest = run.reverse :: fields rest := by
  have hempty : run.isEmpty = false := List.isEmpty_eq_false_iff.mpr hrun
  cases rest with
  | nil => simp [fieldsAfter, hempty, fields]
  | cons c rest =>
      have hc : isBlank c = true := hrest c rfl
      rw [fields_cons_of_blank hc, fieldsAfter, if_pos hc, if_neg (by simp [hempty]), fields]

theorem fields_append_of_blanks {gap : List Char}
    (hgap : forall c, c ∈ gap -> isBlank c = true) (rest : List Char) :
    fields (gap ++ rest) = fields rest := by
  induction gap with
  | nil => rfl
  | cons c gap ih =>
      rw [List.cons_append, fields_cons_of_blank (hgap c List.mem_cons_self)]
      exact ih fun d hd => hgap d (List.mem_cons_of_mem c hd)

theorem fields_of_runs {words : List (List Char)} {text : List Char} (h : Runs words text) :
    fields text = words := by
  induction h with
  | done hgap =>
      have hfields := fields_append_of_blanks hgap []
      rw [List.append_nil] at hfields
      exact hfields
  | word hgap hne hword hrest _ ih =>
      rename_i word rest words _
      have hreverse : word.reverse ++ [] ≠ [] := by
        rw [List.append_nil]
        exact mt List.reverse_eq_nil_iff.mp hne
      rw [List.append_assoc, fields_append_of_blanks hgap, fields, fieldsAfter_word hword,
        fieldsAfter_of_ne_nil hreverse hrest, List.append_nil, List.reverse_reverse, ih]

theorem runs_fieldsAfter_of_ne_nil {run rest : List Char} (hne : run ≠ [])
    (hrun : forall c, c ∈ run -> isBlank c = false)
    (hrest : forall c, rest.head? = some c -> isBlank c = true) (h : Runs (fields rest) rest) :
    Runs (fieldsAfter run rest) (run.reverse ++ rest) := by
  have hword : forall c, c ∈ run.reverse -> isBlank c = false :=
    fun c hc => hrun c (List.mem_reverse.mp hc)
  rw [fieldsAfter_of_ne_nil hne hrest]
  exact Runs.of_word (mt List.reverse_eq_nil_iff.mp hne) hword hrest h

theorem runs_fieldsAfter {run : List Char} (hrun : forall c, c ∈ run -> isBlank c = false)
    (text : List Char) : Runs (fieldsAfter run text) (run.reverse ++ text) := by
  induction text generalizing run with
  | nil =>
      by_cases hne : run = []
      · rw [hne]
        exact Runs.done nofun
      · exact runs_fieldsAfter_of_ne_nil hne hrun nofun (Runs.done nofun)
  | cons c text ih =>
      by_cases hc : isBlank c = true
      · have hrest : Runs (fields (c :: text)) (c :: text) := by
          rw [fields_cons_of_blank hc]
          exact Runs.cons_blank hc (ih nofun)
        by_cases hne : run = []
        · rw [hne]
          exact hrest
        · apply runs_fieldsAfter_of_ne_nil hne hrun _ hrest
          intro d hd
          cases hd
          exact hc
      · have hfree : forall d, d ∈ c :: run -> isBlank d = false := by
          intro d hd
          rcases List.mem_cons.mp hd with heq | hd
          · rw [heq]
            exact Bool.eq_false_iff.mpr hc
          · exact hrun d hd
        have hshown := ih hfree
        rw [List.reverse_cons, List.append_assoc, List.singleton_append] at hshown
        rw [fieldsAfter, if_neg hc]
        exact hshown

theorem fields_eq_iff {words : List (List Char)} {text : List Char} :
    fields text = words ↔ Runs words text := by
  constructor
  · intro h
    have hnil : forall c, c ∈ ([] : List Char) -> isBlank c = false := nofun
    rw [← h]
    exact runs_fieldsAfter hnil text
  · exact fields_of_runs

instance (words : List (List Char)) (text : List Char) : Decidable (Runs words text) :=
  decidable_of_iff _ fields_eq_iff

theorem fields_append_blanks {blanks : List Char}
    (hblanks : forall c, c ∈ blanks -> isBlank c = true) (text : List Char) :
    fields (text ++ blanks) = fields text :=
  fields_of_runs ((fields_eq_iff.mp rfl).append_blanks hblanks)

end Text
end EntryStop
