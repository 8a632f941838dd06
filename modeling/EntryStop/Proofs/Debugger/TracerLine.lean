import EntryStop.Debugger.Tracer
import EntryStop.Proofs.Text.LineStarts
import EntryStop.Proofs.Text.Signed

/-!
# The line that names the tracer

A status text names the tracer in the first line that begins with the label.  Behind the label
stands the numeral of the tracer, with any blanks around it.  The label counts at the start of
a line only, and lines behind the first one with the label do not matter.
-/

namespace EntryStop
namespace Debugger

/-!
## Lines with the label
-/

def TracerLine (line : List Char) (tracer : Pid) : Prop :=
  exists gap numeral gap', line = tracerLabel ++ (gap ++ (numeral ++ gap')) ∧
    (forall c, c ∈ gap -> Text.isBlank c = true) ∧
    (forall c, c ∈ gap' -> Text.isBlank c = true) ∧
    Numeral.Denotes numeral tracer.toInt

def Unlabelled (text : List Char) : Prop :=
  forall line, line ∈ Text.lines text -> ¬ tracerLabel <+: line

instance (text : List Char) : Decidable (Unlabelled text) :=
  List.decidableBAll _ _

/-- Behind lines without the label stands the line of the tracer.  It ends with the text or in
front of a newline, and anything may follow. -/
def NamesTracer (status : List Char) (tracer : Pid) : Prop :=
  exists before line rest, status = before ++ (line ++ rest) ∧
    Lines.EndsLine '\n' before ∧ Unlabelled before ∧
    '\n' ∉ line ∧ TracerLine line tracer ∧
    forall c, rest.head? = some c -> c = '\n'

section

variable {status line value : List Char} {tracer : Pid}

theorem tracerLine_iff :
    TracerLine line tracer ↔
      exists value, line = tracerLabel ++ value ∧
        Numeral.Denotes (Text.trim value) tracer.toInt := by
  constructor
  · intro h
    rcases h with ⟨gap, numeral, gap', rfl, hgap, hgap', hnumeral⟩
    refine ⟨_, rfl, ?_⟩
    rw [Text.trim, Text.trimLeft_blanks_append hgap, ← Text.trim, Text.trim_append_blanks hgap',
      hnumeral.trim_eq]
    exact hnumeral
  · intro h
    rcases h with ⟨value, rfl, hnumeral⟩
    rcases Text.exists_padding value with ⟨gap, gap', hvalue, hgap, hgap'⟩
    exact ⟨gap, _, gap', congrArg (tracerLabel ++ ·) hvalue, hgap, hgap', hnumeral⟩

theorem tracerLine_text (tracer : Pid) {gap gap' : List Char}
    (hgap : forall c, c ∈ gap -> Text.isBlank c = true)
    (hgap' : forall c, c ∈ gap' -> Text.isBlank c = true) :
    TracerLine (tracerLabel ++ (gap ++ (tracer.text.toList ++ gap'))) tracer :=
  ⟨gap, _, gap', rfl, hgap, hgap', Numeral.denotes_toString tracer.toInt⟩

theorem tracerLine_return_iff : TracerLine (line ++ ['\r']) tracer ↔ TracerLine line tracer := by
  have hreturn : forall c, c ∈ ['\r'] -> Text.isBlank c = true :=
    List.forall_mem_singleton.mpr rfl
  rw [tracerLine_iff, tracerLine_iff]
  constructor
  · intro h
    rcases h with ⟨value, hline, hnumeral⟩
    -- An empty value holds no numeral, so the return is the last character of the value.
    rcases List.eq_nil_or_concat value with rfl | ⟨front, last, rfl⟩
    · exact absurd rfl hnumeral.ne_nil
    · rw [List.concat_eq_append, ← List.append_assoc] at hline
      rcases List.append_inj' hline rfl with ⟨rfl, hlast⟩
      rw [List.concat_eq_append, ← hlast, Text.trim_append_blanks hreturn] at hnumeral
      exact ⟨front, rfl, hnumeral⟩
  · intro h
    rcases h with ⟨value, rfl, hnumeral⟩
    refine ⟨value ++ ['\r'], List.append_assoc _ _ _, ?_⟩
    rw [Text.trim_append_blanks hreturn]
    exact hnumeral

theorem TracerLine.of_return {whole : List Char} (h : whole = line ∨ whole = line ++ ['\r']) :
    TracerLine whole tracer ↔ TracerLine line tracer := by
  rcases h with rfl | rfl
  · exact Iff.rfl
  · exact tracerLine_return_iff

theorem unlabelled_iff {text : List Char} :
    Unlabelled text ↔
      forall line, line ∈ Text.lines text -> Text.afterMarker? tracerLabel line = none := by
  constructor
  · intro h line hline
    exact Text.afterMarker?_eq_none_iff.mpr (h line hline)
  · intro h line hline
    exact Text.afterMarker?_eq_none_iff.mp (h line hline)

theorem tracerPid_of_unlabelled (h : Unlabelled status) : tracerPid status = none := by
  have hnone : (Text.lines status).findSome? (Text.afterMarker? tracerLabel) = none :=
    List.findSome?_eq_none_iff.mpr (unlabelled_iff.mp h)
  rw [tracerPid, hnone]
  rfl

theorem tracerPid_eq_some_iff_lines :
    tracerPid status = some tracer ↔
      exists front line back, Text.lines status = front ++ line :: back ∧
        (forall other, other ∈ front -> Text.afterMarker? tracerLabel other = none) ∧
        TracerLine line tracer := by
  rw [tracerPid]
  constructor
  · intro h
    rcases Option.bind_eq_some_iff.mp h with ⟨value, hfound, hread⟩
    rcases List.findSome?_eq_some_iff.mp hfound with ⟨front, line, back, hlines, hmarker, hfront⟩
    refine ⟨front, line, back, hlines, hfront, ?_⟩
    exact tracerLine_iff.mpr ⟨value, Text.afterMarker?_eq_some_iff.mp hmarker,
      Numeral.signed32_eq_ok_iff.mp (toOption_eq_some_iff.mp hread)⟩
  · intro h
    rcases h with ⟨front, line, back, hlines, hfront, hline⟩
    rcases tracerLine_iff.mp hline with ⟨value, hmarker, hnumeral⟩
    apply Option.bind_eq_some_iff.mpr
    refine ⟨value, ?_, toOption_eq_some_iff.mpr (Numeral.signed32_eq_ok_iff.mpr hnumeral)⟩
    exact List.findSome?_eq_some_iff.mpr
      ⟨front, line, back, hlines, Text.afterMarker?_eq_some_iff.mpr hmarker, hfront⟩

theorem TracerLine.ne_nil (h : TracerLine line tracer) : line ≠ [] := by
  rcases h with ⟨gap, numeral, gap', rfl, _⟩
  exact List.cons_ne_nil _ _

theorem tracerPid_eq_some_iff : tracerPid status = some tracer ↔ NamesTracer status tracer := by
  rw [tracerPid_eq_some_iff_lines]
  constructor
  · intro h
    rcases h with ⟨front, line, back, hlines, hfront, hline⟩
    rcases Lines.exists_place_of_split hlines with
      ⟨before, whole, rest, hstatus, hbefore, rfl, hwhole, hrest, hreturn⟩
    exact ⟨before, whole, rest, hstatus, hbefore, unlabelled_iff.mpr hfront, hwhole,
      (TracerLine.of_return hreturn).mpr hline, hrest⟩
  · intro h
    rcases h with ⟨before, whole, rest, rfl, hbefore, hfront, hwhole, hline, hrest⟩
    rcases Lines.exists_split_of_place hbefore hline.ne_nil hwhole hrest '\r' with
      ⟨line, back, hlines, hreturn⟩
    exact ⟨_, line, back, hlines, unlabelled_iff.mp hfront,
      (TracerLine.of_return hreturn).mp hline⟩

end

end Debugger
end EntryStop
