import EntryStop.CommandLine.Run
import Mathlib.Data.List.Induction

/-!
# Which records are heard

The directive with the longest name that a topic starts with decides about its records, and of
several with names of that length the last one.  Without any filter all records are printed
from level `info` on.
-/

namespace EntryStop
namespace CommandLine
namespace Filter

section

variable {ds : List Directive} {topic : List Char} {d d' : Directive}

/-!
## Directives
-/

/-- Directives in front of this one have no longer name for the topic, and those behind it have
only shorter ones. -/
def Decides (ds : List Directive) (topic : List Char) (d : Directive) : Prop :=
  exists before after, ds = before ++ d :: after ∧ d.name <+: topic ∧
    (forall b, b ∈ before -> b.name <+: topic -> b.name.length ≤ d.name.length) ∧
    (forall a, a ∈ after -> a.name <+: topic -> a.name.length < d.name.length)

theorem directiveFor_concat (ds : List Directive) (d : Directive) (topic : List Char) :
    directiveFor (ds ++ [d]) topic =
      if d.name.isPrefixOf topic then
        match directiveFor ds topic with
        | some b => if b.name.length ≤ d.name.length then some d else some b
        | none => some d
      else directiveFor ds topic := by
  rw [directiveFor, List.foldl_append, List.foldl_cons, List.foldl_nil, ← directiveFor]
  cases directiveFor ds topic <;> rfl

theorem Decides.mem (h : Decides ds topic d) : d ∈ ds := by
  rcases h with ⟨before, after, rfl, _⟩
  exact List.mem_append_right before List.mem_cons_self

theorem Decides.name_prefix (h : Decides ds topic d) : d.name <+: topic := by
  rcases h with ⟨_, _, _, hname, _⟩
  exact hname

theorem decides_concat_self (hname : d.name <+: topic)
    (hlongest : forall b, b ∈ ds -> b.name <+: topic -> b.name.length ≤ d.name.length) :
    Decides (ds ++ [d]) topic d :=
  ⟨ds, [], rfl, hname, hlongest, nofun⟩

theorem Decides.concat (h : Decides ds topic d)
    (hshorter : d'.name <+: topic -> d'.name.length < d.name.length) :
    Decides (ds ++ [d']) topic d := by
  rcases h with ⟨before, after, rfl, hname, hbefore, hafter⟩
  refine ⟨before, after ++ [d'], by simp, hname, hbefore, fun a ha => ?_⟩
  rcases List.mem_append.mp ha with hmem | hlast
  · exact hafter a hmem
  · rw [List.mem_singleton.mp hlast]
    exact hshorter

theorem Decides.length_le (h : Decides ds topic d) {b : Directive} (hb : b ∈ ds)
    (hname : b.name <+: topic) : b.name.length ≤ d.name.length := by
  rcases h with ⟨before, after, rfl, _, hbefore, hafter⟩
  rcases List.mem_append.mp hb with hmem | hmem
  · exact hbefore b hmem hname
  · rcases List.mem_cons.mp hmem with rfl | hmem
    · exact Nat.le_refl _
    · exact Nat.le_of_lt (hafter b hmem hname)

theorem directiveFor_cases (ds : List Directive) (topic : List Char) :
    directiveFor ds topic = none ∧ (forall d, d ∈ ds -> ¬ d.name <+: topic) ∨
    exists d, directiveFor ds topic = some d ∧ Decides ds topic d := by
  induction ds using List.reverseRecOn with
  | nil => exact Or.inl ⟨rfl, nofun⟩
  | append_singleton ds d ih =>
      rw [directiveFor_concat]
      by_cases hname : d.name <+: topic
      · apply Or.inr
        rw [if_pos (List.isPrefixOf_iff_prefix.mpr hname)]
        rcases ih with ⟨hnone, hnowhere⟩ | ⟨b, hsome, hdecides⟩
        · rw [hnone]
          exact ⟨d, rfl, decides_concat_self hname
            fun b hb hprefix => absurd hprefix (hnowhere b hb)⟩
        · rw [hsome]
          by_cases hlength : b.name.length ≤ d.name.length
          · refine ⟨d, if_pos hlength, decides_concat_self hname fun a ha hprefix => ?_⟩
            exact Nat.le_trans (hdecides.length_le ha hprefix) hlength
          · exact ⟨b, if_neg hlength, hdecides.concat fun _ => Nat.lt_of_not_le hlength⟩
      · rw [if_neg (fun h => hname (List.isPrefixOf_iff_prefix.mp h))]
        rcases ih with ⟨hnone, hnowhere⟩ | ⟨b, hsome, hdecides⟩
        · refine Or.inl ⟨hnone, fun a ha => ?_⟩
          rcases List.mem_append.mp ha with hmem | hlast
          · exact hnowhere a hmem
          · rw [List.mem_singleton.mp hlast]
            exact hname
        · exact Or.inr ⟨b, hsome, hdecides.concat fun hprefix => absurd hprefix hname⟩

/-- No directive is for the topic if none has a name that the topic starts with.  Otherwise the
one that is for it has the longest such name, and is the last one whose name is as long. -/
theorem directiveFor_spec (ds : List Directive) (topic : List Char) :
    (directiveFor ds topic = none ↔ forall d, d ∈ ds -> ¬ d.name <+: topic) ∧
    forall d, directiveFor ds topic = some d -> Decides ds topic d := by
  rcases directiveFor_cases ds topic with ⟨hnone, hnowhere⟩ | ⟨d, hsome, hdecides⟩
  · rw [hnone]
    exact ⟨⟨fun _ => hnowhere, fun _ => rfl⟩, nofun⟩
  · rw [hsome]
    refine ⟨⟨nofun, fun hnowhere => ?_⟩, fun d' h => Option.some.inj h ▸ hdecides⟩
    exact absurd hdecides.name_prefix (hnowhere d hdecides.mem)

end

/-!
## Filters by level
-/

def ofLevel (level : Log.Level) : Filter :=
  ⟨[⟨[], level.verbosity⟩], none⟩

theorem passes_ofLevel (level : Log.Level) (r : Log.Record) :
    (ofLevel level).passes r = decide (r.level.verbosity ≤ level.verbosity) := by
  simp [passes, ofLevel, directiveFor]

theorem parse_debug : parse "debug".toList = ([], ofLevel .debug) := rfl

theorem parse_info : parse "info".toList = ([], ofLevel .info) := rfl

end Filter

/-!
## Whole runs
-/

section

variable {host : Host} {arguments : List String} {i : Invocation}
  (hrun : Request.ofArguments arguments = .run i)
include hrun

/-- Without any filter, exactly the records from a level on are printed, each on lines of its
own: from `debug` on if the invocation is verbose, else from `info` on. -/
theorem err_run_of_no_filter (hfilter : i.filter = none) :
    (run host none arguments).err =
      unlines (((perform host ⟨i.trace, i.logging, false⟩ i.command).records.filter fun r =>
        r.level.verbosity ≤ (if i.verbose then Log.Level.debug else .info).verbosity).map
          recordLine) := by
  have hparse : Filter.parse (i.filterText none).toList =
      ([], .ofLevel (if i.verbose then .debug else .info)) := by
    rw [Invocation.filterText, hfilter]
    cases i.verbose with
    | true => exact Filter.parse_debug
    | false => exact Filter.parse_info
  simp only [run, hrun, hparse, List.nil_append]
  rw [funext (Filter.passes_ofLevel _)]

end

end CommandLine
end EntryStop
