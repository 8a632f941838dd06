import EntryStop.Host.Scope
import EntryStop.Proofs.Machine.Results

/-!
# The one warning about the scope

Whether children may be traced is decided from the request alone.  The first request that a
replaying program makes and that is refused for its level gives the warning, and no other
request does.
-/

namespace EntryStop
namespace Scope

/-!
## Single requests
-/

def Request.permitted (r : Request) : Bool :=
  r.enabled && r.level ≤ 1

def Request.Warns (r : Request) : Prop :=
  r.restricted = true ∧ r.replay = true

def silently (warned : Bool) (r : Request) : Decision :=
  ⟨r.permitted, warned, []⟩

section

variable {r : Request} {rs : List Request} {warned : Bool}

theorem restricted_iff : r.restricted = true ↔ r.enabled = true ∧ 1 < r.level := by
  rw [Request.restricted, Bool.and_eq_true, decide_eq_true_eq]

theorem decide_of_disabled (h : r.enabled = false) : decide warned r = silently warned r := by
  rw [decide, silently, Request.permitted, h]
  rfl

theorem decide_of_low_level (henabled : r.enabled = true) (hlevel : ¬ 1 < r.level) :
    decide warned r = silently warned r := by
  have hlow : Decidable.decide (r.level ≤ 1) = true := decide_eq_true (Int32.not_lt.mp hlevel)
  rw [decide, henabled, if_neg (by decide), if_neg hlevel, silently, Request.permitted, henabled,
    hlow]
  rfl

theorem permitted_of_restricted (h : r.restricted = true) : r.permitted = false := by
  rcases restricted_iff.mp h with ⟨henabled, hlevel⟩
  have hhigh : Decidable.decide (r.level ≤ 1) = false :=
    decide_eq_false fun hle => Int32.not_lt.mpr hle hlevel
  rw [Request.permitted, henabled, hhigh]
  rfl

theorem decide_of_restricted (h : r.restricted = true) :
    decide warned r =
      if r.replay && !warned then ⟨false, true, [⟨r.level⟩]⟩ else silently warned r := by
  rcases restricted_iff.mp h with ⟨henabled, hlevel⟩
  rw [decide, henabled, if_neg (by decide), if_pos hlevel, silently, permitted_of_restricted h]

theorem decide_of_warns (h : r.Warns) : decide false r = ⟨false, true, [⟨r.level⟩]⟩ := by
  rw [decide_of_restricted h.left, h.right]
  rfl

theorem decide_eq_silently (h : ¬ r.Warns ∨ warned = true) :
    decide warned r = silently warned r := by
  cases henabled : r.enabled with
  | false => exact decide_of_disabled henabled
  | true =>
      by_cases hlevel : 1 < r.level
      · have hrestricted : r.restricted = true := restricted_iff.mpr ⟨henabled, hlevel⟩
        rw [decide_of_restricted hrestricted, if_neg]
        intro hboth
        rcases Bool.and_eq_true_iff.mp hboth with ⟨hreplay, hfirst⟩
        rcases h with hquiet | hwarned
        · exact hquiet ⟨hrestricted, hreplay⟩
        · rw [hwarned] at hfirst
          cases hfirst
      · exact decide_of_low_level henabled hlevel

theorem allowed_decide (warned : Bool) (r : Request) :
    (decide warned r).allowed = r.permitted := by
  by_cases h : r.restricted = true
  · rw [decide_of_restricted h, permitted_of_restricted h]
    split
    · rfl
    · exact permitted_of_restricted h
  · rw [decide_eq_silently (Or.inl fun hwarns => h hwarns.left), silently]

/-!
## Runs of requests
-/

theorem decideAll_cons (warned : Bool) (r : Request) (rs : List Request) :
    decideAll warned (r :: rs) = decide warned r :: decideAll (decide warned r).warned rs :=
  rfl

theorem map_allowed_decideAll (warned : Bool) (rs : List Request) :
    (decideAll warned rs).map Decision.allowed = rs.map Request.permitted := by
  induction rs generalizing warned with
  | nil => rfl
  | cons r rs ih =>
      rw [decideAll_cons, List.map_cons, List.map_cons, allowed_decide, ih]

theorem decideAll_append_of_silent {front : List Request}
    (h : (forall r, r ∈ front -> ¬ r.Warns) ∨ warned = true) (rest : List Request) :
    decideAll warned (front ++ rest) =
      front.map (silently warned) ++ decideAll warned rest := by
  induction front with
  | nil => rfl
  | cons r front ih =>
      have hhead : ¬ r.Warns ∨ warned = true := h.imp_left fun hall => hall r List.mem_cons_self
      have htail := ih (h.imp_left fun hall s hs => hall s (List.mem_cons_of_mem r hs))
      rw [List.cons_append, decideAll_cons, decide_eq_silently hhead, silently, htail,
        List.map_cons, List.cons_append, silently]

theorem decideAll_of_silent (h : (forall r, r ∈ rs -> ¬ r.Warns) ∨ warned = true) :
    decideAll warned rs = rs.map (silently warned) := by
  have hall := decideAll_append_of_silent h []
  rw [List.append_nil] at hall
  exact hall.trans (List.append_nil _)

theorem flatMap_warnings_silently (warned : Bool) (rs : List Request) :
    (rs.map (silently warned)).flatMap Decision.warnings = [] := by
  rw [List.flatMap_eq_nil_iff]
  intro d hd
  rcases List.mem_map.mp hd with ⟨_, _, rfl⟩
  rfl

/-- Each answer is that of its request alone.  Either no request warns, and no warning is
given.  Or some request is the first that warns: it gives one warning with its level, and the
decisions before it and behind it are silent. -/
theorem first_refusal_warns (rs : List Request) :
    (forall warned, (decideAll warned rs).map Decision.allowed = rs.map Request.permitted) ∧
    (((forall r, r ∈ rs -> ¬ r.Warns) ∧ decideAll false rs = rs.map (silently false)) ∨
      exists before r after, rs = before ++ r :: after ∧
        (forall other, other ∈ before -> ¬ other.Warns) ∧ r.Warns ∧
        decideAll false rs =
          before.map (silently false) ++
            ⟨false, true, [⟨r.level⟩]⟩ :: after.map (silently true) ∧
        (decideAll false rs).flatMap Decision.warnings = [⟨r.level⟩] ∧
        (Warning.mk r.level).record.level = .warn) := by
  refine ⟨fun warned => map_allowed_decideAll warned rs, ?_⟩
  rcases none_or_exists_first Request.Warns rs with
    hnone | ⟨before, r, after, rfl, hbefore, hwarns⟩
  · exact Or.inl ⟨hnone, decideAll_of_silent (Or.inl hnone)⟩
  · have hdecisions : decideAll false (before ++ r :: after) =
        before.map (silently false) ++
          ⟨false, true, [⟨r.level⟩]⟩ :: after.map (silently true) := by
      rw [decideAll_append_of_silent (Or.inl hbefore), decideAll_cons, decide_of_warns hwarns,
        decideAll_of_silent (Or.inr rfl)]
    refine Or.inr ⟨before, r, after, rfl, hbefore, hwarns, hdecisions, ?_, rfl⟩
    rw [hdecisions, List.flatMap_append, List.flatMap_cons, flatMap_warnings_silently,
      flatMap_warnings_silently]
    rfl

end

example :
    decideAll false [⟨true, 1, true⟩, ⟨true, 2, false⟩, ⟨true, 3, true⟩, ⟨true, 2, true⟩] =
      [⟨true, false, []⟩, ⟨false, false, []⟩, ⟨false, true, [⟨3⟩]⟩, ⟨false, true, []⟩] :=
  rfl

end Scope
end EntryStop
