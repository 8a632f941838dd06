import EntryStop.IdentPort.Backoff
import Mathlib.Algebra.Order.Ring.Nat

/-!
# Courses of a retried command

The runs of a command are numbered from zero.  A retry ends with the first run that prints
something, with the last run that is allowed, or with a delay that cannot be doubled.  These
are all the courses that it can take, and each is taken under a condition of its own.
-/

namespace EntryStop
namespace Backoff

/-!
## Outputs
-/

def PrintsAt (outputs : List (Option (List Char))) (k : Nat) (text : List Char) : Prop :=
  outputs.getD k none = some text ∧ text ≠ []

def SilentAt (outputs : List (Option (List Char))) (k : Nat) : Prop :=
  forall text, ¬ PrintsAt outputs k text

structure FirstPrint (outputs : List (Option (List Char))) (k : Nat) (text : List Char) :
    Prop where
  prints : PrintsAt outputs k text
  silent : forall j, j < k -> SilentAt outputs j

section

variable {outputs others : List (Option (List Char))} {text text' : List Char} {k k' : Nat}

theorem printsAt_iff :
    PrintsAt outputs k text ↔ printed (outputs.getD k none) = some text := by
  rw [PrintsAt, printed, Option.filter_eq_some_iff, Bool.not_eq_true', ← Bool.not_eq_true,
    List.isEmpty_iff]

theorem silentAt_iff : SilentAt outputs k ↔ printed (outputs.getD k none) = none := by
  rw [Option.eq_none_iff_forall_ne_some]
  exact forall_congr' fun text => not_congr printsAt_iff

instance (outputs : List (Option (List Char))) (k : Nat) : Decidable (SilentAt outputs k) :=
  decidable_of_iff _ silentAt_iff.symm

theorem getD_zero (outputs : List (Option (List Char))) :
    outputs.getD 0 none = outputs.headD none := by
  cases outputs with
  | nil => rfl
  | cons output outputs => rfl

theorem printsAt_succ_iff : PrintsAt outputs (k + 1) text ↔ PrintsAt outputs.tail k text := by
  cases outputs with
  | nil => exact Iff.rfl
  | cons output outputs => exact Iff.rfl

theorem silentAt_succ_iff : SilentAt outputs (k + 1) ↔ SilentAt outputs.tail k :=
  forall_congr' fun _ => not_congr printsAt_succ_iff

theorem silentAt_of_tail (hzero : SilentAt outputs 0)
    (htail : forall j, j < k -> SilentAt outputs.tail j) {j : Nat} (hj : j < k + 1) :
    SilentAt outputs j := by
  cases j with
  | zero => exact hzero
  | succ j => exact silentAt_succ_iff.mpr (htail j (Nat.lt_of_succ_lt_succ hj))

theorem FirstPrint.succ (hzero : SilentAt outputs 0) (h : FirstPrint outputs.tail k text) :
    FirstPrint outputs (k + 1) text where
  prints := printsAt_succ_iff.mpr h.prints
  silent _ hj := silentAt_of_tail hzero h.silent hj

theorem FirstPrint.unique (h : FirstPrint outputs k text) (h' : FirstPrint outputs k' text') :
    k = k' ∧ text = text' := by
  have hk : k = k' := by
    rcases Nat.lt_trichotomy k k' with hlt | heq | hgt
    · exact absurd h.prints (h'.silent k hlt text)
    · exact heq
    · exact absurd h'.prints (h.silent k' hgt text')
  subst hk
  exact ⟨rfl, Option.some.inj (h.prints.left.symm.trans h'.prints.left)⟩

theorem exists_firstPrint_or_silent (outputs : List (Option (List Char))) (attempts : Nat) :
    (exists k text, k < attempts ∧ FirstPrint outputs k text) ∨
      forall j, j < attempts -> SilentAt outputs j := by
  induction attempts with
  | zero => exact Or.inr fun j hj => absurd hj (Nat.not_lt_zero j)
  | succ attempts ih =>
      rcases ih with ⟨k, text, hk, hfirst⟩ | hsilent
      · exact Or.inl ⟨k, text, Nat.lt_succ_of_lt hk, hfirst⟩
      · by_cases hprints : exists text, PrintsAt outputs attempts text
        · rcases hprints with ⟨text, htext⟩
          exact Or.inl ⟨attempts, text, Nat.lt_succ_self attempts, htext, hsilent⟩
        · apply Or.inr
          intro j hj
          rcases Nat.lt_or_eq_of_le (Nat.le_of_lt_succ hj) with hlt | heq
          · exact hsilent j hlt
          · rw [heq]
            exact fun text htext => hprints ⟨text, htext⟩

end

/-!
## Delays
-/

def delays (delay : Delay) (count : Nat) : List Delay :=
  (List.range count).map fun j => 2 ^ j * delay

/-- After each of so many waits the delay can be doubled. -/
def Fits (delay : Delay) (count : Nat) : Prop :=
  forall j, j < count -> 2 ^ (j + 1) * delay < delayLimit

instance (delay : Delay) (count : Nat) : Decidable (Fits delay count) :=
  inferInstanceAs (Decidable (forall j, j < count -> 2 ^ (j + 1) * delay < delayLimit))

theorem two_pow_succ_mul (delay : Delay) (j : Nat) :
    2 ^ (j + 1) * delay = 2 ^ j * (2 * delay) := by
  rw [Nat.pow_succ, Nat.mul_assoc]

theorem delays_zero (delay : Delay) : delays delay 0 = [] := rfl

theorem delays_succ (delay : Delay) (count : Nat) :
    delays delay (count + 1) = delay :: delays (2 * delay) count := by
  rw [delays, List.range_succ_eq_map, List.map_cons, List.map_map, Nat.pow_zero, Nat.one_mul]
  congr 1
  exact List.map_congr_left fun j _ => two_pow_succ_mul delay j

theorem fits_zero (delay : Delay) : Fits delay 0 := by
  intro j hj
  exact absurd hj (Nat.not_lt_zero j)

theorem fits_succ {delay : Delay} {count : Nat} (hdouble : 2 * delay < delayLimit)
    (h : Fits (2 * delay) count) : Fits delay (count + 1) := by
  intro j hj
  rw [two_pow_succ_mul]
  cases j with
  | zero =>
      rw [Nat.pow_zero, Nat.one_mul]
      exact hdouble
  | succ j => exact h j (Nat.lt_of_succ_lt_succ hj)

theorem double?_eq_some_iff {delay next : Delay} :
    double? delay = some next ↔ 2 * delay < delayLimit ∧ next = 2 * delay := by
  unfold double?
  by_cases hfits : 2 * delay < delayLimit
  · rw [if_pos hfits, Option.some.injEq, eq_comm]
    exact (and_iff_right hfits).symm
  · rw [if_neg hfits]
    constructor
    · intro h
      cases h
    · intro h
      exact absurd h.left hfits

theorem double?_eq_none_iff {delay : Delay} :
    double? delay = none ↔ delayLimit ≤ 2 * delay := by
  unfold double?
  by_cases hfits : 2 * delay < delayLimit
  · rw [if_pos hfits]
    constructor
    · intro h
      cases h
    · intro h
      exact absurd hfits (Nat.not_lt.mpr h)
  · rw [if_neg hfits]
    exact iff_of_true rfl (Nat.not_lt.mp hfits)

/-!
## Courses
-/

/-- The run `j` is silent like all before it, another one is due after the delay, and this
is the first delay that cannot be doubled. -/
structure OverflowsAt (attempts : Nat) (delay : Delay) (outputs : List (Option (List Char)))
    (j : Nat) : Prop where
  goesOn : j + 1 < attempts
  silent : forall i, i < j + 1 -> SilentAt outputs i
  fits : Fits delay j
  overflow : delayLimit ≤ 2 ^ (j + 1) * delay

inductive Course (attempts : Nat) (delay : Delay) (outputs : List (Option (List Char))) :
    Retried -> Prop where
  | printed {k : Nat} {text : List Char} (hk : k < attempts)
      (hfirst : FirstPrint outputs k text) (hfits : Fits delay k) :
      Course attempts delay outputs ⟨.ok (some text), k + 1, delays delay k⟩
  | silent (hsilent : forall j, j < attempts -> SilentAt outputs j)
      (hfits : Fits delay (attempts - 1)) :
      Course attempts delay outputs ⟨.ok none, attempts, delays delay (attempts - 1)⟩
  | overflow {j : Nat} (h : OverflowsAt attempts delay outputs j) :
      Course attempts delay outputs ⟨.error .delayOverflow, j + 1, delays delay (j + 1)⟩

section

variable {attempts : Nat} {delay : Delay} {outputs others : List (Option (List Char))}
  {text : List Char} {r s : Retried} {i j k : Nat}

theorem OverflowsAt.succ (hzero : SilentAt outputs 0) (hdouble : 2 * delay < delayLimit)
    (h : OverflowsAt attempts (2 * delay) outputs.tail j) :
    OverflowsAt (attempts + 1) delay outputs (j + 1) where
  goesOn := Nat.succ_lt_succ h.goesOn
  silent _ hi := silentAt_of_tail hzero h.silent hi
  fits := fits_succ hdouble h.fits
  overflow := by
    rw [two_pow_succ_mul]
    exact h.overflow

theorem retry_one_of_silent (hsilent : printed (outputs.headD none) = none) (delay : Delay) :
    retry 1 delay outputs = ⟨.ok none, 1, []⟩ := by
  simp only [retry, hsilent, if_true]

theorem retry_of_overflow (hsilent : printed (outputs.headD none) = none)
    (hattempts : attempts ≠ 0) (hdouble : double? delay = none) :
    retry (attempts + 1) delay outputs = ⟨.error .delayOverflow, 1, [delay]⟩ := by
  simp only [retry, hsilent, if_neg hattempts, hdouble]

theorem retry_of_double {next : Delay} (hsilent : printed (outputs.headD none) = none)
    (hattempts : attempts ≠ 0) (hdouble : double? delay = some next) :
    retry (attempts + 1) delay outputs =
      ⟨(retry attempts next outputs.tail).output, (retry attempts next outputs.tail).runs + 1,
        delay :: (retry attempts next outputs.tail).waits⟩ := by
  simp only [retry, hsilent, if_neg hattempts, hdouble]

theorem Course.succ (hattempts : attempts ≠ 0) (hzero : SilentAt outputs 0)
    (hdouble : 2 * delay < delayLimit) (h : Course attempts (2 * delay) outputs.tail r) :
    Course (attempts + 1) delay outputs ⟨r.output, r.runs + 1, delay :: r.waits⟩ := by
  cases h with
  | printed hk hfirst hfits =>
      rw [← delays_succ]
      exact .printed (Nat.succ_lt_succ hk) (hfirst.succ hzero) (fits_succ hdouble hfits)
  | silent hsilent hfits =>
      have hpred : attempts - 1 + 1 = attempts := Nat.succ_pred_eq_of_ne_zero hattempts
      have hmore := fits_succ hdouble hfits
      rw [← delays_succ, hpred]
      rw [hpred] at hmore
      exact .silent (fun j hj => silentAt_of_tail hzero hsilent hj) hmore
  | overflow h =>
      rw [← delays_succ]
      exact .overflow (h.succ hzero hdouble)

theorem course_retry (attempts : Nat) (delay : Delay) (outputs : List (Option (List Char))) :
    Course attempts delay outputs (retry attempts delay outputs) := by
  induction attempts generalizing delay outputs with
  | zero => exact .silent (fun j hj => absurd hj (Nat.not_lt_zero j)) (fits_zero delay)
  | succ attempts ih =>
      cases hprinted : printed (outputs.headD none) with
      | some text =>
          rw [retry_of_printed hprinted]
          exact .printed (Nat.succ_pos attempts)
            ⟨printsAt_iff.mpr (getD_zero outputs ▸ hprinted), fun j hj => absurd hj (Nat.not_lt_zero j)⟩
            (fits_zero delay)
      | none =>
          have hzero : SilentAt outputs 0 := silentAt_iff.mpr (getD_zero outputs ▸ hprinted)
          have hsilent : forall i, i < 1 -> SilentAt outputs i :=
            fun i hi => (Nat.lt_one_iff.mp hi).symm ▸ hzero
          by_cases hlast : attempts = 0
          · subst hlast
            rw [retry_one_of_silent hprinted]
            exact .silent hsilent (fits_zero delay)
          · cases hdouble : double? delay with
            | none =>
                have hoverflow : OverflowsAt (attempts + 1) delay outputs 0 :=
                  ⟨Nat.succ_lt_succ (Nat.pos_of_ne_zero hlast), hsilent, fits_zero delay,
                    double?_eq_none_iff.mp hdouble⟩
                have hcourse := Course.overflow hoverflow
                rw [delays_succ, delays_zero] at hcourse
                rw [retry_of_overflow hprinted hlast hdouble]
                exact hcourse
            | some next =>
                rw [retry_of_double hprinted hlast hdouble]
                rcases double?_eq_some_iff.mp hdouble with ⟨hfits, hnext⟩
                subst hnext
                exact (ih (2 * delay) outputs.tail).succ hlast hzero hfits

/-!
## One course only
-/

theorem Fits.mono (h : Fits delay k) (hle : j ≤ k) : Fits delay j :=
  fun i hi => h i (Nat.lt_of_lt_of_le hi hle)

theorem OverflowsAt.le_of_fits (h : OverflowsAt attempts delay outputs j)
    (hfits : Fits delay k) : k ≤ j := by
  refine Nat.le_of_not_lt ?_
  intro hlt
  exact absurd (hfits j hlt) (Nat.not_lt.mpr h.overflow)

theorem OverflowsAt.lt_of_firstPrint (h : OverflowsAt attempts delay outputs j)
    (hfirst : FirstPrint outputs k text) : j < k := by
  refine Nat.lt_of_not_le ?_
  intro hle
  exact h.silent k (Nat.lt_succ_of_le hle) text hfirst.prints

theorem OverflowsAt.unique (hj : OverflowsAt attempts delay outputs j)
    (hk : OverflowsAt attempts delay outputs k) : j = k :=
  Nat.le_antisymm (hk.le_of_fits hj.fits) (hj.le_of_fits hk.fits)

theorem Course.eq_of_printed (h : Course attempts delay outputs r) (hk : k < attempts)
    (hfirst : FirstPrint outputs k text) (hfits : Fits delay k) :
    r = ⟨.ok (some text), k + 1, delays delay k⟩ := by
  cases h with
  | printed _ hother _ =>
      rcases hother.unique hfirst with ⟨hk, htext⟩
      rw [hk, htext]
  | silent hsilent _ => exact absurd hfirst.prints (hsilent k hk text)
  | overflow h =>
      exact absurd (h.le_of_fits hfits) (Nat.not_le.mpr (h.lt_of_firstPrint hfirst))

theorem Course.eq_of_silent (h : Course attempts delay outputs r)
    (hsilent : forall j, j < attempts -> SilentAt outputs j) (hfits : Fits delay (attempts - 1)) :
    r = ⟨.ok none, attempts, delays delay (attempts - 1)⟩ := by
  cases h with
  | printed hk hfirst _ => exact absurd hfirst.prints (hsilent _ hk _)
  | silent _ _ => rfl
  | overflow h =>
      have hle := h.le_of_fits hfits
      exact absurd h.goesOn (Nat.not_lt.mpr (Nat.le_succ_of_pred_le hle))

theorem Course.eq_of_overflow (h : Course attempts delay outputs r)
    (hoverflow : OverflowsAt attempts delay outputs j) :
    r = ⟨.error .delayOverflow, j + 1, delays delay (j + 1)⟩ := by
  cases h with
  | printed _ hfirst hfits =>
      exact absurd (hoverflow.le_of_fits hfits)
        (Nat.not_le.mpr (hoverflow.lt_of_firstPrint hfirst))
  | silent _ hfits =>
      have hle := hoverflow.le_of_fits hfits
      exact absurd hoverflow.goesOn (Nat.not_lt.mpr (Nat.le_succ_of_pred_le hle))
  | overflow hother => rw [hother.unique hoverflow]

theorem Course.unique (hr : Course attempts delay outputs r)
    (hs : Course attempts delay outputs s) : r = s := by
  cases hs with
  | printed hk hfirst hfits => exact hr.eq_of_printed hk hfirst hfits
  | silent hsilent hfits => exact hr.eq_of_silent hsilent hfits
  | overflow hoverflow => exact hr.eq_of_overflow hoverflow

theorem Course.exists_overflow {fault : Fault} (h : Course attempts delay outputs r)
    (hfault : r.output = .error fault) :
    fault = .delayOverflow ∧ exists j, OverflowsAt attempts delay outputs j := by
  cases h with
  | printed _ _ _ => cases hfault
  | silent _ _ => cases hfault
  | overflow hoverflow =>
      cases hfault
      exact ⟨rfl, _, hoverflow⟩

theorem Course.congr (h : Course attempts delay outputs r)
    (hsame : forall j, j < attempts -> others.getD j none = outputs.getD j none) :
    Course attempts delay others r := by
  have hsilent : forall j, j < attempts -> SilentAt outputs j -> SilentAt others j := by
    intro j hj h text htext
    exact h text ⟨(hsame j hj).symm.trans htext.left, htext.right⟩
  cases h with
  | printed hk hfirst hfits =>
      refine .printed hk ⟨?_, ?_⟩ hfits
      · exact ⟨(hsame _ hk).trans hfirst.prints.left, hfirst.prints.right⟩
      · intro j hj
        exact hsilent j (Nat.lt_trans hj hk) (hfirst.silent j hj)
  | silent hall hfits => exact .silent (fun j hj => hsilent j hj (hall j hj)) hfits
  | overflow h =>
      refine .overflow ⟨h.goesOn, ?_, h.fits, h.overflow⟩
      intro i hi
      exact hsilent i (Nat.lt_trans hi h.goesOn) (h.silent i hi)

end

/-!
## Retries
-/

section

variable (attempts : Nat) (delay : Delay) (outputs : List (Option (List Char)))

/-- A retry ends with the first run that prints something, or after all runs; it waits for
the delay and its doubles between the runs.  It fails exactly if one of these has to be
doubled beyond the limit, and then right after that delay.  Runs that are not allowed do not
matter. -/
theorem retry_takes_its_course :
    (forall k text, k < attempts -> FirstPrint outputs k text -> Fits delay k ->
      retry attempts delay outputs = ⟨.ok (some text), k + 1, delays delay k⟩) ∧
    ((forall j, j < attempts -> SilentAt outputs j) -> Fits delay (attempts - 1) ->
      retry attempts delay outputs = ⟨.ok none, attempts, delays delay (attempts - 1)⟩) ∧
    (forall fault, (retry attempts delay outputs).output = .error fault ↔
      fault = .delayOverflow ∧ exists j, OverflowsAt attempts delay outputs j) ∧
    (forall j, OverflowsAt attempts delay outputs j ->
      retry attempts delay outputs =
        ⟨.error .delayOverflow, j + 1, delays delay (j + 1)⟩) ∧
    forall others, (forall j, j < attempts -> others.getD j none = outputs.getD j none) ->
      retry attempts delay others = retry attempts delay outputs := by
  have hcourse := course_retry attempts delay outputs
  refine ⟨?_, ?_, ?_, ?_, ?_⟩
  · intro k text hk hfirst hfits
    exact hcourse.eq_of_printed hk hfirst hfits
  · exact hcourse.eq_of_silent
  · intro fault
    constructor
    · exact hcourse.exists_overflow
    · intro h
      rcases h with ⟨hfault, j, hoverflow⟩
      rw [hcourse.eq_of_overflow hoverflow, hfault]
  · intro j hoverflow
    exact hcourse.eq_of_overflow hoverflow
  · intro others hsame
    have hother := course_retry attempts delay others
    exact (hother.congr fun j hj => (hsame j hj).symm).unique hcourse

end

/-- The longest delay that can be doubled twice. -/
def doubledTwice : Delay := 4611686018427387903999999999

def lateOutputs : List (Option (List Char)) := [none, some [], some ['p']]

theorem retry_takes_its_course_doubledTwice :
    FirstPrint lateOutputs 2 ['p'] ∧ Fits doubledTwice 2 ∧
      retry 3 doubledTwice lateOutputs =
        ⟨.ok (some ['p']), 3, delays doubledTwice 2⟩ ∧
      OverflowsAt 3 (doubledTwice + 1) lateOutputs 1 ∧
      retry 3 (doubledTwice + 1) lateOutputs =
        ⟨.error .delayOverflow, 2, delays (doubledTwice + 1) 2⟩ := by
  have hfirst : FirstPrint lateOutputs 2 ['p'] := ⟨⟨rfl, by decide⟩, by decide⟩
  have hfits : Fits doubledTwice 2 := by decide
  have hoverflow : OverflowsAt 3 (doubledTwice + 1) lateOutputs 1 :=
    ⟨by decide, by decide, by decide, by decide⟩
  have hcourse := retry_takes_its_course 3 doubledTwice lateOutputs
  have hlonger := retry_takes_its_course 3 (doubledTwice + 1) lateOutputs
  exact ⟨hfirst, hfits, hcourse.left 2 ['p'] (by decide) hfirst hfits, hoverflow,
    hlonger.right.right.right.left 1 hoverflow⟩

end Backoff
end EntryStop
