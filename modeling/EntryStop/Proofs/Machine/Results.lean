/-!
# Computations that may fail

What the result of a composed computation says about its parts.  A list is worked through from
its start: either all its elements succeed, or the first one that fails decides.
-/

namespace EntryStop

section

variable {ε δ α β : Type}

/-!
## Results and errors carried over
-/

theorem map_eq_ok_iff {g : α -> β} {r : Except ε α} {b : β} :
    r.map g = .ok b ↔ exists a, r = .ok a ∧ g a = b := by
  cases r with
  | error e =>
      constructor
      · intro h
        cases h
      · intro h
        rcases h with ⟨a, ha, _⟩
        cases ha
  | ok a =>
      constructor
      · intro h
        cases h
        exact ⟨a, rfl, rfl⟩
      · intro h
        rcases h with ⟨a', ha, hb⟩
        cases ha
        exact congrArg Except.ok hb

theorem map_eq_error_iff {g : α -> β} {r : Except ε α} {e : ε} :
    r.map g = .error e ↔ r = .error e := by
  cases r with
  | error e' => rw [Except.map, Except.error.injEq, Except.error.injEq]
  | ok a => exact ⟨fun h => (nomatch h), fun h => (nomatch h)⟩

theorem mapError_eq_ok_iff {f : ε -> δ} {r : Except ε α} {a : α} :
    r.mapError f = .ok a ↔ r = .ok a := by
  cases r with
  | error e =>
      constructor
      · intro h
        cases h
      · intro h
        cases h
  | ok b =>
      constructor
      · intro h
        cases h
        rfl
      · intro h
        cases h
        rfl

theorem toOption_eq_some_iff {r : Except ε α} {a : α} : r.toOption = some a ↔ r = .ok a := by
  cases r with
  | error e => exact iff_of_false nofun nofun
  | ok b => rw [Except.toOption, Option.some.injEq, Except.ok.injEq]

/-!
## Lists
-/

variable {f : α -> Except ε β} {x : α} {xs : List α} {ys : List β} {e : ε}

theorem mapM_cons_of_error (hx : f x = .error e) (xs : List α) :
    (x :: xs).mapM f = .error e := by
  rw [List.mapM_cons, hx]
  rfl

theorem mapM_cons_of_ok {y : β} (hx : f x = .ok y) (xs : List α) :
    (x :: xs).mapM f = (xs.mapM f).map (y :: ·) := by
  rw [List.mapM_cons, hx]
  cases xs.mapM f with
  | error e => rfl
  | ok ys => rfl

theorem mapM_append_of_error (hxs : xs.mapM f = .error e) (rest : List α) :
    (xs ++ rest).mapM f = .error e := by
  rw [List.mapM_append, hxs]
  rfl

theorem mapM_append_of_ok (hxs : xs.mapM f = .ok ys) (rest : List α) :
    (xs ++ rest).mapM f = (rest.mapM f).map (ys ++ ·) := by
  rw [List.mapM_append, hxs]
  cases rest.mapM f with
  | error e => rfl
  | ok zs => rfl

theorem mapM_eq_ok_iff : xs.mapM f = .ok ys ↔ xs.map f = ys.map .ok := by
  induction xs generalizing ys with
  | nil =>
      cases ys with
      | nil => exact iff_of_true rfl rfl
      | cons y ys => exact iff_of_false nofun nofun
  | cons x xs ih =>
      cases hx : f x with
      | error e =>
          rw [mapM_cons_of_error hx, List.map_cons, hx]
          cases ys with
          | nil => exact iff_of_false nofun nofun
          | cons y ys => exact iff_of_false nofun fun h => nomatch (List.cons.inj h).left
      | ok y =>
          rw [mapM_cons_of_ok hx, map_eq_ok_iff, List.map_cons, hx]
          constructor
          · intro h
            rcases h with ⟨zs, hzs, rfl⟩
            rw [ih.mp hzs, List.map_cons]
          · intro h
            cases ys with
            | nil => cases h
            | cons z zs =>
                rcases List.cons.inj h with ⟨hy, hzs⟩
                cases hy
                exact ⟨zs, ih.mpr hzs, rfl⟩

theorem mapM_eq_error_iff :
    xs.mapM f = .error e ↔
      exists before x after, xs = before ++ x :: after ∧
        (forall y, y ∈ before -> exists z, f y = .ok z) ∧ f x = .error e := by
  induction xs with
  | nil =>
      constructor
      · intro h
        cases h
      · intro h
        rcases h with ⟨before, x, after, hnil, _⟩
        cases (List.append_eq_nil_iff.mp hnil.symm).right
  | cons x xs ih =>
      cases hx : f x with
      | error d =>
          rw [mapM_cons_of_error hx]
          constructor
          · intro h
            cases h
            exact ⟨[], x, xs, rfl, nofun, hx⟩
          · intro h
            rcases h with ⟨before, y, after, hxs, hbefore, hy⟩
            cases before with
            | nil =>
                cases hxs
                cases hx.symm.trans hy
                rfl
            | cons z before =>
                cases hxs
                rcases hbefore x List.mem_cons_self with ⟨z, hz⟩
                cases hx.symm.trans hz
      | ok z =>
          rw [mapM_cons_of_ok hx, map_eq_error_iff, ih]
          constructor
          · intro h
            rcases h with ⟨before, y, after, rfl, hbefore, hy⟩
            exact ⟨x :: before, y, after, rfl,
              List.forall_mem_cons.mpr ⟨⟨z, hx⟩, hbefore⟩, hy⟩
          · intro h
            rcases h with ⟨before, y, after, hxs, hbefore, hy⟩
            cases before with
            | nil =>
                cases hxs
                cases hx.symm.trans hy
            | cons w before =>
                cases hxs
                exact ⟨before, y, after, rfl, (List.forall_mem_cons.mp hbefore).right, hy⟩

theorem none_or_exists_first (p : α -> Prop) (xs : List α) :
    (forall x, x ∈ xs -> ¬ p x) ∨
      exists before x after, xs = before ++ x :: after ∧ (forall y, y ∈ before -> ¬ p y) ∧
        p x := by
  induction xs with
  | nil => exact Or.inl nofun
  | cons x xs ih =>
      by_cases hx : p x
      · exact Or.inr ⟨[], x, xs, rfl, nofun, hx⟩
      · rcases ih with hnone | ⟨before, y, after, rfl, hbefore, hy⟩
        · exact Or.inl (List.forall_mem_cons.mpr ⟨hx, hnone⟩)
        · exact Or.inr ⟨x :: before, y, after, rfl,
            List.forall_mem_cons.mpr ⟨hx, hbefore⟩, hy⟩

end

end EntryStop
