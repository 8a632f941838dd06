import EntryStop.Machine.Word

/-!
# Word memory

The words of a process at the addresses that are mapped.  The cells are listed
by rising address when they are built with `set`.
-/

namespace EntryStop

structure Memory where
  cells : List (Address × Word)
  deriving DecidableEq, Repr

namespace Memory

def empty : Memory := ⟨[]⟩

def find : List (Address × Word) -> Address -> Option Word
  | [], _ => none
  | (a, w) :: cells, b => if a = b then some w else find cells b

def store : List (Address × Word) -> Address -> Word -> List (Address × Word)
  | [], b, v => [(b, v)]
  | (a, w) :: cells, b, v =>
      if a = b then (b, v) :: cells
      else if b < a then (b, v) :: (a, w) :: cells
      else (a, w) :: store cells b v

def get? (m : Memory) (a : Address) : Option Word :=
  find m.cells a

def set (m : Memory) (a : Address) (w : Word) : Memory :=
  ⟨store m.cells a w⟩

def ofList (cells : List (Address × Word)) : Memory :=
  cells.foldl (fun m (a, w) => m.set a w) empty

/-!
## Reading after writing
-/

theorem find_store_self (cells : List (Address × Word)) (a : Address) (w : Word) :
    find (store cells a w) a = some w := by
  induction cells with
  | nil => simp [store, find]
  | cons cell cells ih =>
      simp only [store]
      split
      · simp [find]
      · split
        · simp [find]
        · simp [find, *]

theorem find_store_of_ne {a b : Address} (h : b ≠ a)
    (cells : List (Address × Word)) (w : Word) :
    find (store cells a w) b = find cells b := by
  induction cells with
  | nil => simp [store, find, Ne.symm h]
  | cons cell cells ih =>
      simp only [store]
      split
      · next heq => simp [find, heq, Ne.symm h]
      · split
        · simp [find, Ne.symm h]
        · simp [find, ih]

@[simp] theorem get?_set_self (m : Memory) (a : Address) (w : Word) :
    (m.set a w).get? a = some w :=
  find_store_self m.cells a w

theorem get?_set_of_ne {a b : Address} (h : b ≠ a) (m : Memory) (w : Word) :
    (m.set a w).get? b = m.get? b :=
  find_store_of_ne h m.cells w

theorem get?_set_set {m : Memory} {a : Address} {w : Word} (h : m.get? a = some w)
    (v : Word) (b : Address) : ((m.set a v).set a w).get? b = m.get? b := by
  by_cases hb : b = a
  · subst hb
    rw [get?_set_self, h]
  · rw [get?_set_of_ne hb, get?_set_of_ne hb]

end Memory
end EntryStop
