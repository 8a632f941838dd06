import EntryStop.Tracing.Notice

/-!
# Notices that are more than details
-/

namespace EntryStop
namespace Notice

theorem essential_append (ms ns : List Notice) :
    essential (ms ++ ns) = essential ms ++ essential ns :=
  List.filter_append ms ns

theorem essential_append_of_details {ns : List Notice}
    (h : essential ns = []) (ms : List Notice) :
    essential (ms ++ ns) = essential ms := by
  rw [essential_append, h, List.append_nil]

theorem essential_singleton {n : Notice} (h : n.isDetail = false) :
    essential [n] = [n] := by
  simp [essential, h]

theorem essential_singleton_of_isDetail {n : Notice} (h : n.isDetail = true) :
    essential [n] = [] := by
  simp [essential, h]

theorem essential_concat {n : Notice} (h : n.isDetail = false) (ns : List Notice) :
    essential (ns ++ [n]) = essential ns ++ [n] := by
  rw [essential_append, essential_singleton h]

theorem essential_concat_of_isDetail {n : Notice} (h : n.isDetail = true)
    (ns : List Notice) : essential (ns ++ [n]) = essential ns :=
  essential_append_of_details (essential_singleton_of_isDetail h) ns

/-- A choice that takes no detail is the same among the notices that are more. -/
theorem filter_essential {p : Notice -> Bool} (hp : forall n, p n = true -> n.isDetail = false)
    (ns : List Notice) : (essential ns).filter p = ns.filter p := by
  rw [essential, List.filter_filter]
  apply List.filter_congr
  intro n _
  cases hn : p n with
  | false => rfl
  | true =>
      rw [hp n hn]
      rfl

theorem mem_of_mem_essential {n : Notice} {ns : List Notice}
    (h : n ∈ essential ns) : n ∈ ns :=
  (List.mem_filter.mp h).left

end Notice
end EntryStop
