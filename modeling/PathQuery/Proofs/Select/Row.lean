import PathQuery.Select.Path

/-! Rows of nodes and errors: how a choice for every node acts on a row, and what it means that a row can
be collected. -/
namespace PathQuery.Select

@[simp] theorem each_nil (f : Nat → List Item) : each f [] = [] := rfl

@[simp] theorem each_ok (f : Nat → List Item) (n : Nat) (items : List Item) :
    each f (.ok n :: items) = f n ++ each f items := rfl

@[simp] theorem each_error (f : Nat → List Item) (e : SelectError) (items : List Item) :
    each f (.error e :: items) = .error e :: each f items := rfl

theorem collect_error {α : Type} {items : List (Except SelectError α)} {e : SelectError}
    (failed : collect items = .error e) : .error e ∈ items := by
  induction items with
  | nil => cases failed
  | cons item items ih =>
    cases item with
    | ok a =>
      rw [collect] at failed
      cases rest : collect items with
      | ok as => rw [rest] at failed; cases failed
      | error f =>
        rw [rest] at failed
        cases failed
        exact List.mem_cons_of_mem _ (ih rest)
    | error f =>
      cases failed
      exact List.mem_cons_self

theorem collect_map_ok {α : Type} (as : List α) :
    collect (as.map .ok) = (.ok as : Except SelectError (List α)) := by
  induction as with
  | nil => rfl
  | cons a as ih =>
    rw [List.map_cons, collect, ih]
    rfl

theorem eq_of_collect {α : Type} {items : List (Except SelectError α)} {as : List α}
    (collected : collect items = .ok as) : items = as.map .ok := by
  induction items generalizing as with
  | nil =>
    cases collected
    rfl
  | cons item items ih =>
    cases item with
    | ok a =>
      rw [collect] at collected
      cases rest : collect items with
      | ok bs =>
        rw [rest] at collected
        cases collected
        rw [ih rest, List.map_cons]
      | error f =>
        rw [rest] at collected
        cases collected
    | error f => cases collected

theorem anyM_error {α : Type} {test : α → Except SelectError Bool} {as : List α} {e : SelectError}
    (failed : as.anyM test = .error e) : ∃ a ∈ as, test a = .error e := by
  induction as with
  | nil => cases failed
  | cons a as ih =>
    rw [List.anyM_cons] at failed
    cases result : test a with
    | error f =>
      rw [result] at failed
      cases failed
      exact ⟨a, List.mem_cons_self, result⟩
    | ok b =>
      rw [result] at failed
      cases b with
      | true => cases failed
      | false =>
        obtain ⟨c, mem, here⟩ := ih failed
        exact ⟨c, List.mem_cons_of_mem a mem, here⟩

end PathQuery.Select
