/-!
# Results that are values

How it is known that a computation which may fail did not: from a value that it is found to have,
from the success of a longer computation that begins with it, or from that of all its parts. If a
longer computation did fail, one of its two parts did.
-/

namespace CloudAdmin

theorem eq_ok_of_toOption {Failure Value : Type} {result : Except Failure Value} {value : Value}
    (found : result.toOption = some value) : result = .ok value := by
  cases result with
  | error failure => cases found
  | ok other => exact congrArg _ (Option.some.inj found)

theorem exists_of_bind_eq_ok {Failure First Second : Type} {first : Except Failure First}
    {next : First → Except Failure Second} {result : Second}
    (succeeded : (first >>= next) = .ok result) :
    ∃ value, first = .ok value ∧ next value = .ok result := by
  cases first with
  | error failure => cases succeeded
  | ok value => exact ⟨value, rfl, succeeded⟩

theorem eq_or_exists_of_bind_eq_error {Failure First Second : Type}
    {first : Except Failure First} {next : First → Except Failure Second} {failure : Failure}
    (failed : (first >>= next) = .error failure) :
    first = .error failure ∨ ∃ value, first = .ok value ∧ next value = .error failure := by
  cases first with
  | error other => exact .inl (congrArg Except.error (Except.error.inj failed))
  | ok value => exact .inr ⟨value, rfl, failed⟩

theorem mapM_eq_ok_iff {Item Failure Value : Type} {read : Item → Except Failure Value}
    {items : List Item} {values : List Value} :
    items.mapM read = .ok values ↔ items.map read = values.map .ok := by
  induction items generalizing values with
  | nil => simp [pure, Except.pure, eq_comm]
  | cons item rest ih =>
      rw [List.mapM_cons, List.map_cons]
      constructor
      · intro readAll
        rcases exists_of_bind_eq_ok readAll with ⟨value, readItem, next⟩
        rcases exists_of_bind_eq_ok next with ⟨others, readRest, built⟩
        rcases Except.ok.inj built with rfl
        rw [readItem, ih.mp readRest, List.map_cons]
      · intro each
        cases values with
        | nil => cases each
        | cons value others =>
            rcases List.cons.inj each with ⟨readItem, readRest⟩
            rw [readItem, ih.mpr readRest]
            rfl

theorem mapM_congr {Item Failure Value : Type} {read other : Item → Except Failure Value}
    {items : List Item} (same : ∀ item ∈ items, read item = other item) :
    items.mapM read = items.mapM other := by
  induction items with
  | nil => rfl
  | cons item rest ih =>
      rw [List.mapM_cons, List.mapM_cons, same item (List.mem_cons_self ..),
        ih fun later member => same later (List.mem_cons_of_mem _ member)]

theorem exists_mapM_eq_ok {Item Failure Value : Type} {read : Item → Except Failure Value}
    {items : List Item} (each : ∀ item ∈ items, ∃ value, read item = .ok value) :
    ∃ values, items.mapM read = .ok values := by
  induction items with
  | nil => exact ⟨[], rfl⟩
  | cons item rest ih =>
      rcases each item (List.mem_cons_self ..) with ⟨value, readItem⟩
      rcases ih fun other member => each other (List.mem_cons_of_mem _ member)
        with ⟨values, readRest⟩
      refine ⟨value :: values, ?_⟩
      rw [List.mapM_cons, readItem, readRest]
      rfl

/-- If a list cannot be read as a whole, one of its items is to blame. -/
theorem exists_of_mapM_eq_error {Item Failure Value : Type} {read : Item → Except Failure Value}
    {items : List Item} {failure : Failure} (failed : items.mapM read = .error failure) :
    ∃ item ∈ items, read item = .error failure := by
  induction items with
  | nil => cases failed
  | cons item rest ih =>
      rw [List.mapM_cons] at failed
      rcases eq_or_exists_of_bind_eq_error failed with readItem | ⟨value, -, next⟩
      · exact ⟨item, List.mem_cons_self .., readItem⟩
      · rcases eq_or_exists_of_bind_eq_error next with readRest | ⟨values, -, built⟩
        · rcases ih readRest with ⟨other, member, readOther⟩
          exact ⟨other, List.mem_cons_of_mem _ member, readOther⟩
        · cases built

end CloudAdmin
