import CloudAdmin.Assoc

/-!
# Ascending association lists

An association list stands for a finite map only if its keys ascend: then no key occurs twice, and
writing the entries into an empty list one after the other gives the list back. Main statement: an
ascending list is what `ofList` makes of it, and all operations keep a list ascending.
-/

namespace CloudAdmin.Assoc

universe u v

variable {Key : Type u} {Item : Type v}

/-- Whether the keys of a list ascend. -/
def IsAscending [LT Key] (entries : List (Key × Item)) : Prop :=
  entries.Pairwise fun earlier later => earlier.1 < later.1

theorem isAscending_of_keys [LT Key] {entries : List (Key × Item)} (keys : List Key)
    (same : entries.map Prod.fst = keys) (ascending : keys.Pairwise (· < ·)) :
    IsAscending entries :=
  List.pairwise_map.mp (same ▸ ascending)

theorem mem_insert [DecidableEq Key] [LT Key] [DecidableLT Key] {key : Key} {item : Item}
    {entries : List (Key × Item)} {entry : Key × Item}
    (member : entry ∈ insert key item entries) : entry = (key, item) ∨ entry ∈ entries := by
  induction entries with
  | nil => simpa [insert] using member
  | cons first rest ih =>
      rcases first with ⟨other, present⟩
      simp only [insert] at member
      split at member
      · rcases List.mem_cons.mp member with same | later
        · exact .inl same
        · exact .inr (List.mem_cons_of_mem _ later)
      · split at member
        · rcases List.mem_cons.mp member with same | later
          · exact .inl same
          · exact .inr later
        · rcases List.mem_cons.mp member with same | later
          · exact .inr (same ▸ List.mem_cons_self ..)
          · rcases ih later with same | earlier
            · exact .inl same
            · exact .inr (List.mem_cons_of_mem _ earlier)

theorem mem_of_mem_foldl_insert [DecidableEq Key] [LT Key] [DecidableLT Key]
    {entries pairs : List (Key × Item)} {entry : Key × Item}
    (member : entry ∈ pairs.foldl (fun entries pair => insert pair.1 pair.2 entries) entries) :
    entry ∈ entries ∨ entry ∈ pairs := by
  induction pairs generalizing entries with
  | nil => exact .inl member
  | cons pair rest ih =>
      rcases ih member with inserted | later
      · rcases mem_insert inserted with rfl | earlier
        · exact .inr (List.mem_cons_self ..)
        · exact .inl earlier
      · exact .inr (List.mem_cons_of_mem _ later)

theorem mem_of_mem_ofList [DecidableEq Key] [LT Key] [DecidableLT Key]
    {pairs : List (Key × Item)} {entry : Key × Item} (member : entry ∈ ofList pairs) :
    entry ∈ pairs := by
  rcases mem_of_mem_foldl_insert member with none | present
  · cases none
  · exact present

theorem mem_of_find? [DecidableEq Key] {key : Key} {item : Item} {entries : List (Key × Item)}
    (found : find? key entries = some item) : (key, item) ∈ entries := by
  induction entries with
  | nil => cases found
  | cons entry rest ih =>
      rw [find?] at found
      split at found
      · rename_i same
        rcases Option.some.inj found with rfl
        exact same ▸ List.mem_cons_self ..
      · exact List.mem_cons_of_mem _ (ih found)

theorem find?_eq_none_iff [DecidableEq Key] {key : Key} {entries : List (Key × Item)} :
    find? key entries = none ↔ key ∉ entries.map Prod.fst := by
  induction entries with
  | nil => simp
  | cons entry rest ih =>
      rw [find?, List.map_cons, List.mem_cons, not_or, ← ih]
      split <;> simp [*]

theorem erase_sublist [DecidableEq Key] (key : Key) (entries : List (Key × Item)) :
    (erase key entries).Sublist entries := by
  induction entries with
  | nil => exact .slnil
  | cons first rest ih =>
      simp only [erase]
      split
      · exact ih.cons _
      · exact ih.cons_cons _

theorem IsAscending.erase [DecidableEq Key] [LT Key] {entries : List (Key × Item)}
    (ascending : IsAscending entries) (key : Key) : IsAscending (erase key entries) :=
  List.Pairwise.sublist (erase_sublist key entries) ascending

section Order

variable [LE Key] [LT Key] [Std.IsLinearOrder Key] [Std.LawfulOrderLT Key] [DecidableEq Key]
  [DecidableLT Key]

theorem insert_of_forall_below {key : Key} {entries : List (Key × Item)}
    (below : ∀ entry ∈ entries, entry.1 < key) (item : Item) :
    insert key item entries = entries ++ [(key, item)] := by
  induction entries with
  | nil => rfl
  | cons entry rest ih =>
      rcases entry with ⟨other, present⟩
      have above : other < key := below _ (List.mem_cons_self ..)
      have different : key ≠ other := fun same => Std.lt_irrefl (same ▸ above)
      have notBelow : ¬key < other := fun under => Std.lt_irrefl (Std.lt_trans under above)
      simp only [insert, different, notBelow, if_false, List.cons_append]
      rw [ih fun entry member => below entry (List.mem_cons_of_mem _ member)]

theorem IsAscending.insert {entries : List (Key × Item)} (ascending : IsAscending entries)
    (key : Key) (item : Item) : IsAscending (insert key item entries) := by
  induction entries with
  | nil => simp [IsAscending, Assoc.insert]
  | cons first rest ih =>
      rcases first with ⟨other, present⟩
      rcases List.pairwise_cons.mp ascending with ⟨above, ascendingRest⟩
      simp only [Assoc.insert]
      split
      · rename_i same
        subst same
        exact List.pairwise_cons.mpr ⟨above, ascendingRest⟩
      · rename_i different
        split
        · rename_i below
          refine List.pairwise_cons.mpr ⟨fun entry member => ?_, ascending⟩
          rcases List.mem_cons.mp member with rfl | later
          · exact below
          · exact Std.lt_trans below (above entry later)
        · rename_i notBelow
          refine List.pairwise_cons.mpr ⟨fun entry member => ?_, ih ascendingRest⟩
          rcases mem_insert member with rfl | earlier
          · exact Std.lt_of_le_of_ne (Std.not_lt.mp notBelow) (Ne.symm different)
          · exact above entry earlier

theorem isAscending_foldl_insert {entries : List (Key × Item)} (ascending : IsAscending entries)
    (pairs : List (Key × Item)) :
    IsAscending (pairs.foldl (fun entries pair => insert pair.1 pair.2 entries) entries) := by
  induction pairs generalizing entries with
  | nil => exact ascending
  | cons pair rest ih => exact ih (ascending.insert pair.1 pair.2)

@[simp]
theorem isAscending_ofList (pairs : List (Key × Item)) : IsAscending (ofList pairs) :=
  isAscending_foldl_insert List.Pairwise.nil pairs

theorem foldl_insert_of_isAscending {entries pairs : List (Key × Item)}
    (ascending : IsAscending (entries ++ pairs)) :
    pairs.foldl (fun entries pair => insert pair.1 pair.2 entries) entries = entries ++ pairs := by
  induction pairs generalizing entries with
  | nil => simp
  | cons pair rest ih =>
      have below : ∀ entry ∈ entries, entry.1 < pair.1 := fun entry member =>
        (List.pairwise_append.mp ascending).2.2 entry member pair (List.mem_cons_self ..)
      have grown : IsAscending (entries ++ [pair] ++ rest) := by simpa using ascending
      simp only [List.foldl_cons, insert_of_forall_below below]
      rw [ih grown]
      simp

theorem ofList_of_isAscending {pairs : List (Key × Item)} (ascending : IsAscending pairs) :
    ofList pairs = pairs :=
  foldl_insert_of_isAscending (show IsAscending ([] ++ pairs) from ascending)

end Order

theorem find?_foldl_insert [DecidableEq Key] [LT Key] [DecidableLT Key] (key : Key)
    (pairs entries : List (Key × Item)) :
    find? key (pairs.foldl (fun entries pair => insert pair.1 pair.2 entries) entries) =
      ((pairs.reverse.find? fun pair => decide (pair.1 = key)).map Prod.snd).or
        (find? key entries) := by
  induction pairs generalizing entries with
  | nil => rfl
  | cons pair pairs ih =>
      have inserted : find? key (insert pair.1 pair.2 entries) =
          (([pair].find? fun pair => decide (pair.1 = key)).map Prod.snd).or
            (find? key entries) := by
        by_cases same : pair.1 = key
        · subst same
          simp
        · simp [same, find?_insert_of_ne (Ne.symm same)]
      rw [List.foldl_cons, ih, inserted, List.reverse_cons, List.find?_append, Option.map_or,
        Option.or_assoc]

/-- Of several pairs with one key the last one counts. -/
theorem find?_ofList [DecidableEq Key] [LT Key] [DecidableLT Key] (key : Key)
    (pairs : List (Key × Item)) :
    find? key (ofList pairs) =
      (pairs.reverse.find? fun pair => decide (pair.1 = key)).map Prod.snd := by
  rw [ofList, find?_foldl_insert, find?_nil, Option.or_none]

end CloudAdmin.Assoc
