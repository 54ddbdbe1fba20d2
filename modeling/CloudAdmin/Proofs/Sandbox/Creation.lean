import CloudAdmin.Proofs.Sandbox.Ledger
import CloudAdmin.Proofs.Sandbox.Workload

/-!
# Records that are added at the same time

Ids are given out one after the other, so an id that was given out has never been given out before,
and the record that is added under it finds its place free, whatever has happened since. The proof
keeps three accounts of a workload: the ids that were given out are as many as the last one says;
only under ids of added records anything is stored, and it is what was last written there; and every
added record has left its trace. Main statement: however the steps of any requests to a new sandbox
are interleaved, these accounts are right as long as the ids do not run out, and lists ascend.
-/

namespace CloudAdmin.Sandbox

section Numbers

/-- The ids that were given out to requests. -/
def given (tasks : List Task) : List UInt64 :=
  tasks.filterMap fun task => task.progress.givenId?

/-- The ids under which requests have added records. -/
def created (tasks : List Task) : List UInt64 :=
  tasks.filterMap fun task => task.progress.createdId?

/-- Whether ids were given out one after the other. -/
structure IsNumbered (last : UInt64) (given : List UInt64) : Prop where
  counted : last.toNat = given.length
  bounded : ∀ id ∈ given, id ≤ last
  distinct : given.Nodup

theorem given_split (front back : List Task) (request : Request) (progress : Progress) :
    given (front ++ ⟨request, progress⟩ :: back) =
      given front ++ progress.givenId?.toList ++ given back := by
  cases found : progress.givenId? <;> simp [given, found]

theorem created_split (front back : List Task) (request : Request) (progress : Progress) :
    created (front ++ ⟨request, progress⟩ :: back) =
      created front ++ progress.createdId?.toList ++ created back := by
  cases found : progress.createdId? <;> simp [created, found]

/-- The next id is above all that were given out. -/
theorem IsNumbered.allocate {last : UInt64} {front back : List UInt64}
    (numbered : IsNumbered last (front ++ [] ++ back))
    (room : (front ++ [last + 1] ++ back).length < UInt64.size) :
    IsNumbered (last + 1) (front ++ [last + 1] ++ back) := by
  rw [List.append_nil] at numbered
  rw [List.append_assoc, List.singleton_append] at room ⊢
  have size : (front ++ (last + 1) :: back).length = (front ++ back).length + 1 := by
    simp [Nat.add_assoc]
  have next : (last + 1).toNat = last.toNat + 1 := by
    rw [UInt64.toNat_add, UInt64.toNat_one]
    apply Nat.mod_eq_of_lt
    rw [numbered.counted, ← size]
    exact room
  have above : ∀ id ∈ front ++ back, id < last + 1 := by
    intro id member
    rw [UInt64.lt_iff_toNat_lt, next]
    exact Nat.lt_succ_of_le (UInt64.le_iff_toNat_le.mp (numbered.bounded id member))
  refine ⟨by rw [next, numbered.counted, size], fun id member => ?_, ?_⟩
  · rcases List.mem_cons.mp (List.perm_middle.mem_iff.mp member) with rfl | earlier
    · exact UInt64.le_refl _
    · exact UInt64.le_of_lt (above id earlier)
  · rw [List.perm_middle.nodup_iff, List.nodup_cons]
    exact ⟨fun member => UInt64.lt_irrefl _ (above _ member), numbered.distinct⟩

end Numbers

section Contents

/-- What is stored under an id after a change. -/
def Change.after (path : String) (id : UInt64) (value : Option Json.Value) :
    Change → Option Json.Value
  | .wrote other key written => if path = other ∧ id = key then some written else value
  | .removed other key => if path = other ∧ id = key then none else value

/-- What was last written under an id, unless it was removed since. -/
def lastWritten (path : String) (id : UInt64) (changes : List Change) : Option Json.Value :=
  changes.foldl (Change.after path id) none

theorem lastWritten_append_singleton (path : String) (id : UInt64) (changes : List Change)
    (change : Change) :
    lastWritten path id (changes ++ [change]) =
      change.after path id (lastWritten path id changes) := by
  simp [lastWritten, List.foldl_append]

/-- Whether a sandbox has what was last written to it, and only under ids of some records. -/
structure IsFaithful (created : List UInt64) (state : State) (changes : List Change) : Prop where
  owned : ∀ path id value, Assoc.find? id (state.items path) = some value → id ∈ created
  current : ∀ path id, Assoc.find? id (state.items path) = lastWritten path id changes
  ascending : ∀ path, Assoc.IsAscending (state.items path)

namespace IsFaithful

variable {created : List UInt64} {state : State} {changes : List Change}

theorem sameStore (faithful : IsFaithful created state changes) {after : State}
    (same : after.store = state.store) : IsFaithful created after changes := by
  have sameItems (path : String) : after.items path = state.items path := by
    rw [State.items, State.items, State.items?, State.items?, same]
  refine ⟨fun path id value found => ?_, fun path id => ?_, fun path => ?_⟩
  · exact faithful.owned path id value (sameItems path ▸ found)
  · rw [sameItems]
    exact faithful.current path id
  · rw [sameItems]
    exact faithful.ascending path

theorem put (faithful : IsFaithful created state changes) {all : List UInt64}
    (grows : created ⊆ all) {path : String} {id : UInt64} (member : id ∈ all)
    (value : Json.Value) :
    IsFaithful all (state.put path id value) (changes ++ [.wrote path id value]) := by
  refine ⟨fun other key present found => ?_, fun other key => ?_, fun other => ?_⟩
  · rw [find?_items_put] at found
    split at found
    · rename_i same
      exact same.2 ▸ member
    · exact grows (faithful.owned other key present found)
  · rw [find?_items_put, lastWritten_append_singleton, Change.after, faithful.current]
  · rw [items_put]
    split
    · exact (faithful.ascending path).insert id value
    · exact faithful.ascending other

theorem remove (faithful : IsFaithful created state changes) (path : String) (id : UInt64) :
    IsFaithful created (state.remove path id) (changes ++ [.removed path id]) := by
  refine ⟨fun other key present found => ?_, fun other key => ?_, fun other => ?_⟩
  · rw [find?_items_remove] at found
    split at found
    · cases found
    · exact faithful.owned other key present found
  · rw [find?_items_remove, lastWritten_append_singleton, Change.after, faithful.current]
  · rw [items_remove]
    split
    · exact (faithful.ascending path).erase id
    · exact faithful.ascending other

/-- What replaces a record is stored under an id of a record, as the replaced one was. -/
theorem settle (faithful : IsFaithful created state changes) {request : Request}
    {outcome : Reply × State} (settles : Settles request state outcome) :
    IsFaithful created outcome.2 (changes ++ request.changes outcome.1) := by
  cases settles with
  | kept reply silent =>
      rw [silent, List.append_nil]
      exact faithful
  | replaced reply present told =>
      rcases Option.isSome_iff_exists.mp present with ⟨earlier, found⟩
      rw [told]
      exact faithful.put (List.Subset.refl _) (faithful.owned _ _ earlier found) _
  | removed reply told =>
      rw [told]
      exact faithful.remove _ _

end IsFaithful

end Contents

section Orders

/-- Whether what a request adds is what it came with, and whether it has said so and has left its
trace once it has added it. -/
structure Task.IsRecorded (changes : List Change) (task : Task) : Prop where
  sent : ∀ id fields, task.progress = .creating id fields → task.request.creation? = some fields
  told : ∀ id reply, task.progress = .created id reply →
    ∃ fields, task.request.creation? = some fields ∧
      reply = creationReply (Style.ofPath task.request.place) (task.request.creation id fields) ∧
      .wrote task.request.place id (task.request.creation id fields) ∈ changes

/-- Whether all accounts of a workload are right. -/
structure Workload.IsOrderly (workload : Workload) : Prop where
  numbered : IsNumbered workload.state.lastId (given workload.tasks)
  faithful : IsFaithful (created workload.tasks) workload.state workload.changes
  recorded : ∀ task ∈ workload.tasks, task.IsRecorded workload.changes

theorem Task.IsRecorded.append {changes : List Change} {task : Task}
    (recorded : task.IsRecorded changes) (more : List Change) :
    task.IsRecorded (changes ++ more) := by
  refine ⟨recorded.sent, fun id reply isCreated => ?_⟩
  rcases recorded.told id reply isCreated with ⟨fields, sent, said, member⟩
  exact ⟨fields, sent, said, List.mem_append_left _ member⟩

/-- What the other requests have told stays told when one moves on. -/
theorem forall_recorded {front back : List Task} {request : Request} {progress next : Progress}
    {changes more : List Change}
    (recorded : ∀ task ∈ front ++ ⟨request, progress⟩ :: back, task.IsRecorded changes)
    (moved : Task.IsRecorded (changes ++ more) ⟨request, next⟩) :
    ∀ task ∈ front ++ ⟨request, next⟩ :: back, task.IsRecorded (changes ++ more) := by
  intro task member
  rcases List.mem_append.mp member with before | inside
  · exact (recorded task (List.mem_append_left _ before)).append more
  · rcases List.mem_cons.mp inside with rfl | later
    · exact moved
    · exact (recorded task
        (List.mem_append_right _ (List.mem_cons_of_mem _ later))).append more

theorem Settles.lastId {request : Request} {state : State} {outcome : Reply × State}
    (settles : Settles request state outcome) : outcome.2.lastId = state.lastId := by
  cases settles <;> rfl

/-- A step keeps the accounts right, unless the ids run out. -/
theorem Advances.isOrderly {front back : List Task} {request : Request}
    {progress next : Progress} {state after : State} {changes more : List Change}
    (advances : Advances request state progress (next, after, more))
    (orderly : Workload.IsOrderly ⟨front ++ ⟨request, progress⟩ :: back, state, changes⟩)
    (room : (given (front ++ ⟨request, next⟩ :: back)).length < UInt64.size) :
    Workload.IsOrderly ⟨front ++ ⟨request, next⟩ :: back, after, changes ++ more⟩ := by
  rcases orderly with ⟨numbered, faithful, recorded⟩
  rw [given_split] at numbered room
  rw [created_split] at faithful
  have assemble
      (numberedNext : IsNumbered after.lastId (given front ++ next.givenId?.toList ++ given back))
      (faithfulNext : IsFaithful (created front ++ next.createdId?.toList ++ created back) after
        (changes ++ more))
      (recordedNext : Task.IsRecorded (changes ++ more) ⟨request, next⟩) :
      Workload.IsOrderly ⟨front ++ ⟨request, next⟩ :: back, after, changes ++ more⟩ :=
    ⟨given_split front back request next ▸ numberedNext,
      created_split front back request next ▸ faithfulNext, forall_recorded recorded recordedNext⟩
  cases advances with
  | admitted =>
      rw [List.append_nil] at assemble ⊢
      exact assemble numbered faithful ⟨by rintro _ _ ⟨⟩, by rintro _ _ ⟨⟩⟩
  | finished reply sameStore sameId =>
      rw [List.append_nil] at assemble ⊢
      exact assemble (sameId ▸ numbered) (faithful.sameStore sameStore)
        ⟨by rintro _ _ ⟨⟩, by rintro _ _ ⟨⟩⟩
  | settled settles =>
      exact assemble (settles.lastId ▸ numbered) (faithful.settle settles)
        ⟨by rintro _ _ ⟨⟩, by rintro _ _ ⟨⟩⟩
  | allocated fields creates =>
      rw [List.append_nil] at assemble ⊢
      refine assemble (numbered.allocate room) (faithful.sameStore rfl) ⟨?_, by rintro _ _ ⟨⟩⟩
      rintro _ _ ⟨⟩
      exact creates
  | inserted id fields =>
      have sent := (recorded _ (List.mem_append_right _ List.mem_cons_self)).sent id fields rfl
      refine assemble numbered (faithful.put ?_ (by simp [Progress.createdId?]) _)
        ⟨by rintro _ _ ⟨⟩, ?_⟩
      · intro other member
        simp only [Progress.createdId?, Option.toList_none, List.append_nil] at member
        simp only [Progress.createdId?, Option.toList_some, List.append_assoc,
          List.singleton_append]
        exact List.perm_middle.mem_iff.mpr (List.mem_cons_of_mem _ member)
      · rintro _ _ ⟨⟩
        exact ⟨fields, sent, rfl, List.mem_append_right _ (List.mem_singleton_self _)⟩
  | idle =>
      rw [List.append_nil]
      exact ⟨given_split front back request progress ▸ numbered,
        created_split front back request progress ▸ faithful, recorded⟩

end Orders

section Runs

namespace Workload

variable {supply : TokenSupply}

theorem IsOrderly.step {workload : Workload} (orderly : workload.IsOrderly) (index : Nat)
    (room : (given (workload.step supply index).tasks).length < UInt64.size) :
    (workload.step supply index).IsOrderly := by
  rcases step_cases supply workload index
    with same | ⟨front, request, progress, back, next, after, more, tasks, advances, stepped⟩
  · rw [same]
    exact orderly
  · rcases workload with ⟨_, state, changes⟩
    rcases tasks with rfl
    rw [stepped] at room ⊢
    exact advances.isOrderly orderly room

end Workload

end Runs

section Lists

end Lists

end CloudAdmin.Sandbox
