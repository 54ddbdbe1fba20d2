import CloudAdmin.Proofs.Client.Coupling
import CloudAdmin.Proofs.Services.Offering
import CloudAdmin.Proofs.Text.Splitting

/-!
# Where calls lead

The routes of a client give each product a base. Main statement: every request that a call makes is
for the base of the call's product or for something below it, and the two interfaces of ZPA begin
right below its base. No id, name or path can lead out again, because what is put behind a base is
always set off by a slash and slashes are only ever taken off what comes after the base.
-/

namespace CloudAdmin

def IsWithin (base url : String) : Prop :=
  url = base ∨ ∃ path, url = base ++ "/" ++ path

section Within

variable {base url : String}

namespace IsWithin

theorem below (within : IsWithin base url) (path : String) :
    IsWithin base (url ++ "/" ++ path) := by
  rcases within with rfl | ⟨first, rfl⟩
  · exact .inr ⟨path, rfl⟩
  · exact .inr ⟨first ++ "/" ++ path, by simp only [String.append_assoc]⟩

theorem exists_rest (within : IsWithin base url) : ∃ rest, url = base ++ rest := by
  rcases within with rfl | ⟨path, rfl⟩
  · exact ⟨"", String.append_empty.symm⟩
  · exact ⟨"/" ++ path, String.append_assoc⟩

/-- Slashes are taken off what comes after a base that does not end in one. -/
theorem dropTrailing (within : IsWithin base url) (ends : HasNoTrailingSlash base) :
    IsWithin base (Text.dropTrailing '/' url) := by
  rcases within with rfl | ⟨path, rfl⟩
  · have same := Text.dropTrailing_append ends ""
    rw [String.append_empty] at same
    exact .inl (by rw [same]; simp [Text.dropTrailing])
  · rw [String.append_assoc, Text.dropTrailing_append ends]
    -- Either all of the path goes, its first slash included, or that slash stays.
    have front := Text.dropTrailing_isPrefix '/' ("/" ++ path)
    have slash : "/".toList = ['/'] := by decide
    rw [String.toList_append, slash, List.singleton_append] at front
    rcases List.prefix_cons_iff.mp front with empty | ⟨rest, split, -⟩
    · rw [String.toList_eq_nil_iff.mp empty, String.append_empty]
      exact .inl rfl
    · refine .inr ⟨String.ofList rest, ?_⟩
      have whole : Text.dropTrailing '/' ("/" ++ path) = "/" ++ String.ofList rest :=
        String.toList_inj.mp (by simp [split])
      rw [whole, String.append_assoc]

theorem join (within : IsWithin base url) (ends : HasNoTrailingSlash base) (path : String) :
    IsWithin base (Endpoint.join url path) := by
  simp only [Endpoint.join]
  split
  · exact within.dropTrailing ends
  · exact (within.dropTrailing ends).below _

end IsWithin

end Within

theorem Routes.hasNoTrailingSlash_base {routes : Routes} {product : Product} {base : String}
    (trimmed : HasNoTrailingSlash routes.root) (found : routes.base product = .ok base) :
    HasNoTrailingSlash base := by
  unfold Routes.base at found
  split at found
  · rcases Except.ok.inj found with rfl
    refine trimmed.append (hasNoTrailingSlash_of_test ?_)
    cases product <;> decide
  · split at found
    · rcases Except.ok.inj found with rfl
      refine trimmed.append (hasNoTrailingSlash_of_test ?_)
      cases product <;> decide
    · cases found

namespace Scope

variable {routes : Routes} {base url : String}

theorem hasNoTrailingSlash_interface (scope : Scope) : HasNoTrailingSlash scope.interface := by
  cases scope with
  | product service => exact hasNoTrailingSlash_of_test rfl
  | management version =>
      intro last found
      rw [interface, String.toList_append, List.getLast?_append] at found
      rcases Option.some.inj found with rfl
      decide
  | userConfiguration => exact hasNoTrailingSlash_of_test (by decide)

/-- The base of a scope is where its interface is, or right below for the sake of the customer. -/
theorem exists_base {scope : Scope} (found : scope.base routes = .ok url) :
    ∃ base, routes.base scope.owner = .ok base ∧ IsWithin (base ++ scope.interface) url := by
  cases scope with
  | product service => exact ⟨url, found, .inl (String.append_empty.symm)⟩
  | management _ | userConfiguration =>
      rcases exists_of_bind_eq_ok found with ⟨base, isBase, named⟩
      rcases exists_of_bind_eq_ok named with ⟨customer, -, same⟩
      rcases Except.ok.inj same with rfl
      refine ⟨base, isBase, .inr ⟨customer, ?_⟩⟩
      apply String.toList_inj.mp
      simp [interface, String.join]

end Scope

namespace ServiceCall

variable {routes : Routes} {target : Http.Method × String}

theorem exists_base_of_mem_targetsAt {resource : Resource}
    {aims : Endpoint → List (Http.Method × String)} (trimmed : HasNoTrailingSlash routes.root)
    (below : ∀ endpoint stem, HasNoTrailingSlash stem → IsWithin stem endpoint.url →
      ∀ target ∈ aims endpoint, IsWithin stem target.2)
    (member : target ∈ targetsAt routes resource aims) :
    ∃ base, routes.base resource.scope.owner = .ok base ∧
      IsWithin (base ++ resource.scope.interface) target.2 := by
  unfold targetsAt at member
  split at member
  · rename_i endpoint found
    rcases exists_of_bind_eq_ok found with ⟨url, isUrl, same⟩
    rcases Except.ok.inj same with rfl
    rcases Scope.exists_base isUrl with ⟨base, isBase, within⟩
    have ends : HasNoTrailingSlash (base ++ resource.scope.interface) :=
      (Routes.hasNoTrailingSlash_base trimmed isBase).append
        resource.scope.hasNoTrailingSlash_interface
    exact ⟨base, isBase, below _ _ ends (within.join ends _) target member⟩
  · cases member

/-- Every target of a call is within the interface that the call is about. -/
theorem exists_base_of_mem_targets {call : ServiceCall} (trimmed : HasNoTrailingSlash routes.root)
    (member : target ∈ call.targets routes) :
    ∃ base, routes.base call.scope.owner = .ok base ∧
      IsWithin (base ++ call.scope.interface) target.2 := by
  cases call with
  | list _ _ | page _ _ | find _ _ | findCategory _ _ | recentList _ _ =>
      refine exists_base_of_mem_targetsAt trimmed (fun endpoint stem ends within => ?_) member
      simpa using within
  | get _ _ | delete _ _ =>
      refine exists_base_of_mem_targetsAt trimmed (fun endpoint stem ends within => ?_) member
      simpa [Endpoint.itemUrl] using within.below _
  | add _ _ =>
      refine exists_base_of_mem_targetsAt trimmed (fun endpoint stem ends within => ?_) member
      simpa using within
  | update _ _ _ =>
      refine exists_base_of_mem_targetsAt trimmed (fun endpoint stem ends within => ?_) member
      simpa [Endpoint.itemUrl] using within.below _
  | value _ _ suffix _ _ | record _ _ suffix _ _ | command _ _ suffix _ _ =>
      refine exists_base_of_mem_targetsAt trimmed (fun endpoint stem ends within => ?_) member
      simpa using within.join ends suffix
  | edit _ _ | lookUp _ _ | recentRecord _ _ =>
      refine exists_base_of_mem_targetsAt trimmed (fun endpoint stem ends within => ?_) member
      simpa using within.join ends ""
  | ask _ _ | askBetween _ _ _ _ =>
      simp only [targets] at member
      split at member
      · rename_i url found
        rcases List.mem_singleton.mp member with rfl
        exact ⟨url, found, .inl String.append_empty.symm⟩
      · cases member

end ServiceCall

end CloudAdmin
