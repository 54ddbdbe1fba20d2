import CloudAdmin.Proofs.Assoc
import CloudAdmin.Proofs.Sandbox.Serving
import CloudAdmin.Proofs.Sandbox.Target
import Mathlib.Data.List.Induction

/-!
# Histories of a sandbox

What a sandbox keeps is the outcome of all requests that it was ever sent. A history holds these
requests and their answers, the first one first, so that what is known of a sandbox can be told from
outside. Whatever holds of a new sandbox and is preserved by a single request holds after every
history. A single request goes to just one handler: there are logins, the logout, the revocation of
all tokens, the count of logins, refusals, and everything else is for a resource.
-/

namespace CloudAdmin.Sandbox

/-- A request and the answer to it. -/
structure Event where
  request : Request
  reply : Reply

section Running

variable (supply : TokenSupply)

/-- One more request, after some history and with what the sandbox keeps then. -/
def proceed (past : List Event × State) (request : Request) : List Event × State :=
  let (reply, next) := handle supply request past.2
  (past.1 ++ [⟨request, reply⟩], next)

/-- The history of some requests to a sandbox, and what the sandbox keeps in the end. -/
def run (requests : List Request) (state : State) : List Event × State :=
  requests.foldl (proceed supply) ([], state)

/-- What one request preserves, all requests to a sandbox preserve. -/
theorem run_induction (Kept : List Event → State → Prop) {state : State} (start : Kept [] state)
    (step : ∀ history state request, Kept history state →
      Kept (history ++ [⟨request, (handle supply request state).1⟩])
        (handle supply request state).2)
    (requests : List Request) :
    Kept (run supply requests state).1 (run supply requests state).2 := by
  induction requests using List.reverseRecOn with
  | nil => exact start
  | append_singleton requests request ih =>
      rw [run, List.foldl_append]
      exact step _ _ request ih

end Running

section Routing

/-- Whether a request is a login of a flow. -/
def Request.IsLogin (flow : LoginFlow) (request : Request) : Prop :=
  request.path = Authenticator.loginPath flow ∧ request.method = "POST"

/-- Whether a request is a logout. -/
def Request.IsLogout (request : Request) : Prop :=
  request.path = "/api/v1/authenticatedSession" ∧ request.method = "DELETE"

/-- Whether a request has all tokens taken back. -/
def Request.IsRevocation (request : Request) : Prop :=
  request.path = "/mock/revoke-tokens" ∧ request.method = "POST"

/-- Whether a request is for a resource. The session is one if it is only looked at. -/
def Request.IsForResource (request : Request) : Prop :=
  request.path ∉ ownPaths ∨
    request.path = "/api/v1/authenticatedSession" ∧ request.method ∈ ["GET", "HEAD"]

/-- What a request goes to. -/
inductive GoesTo (supply : TokenSupply) (request : Request) : Handler → Prop where
  | login (flow : LoginFlow) (isLogin : request.IsLogin flow) :
      GoesTo supply request (loginHandler supply flow)
  | logout (isLogout : request.IsLogout) : GoesTo supply request ziaLogout
  | revocation (isRevocation : request.IsRevocation) : GoesTo supply request revokeTokens
  | count : GoesTo supply request statistics
  | refusal (allowed : List String) :
      GoesTo supply request fun _ => unchanged (.methodRefused allowed)
  | resource (isForResource : request.IsForResource) : GoesTo supply request handleResource

/-- The table of paths and methods, read once for all. -/
theorem exists_goesTo (supply : TokenSupply) (request : Request) :
    ∃ handler, GoesTo supply request handler ∧
      route supply request.path request = handler request := by
  cases listed : Assoc.find? request.path (endpoints supply) with
  | none =>
      have foreign : request.path ∉ ownPaths := Assoc.find?_eq_none_iff.mp listed
      exact ⟨_, .resource (.inl foreign), by rw [route_of_not_mem foreign]⟩
  | some methods =>
      have routed : route supply request.path = dispatch methods := by simp [route, listed]
      have path := Assoc.mem_of_find? listed
      cases known : Assoc.find? request.method methods with
      | none =>
          refine ⟨_, .refusal (methods.map Prod.fst), ?_⟩
          funext state
          simp [routed, dispatch, known, unchanged]
      | some handler =>
          refine ⟨handler, ?_, ?_⟩
          · have method := Assoc.mem_of_find? known
            -- One case for each path of the table, and in it one for each method.
            simp only [endpoints, List.mem_cons, List.not_mem_nil, or_false, Prod.mk.injEq] at path
            rcases path with ⟨path, rfl⟩ | ⟨path, rfl⟩ | ⟨path, rfl⟩ | ⟨path, rfl⟩ | ⟨path, rfl⟩ |
              ⟨path, rfl⟩ | ⟨path, rfl⟩ <;>
              simp only [List.mem_cons, List.not_mem_nil, or_false, Prod.mk.injEq] at method
            · rcases method with ⟨method, rfl⟩
              exact .login .oneApi ⟨path, method⟩
            · rcases method with ⟨method, rfl⟩
              exact .login .zpa ⟨path, method⟩
            · rcases method with ⟨method, rfl⟩ | ⟨method, rfl⟩ | ⟨method, rfl⟩ | ⟨method, rfl⟩
              · exact .login .zia ⟨path, method⟩
              · exact .logout ⟨path, method⟩
              · exact .resource (.inr ⟨path, by simp [method]⟩)
              · exact .resource (.inr ⟨path, by simp [method]⟩)
            · rcases method with ⟨method, rfl⟩
              exact .login .zcc ⟨path, method⟩
            · rcases method with ⟨method, rfl⟩
              exact .login .zdx ⟨path, method⟩
            · rcases method with ⟨method, rfl⟩
              exact .revocation ⟨path, method⟩
            · rcases method with ⟨-, rfl⟩ | ⟨-, rfl⟩
              · exact .count
              · exact .count
          · funext state
            simp [routed, dispatch, known]

theorem route_of_isForResource {request : Request} (isForResource : request.IsForResource)
    (supply : TokenSupply) : route supply request.path request = handleResource request := by
  rcases isForResource with foreign | ⟨path, method⟩
  · rw [route_of_not_mem foreign]
  · simp only [List.mem_cons, List.not_mem_nil, or_false] at method
    funext state
    rcases method with method | method <;>
      simp [route, endpoints, path, method, Assoc.find?, dispatch]

@[simp]
theorem status_handle (supply : TokenSupply) (request : Request) (state : State) :
    (handle supply request state).1.status =
      (route supply request.path request state).1.status := by
  simp only [handle]
  split <;> rfl

theorem handle_snd (supply : TokenSupply) (request : Request) (state : State) :
    (handle supply request state).2 = (route supply request.path request state).2 := rfl

end Routing

end CloudAdmin.Sandbox
