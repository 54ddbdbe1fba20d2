import CloudAdmin.Proofs.Sandbox.Storage

/-!
# Requests that change nothing

Every check of a request comes before its effect, so a request that is refused has none. This holds
of the id of a new record, too: it is given out when the record is known to be one. A request has an
effect only if its method is one that writes. Main statement: an answer of failure, and any answer
to a `GET`, leaves all that a sandbox keeps as it was. Such requests can be left out of a history.
-/

namespace CloudAdmin.Sandbox

/-- Whether a request succeeded, and by a method that may change something. -/
def IsWrite (request : Request) (reply : Reply) : Prop :=
  reply.status < 300 ∧ request.method ∈ ["POST", "PUT", "DELETE"]

instance (request : Request) (reply : Reply) : Decidable (IsWrite request reply) :=
  inferInstanceAs (Decidable (_ ∧ _))

/-- Whether an outcome of a request leaves what was kept as it was, unless the request wrote. -/
def KeepsUnlessWrite (request : Request) (state : State) (outcome : Reply × State) : Prop :=
  outcome.2 = state ∨ IsWrite request outcome.1

section Handlers

variable {supply : TokenSupply} {request : Request} {state : State}

theorem Effect.keepsUnlessWrite {outcome : Reply × State} (effect : Effect request state outcome) :
    KeepsUnlessWrite request state outcome := by
  cases effect with
  | kept reply => exact .inl rfl
  | added isPost isCollection read => exact .inr ⟨status_addItem .., by simp [isPost]⟩
  | replaced isPut names read => exact .inr ⟨status_replaceItem .., by simp [isPut]⟩
  | removed isDelete names => exact .inr ⟨by simp [Reply.bare], by simp [isDelete]⟩

theorem keepsUnlessWrite_login {flow : LoginFlow} (isLogin : request.IsLogin flow) :
    KeepsUnlessWrite request state (loginHandler supply flow request state) := by
  cases isSettled_login supply flow request with
  | refused reply failure always =>
      rw [always]
      exact .inl rfl
  | accepted always =>
      rw [always]
      exact .inr ⟨by simp [status_welcome], by simp [isLogin.2]⟩

theorem keepsUnlessWrite_logout (isLogout : request.IsLogout) :
    KeepsUnlessWrite request state (ziaLogout request state) := by
  unfold ziaLogout
  split
  · exact .inl rfl
  · split
    · exact .inr ⟨by simp [Reply.bare], by simp [isLogout.2]⟩
    · exact .inl rfl

theorem keepsUnlessWrite_resource :
    KeepsUnlessWrite request state (handleResource request state) := by
  unfold handleResource
  split
  · exact (effect_handleAuthorized request state).keepsUnlessWrite
  · exact .inl rfl

theorem keepsUnlessWrite_handle (supply : TokenSupply) (request : Request) (state : State) :
    KeepsUnlessWrite request state (handle supply request state) := by
  rcases exists_goesTo supply request with ⟨handler, goes, routed⟩
  rw [KeepsUnlessWrite, IsWrite, handle_snd, status_handle, routed]
  cases goes with
  | login flow isLogin => exact keepsUnlessWrite_login isLogin
  | logout isLogout => exact keepsUnlessWrite_logout isLogout
  | revocation isRevocation =>
      exact .inr ⟨by simp [revokeTokens, Reply.bare], by simp [isRevocation.2]⟩
  | count => exact .inl rfl
  | refusal allowed => exact .inl rfl
  | resource isForResource => exact keepsUnlessWrite_resource

end Handlers

/-- A request that is answered with a failure changes nothing, and neither does one that reads:
tokens, records, the last id and the count of logins stay as they were. -/
theorem handle_of_failure_or_get (supply : TokenSupply) (request : Request) (state : State)
    (changeless : 400 ≤ (handle supply request state).1.status ∨ request.method = "GET") :
    (handle supply request state).2 = state := by
  rcases keepsUnlessWrite_handle supply request state with same | ⟨success, writes⟩
  · exact same
  · rcases changeless with failure | isGet
    · omega
    · simp [isGet] at writes

/-- A label that is no record is refused, and no id is given out for it. -/
theorem handle_of_malformed_label :
    let past := run countingSupply
      [gatewayEntry, labelRequest "POST" "/zia/api/v1/labels" "\x7b\"name\":\"a\"\x7d"] .empty
    let malformed := labelRequest "POST" "/zia/api/v1/labels" "[1]"
    past.2.lastId = 1 ∧ 400 ≤ (handle countingSupply malformed past.2).1.status ∧
      (handle countingSupply malformed past.2).2 = past.2 := by
  intro past malformed
  have failure : 400 ≤ (handle countingSupply malformed past.2).1.status := by decide +kernel
  exact ⟨by decide +kernel, failure, handle_of_failure_or_get countingSupply _ _ (.inl failure)⟩

/-- Only the requests that wrote make a sandbox what it is: without the others, a history ends in
the same. -/
theorem run_writes (supply : TokenSupply) (requests : List Request) (state : State) :
    let writes := (run supply requests state).1.filter fun event =>
      IsWrite event.request event.reply
    (run supply (writes.map Event.request) state).2 = (run supply requests state).2 := by
  refine run_induction supply (fun history after =>
    (run supply ((history.filter fun event => IsWrite event.request event.reply).map
      Event.request) state).2 = after) rfl ?_ requests
  intro history after request kept
  rw [List.filter_append, List.map_append]
  by_cases writes : IsWrite request (handle supply request after).1
  · rw [run] at kept
    simp [writes, run, List.foldl_append, proceed, kept]
  · rcases keepsUnlessWrite_handle supply request after with same | wrote
    · simp [writes, kept, same]
    · exact absurd wrote writes

end CloudAdmin.Sandbox
