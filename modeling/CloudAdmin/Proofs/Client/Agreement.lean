import CloudAdmin.Proofs.Client.Coupling
import CloudAdmin.Proofs.Sandbox.Reaching

/-!
# Clients that cannot tell their hosts apart

Two clients with the same credentials and routes may reach sandboxes through different hosts. If the
sandboxes hold the same, every call that is about resources yields the same for both, and the
sandboxes hold the same afterwards, because single requests are served alike.
-/

namespace CloudAdmin

namespace Sandbox

variable {WorldL WorldR Result : Type} {sandboxL : WorldL → State} {sandboxR : WorldR → State}

/-- Whether two actions yield the same and leave the same, on worlds whose sandboxes hold the
same. -/
def Agree (sandboxL : WorldL → State) (sandboxR : WorldR → State) (left : Action WorldL Result)
    (right : Action WorldR Result) : Prop :=
  ∀ stateL stateR, held sandboxL stateL = held sandboxR stateR →
    (left.perform stateL).1 = (right.perform stateR).1 ∧
      held sandboxL (left.perform stateL).2 = held sandboxR (right.perform stateR).2

/-- Whether a request is for a resource and carries no token yet. -/
structure IsPlainRequest (request : Http.Request) : Prop where
  isResource : IsResource request.method request.url
  onlyContentType : HasOnlyContentType request

/-- Whether two clients differ in their worlds alone, both of which lead to a sandbox, and see the
same time. -/
structure AreTwins (supply : TokenSupply) (sandboxL : WorldL → State) (sandboxR : WorldR → State)
    (left : Client WorldL) (right : Client WorldR) : Prop where
  reachesL : Reaches supply left.session.authenticator left.session.host sandboxL
  reachesR : Reaches supply right.session.authenticator right.session.host sandboxR
  sameRoutes : left.routes = right.routes
  samePages : left.maxPages = right.maxPages
  sameTime : ∀ worldL worldR,
    (left.session.host.wallClock worldL).1 = (right.session.host.wallClock worldR).1
  keepsL : ∀ world, sandboxL (left.session.host.wallClock world).2 = sandboxL world
  keepsR : ∀ world, sandboxR (right.session.host.wallClock world).2 = sandboxR world

namespace AreTwins

variable {supply : TokenSupply} {left : Client WorldL} {right : Client WorldR}

theorem execute (twins : AreTwins supply sandboxL sandboxR left right) {request : Http.Request}
    (plain : IsPlainRequest request) :
    Agree sandboxL sandboxR (left.execute request) (right.execute request) := by
  intro stateL stateR same
  rcases perform_execute_of_reaches twins.reachesL plain.isResource
      plain.onlyContentType stateL with ⟨resultL, afterL⟩
  rcases perform_execute_of_reaches twins.reachesR plain.isResource
      plain.onlyContentType stateR with ⟨resultR, afterR⟩
  rw [resultL, resultR, afterL, afterR, same]
  exact ⟨rfl, rfl⟩

/-- Twins are coupled by what their sandboxes hold, as far as resources go. -/
theorem coupled (twins : AreTwins supply sandboxL sandboxR left right)
    {targets : List (Http.Method × String)}
    (areResources : ∀ target ∈ targets, IsResource target.1 target.2) :
    Client.AreCoupled (fun stateL stateR => held sandboxL stateL = held sandboxR stateR) targets
      left right where
  sameRoutes := twins.sameRoutes
  samePages := twins.samePages
  execute _ aims := twins.execute ⟨areResources _ aims.isTarget, aims.onlyContentType⟩
  readTime stateL stateR same := by
    refine ⟨congrArg Except.ok (twins.sameTime stateL.world stateR.world), ?_⟩
    simpa only [Action.perform_onWorld, held, twins.keepsL, twins.keepsR] using same

/-- A call whose requests are all for resources agrees. -/
theorem run (twins : AreTwins supply sandboxL sandboxR left right) (call : ServiceCall)
    (areResources : ∀ target ∈ call.targets left.routes, IsResource target.1 target.2) :
    Agree sandboxL sandboxR (left.run call) (right.run call) :=
  (twins.coupled areResources).run call (List.Subset.refl _)

end AreTwins

end Sandbox

end CloudAdmin
