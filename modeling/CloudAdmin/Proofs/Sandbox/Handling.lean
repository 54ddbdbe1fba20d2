import CloudAdmin.Sandbox.Resource
import Mathlib.Tactic.SplitIfs

/-!
# How a request for a resource is handled

A request that presents a good token is handled by its body, its path and its method, in this order.
It comes to one of a few things: it fails, it is answered in a way of its own, it is shown a record
or a list, or it adds, replaces or removes a record. This file says once which of them it is and
under which conditions, and what is told of such requests elsewhere goes by these cases.
-/

namespace CloudAdmin.Sandbox

namespace Request

/-- The path of a request for a resource, without slashes at its end. -/
def place (request : Request) : String :=
  Text.dropTrailing '/' request.path

/-- Whether a request is about an id of a collection. -/
structure Names (request : Request) (path : String) (id : UInt64) : Prop where
  isItem : isId (splitLast request.place).2 = true
  collection : (splitLast request.place).1 = path
  read : Text.toWord64? (splitLast request.place).2 = some id

end Request

/-- What a request with a good token comes to. It may fail, but is not refused as unauthorized. -/
inductive Handled (request : Request) (state : State) : Reply × State → Prop where
  | failed (reply : Reply) (failure : 400 ≤ reply.status) (letIn : reply.status ≠ 401) :
      Handled request state (reply, state)
  | special {body : Option Json.Value} {reply : Reply} (read : readBody request.body = .ok body)
      (found : special? request.method request.place body = some reply) :
      Handled request state (reply, state)
  | shown {path : String} {id : UInt64} (value : Json.Value) (isGet : request.method = "GET")
      (names : request.Names path id) : Handled request state (.json 200 value, state)
  | listed (values : Json.Value) (isGet : request.method = "GET")
      (isCollection : isId (splitLast request.place).2 = false) :
      Handled request state (.json 200 values, state)
  | added {fields : Json.Fields} (isPost : request.method = "POST")
      (isCollection : isId (splitLast request.place).2 = false)
      (read : readBody request.body = .ok (some (.object fields)))
      (ordinary : special? request.method request.place (some (.object fields)) = none) :
      Handled request state (addItem (Style.ofPath request.place) request.place fields state)
  | replaced {path : String} {id : UInt64} {body : Option Json.Value}
      (isPut : request.method = "PUT") (names : request.Names path id)
      (read : readBody request.body = .ok body)
      (present : (Assoc.find? id (state.items path)).isSome = true) :
      Handled request state (replaceItem (Style.ofPath request.place) path id body state)
  | removed {path : String} {id : UInt64} (isDelete : request.method = "DELETE")
      (names : request.Names path id)
      (present : (Assoc.find? id (state.items path)).isSome = true) :
      Handled request state (.bare 204, state.remove path id)

section Cases

variable {request : Request}

theorem handleAuthorized_of_read {body : Option Json.Value}
    (read : readBody request.body = .ok body) (state : State) :
    handleAuthorized request state =
      match special? request.method request.place body with
      | some reply => (reply, state)
      | none =>
          if isId (splitLast request.place).2 then
            match Text.toWord64? (splitLast request.place).2 with
            | some id =>
                handleItem (Style.ofPath request.place) (splitLast request.place).1 id
                  request.method body state
            | none => (.bare 404, state)
          else
            handleCollection (Style.ofPath request.place) request.place request body state := by
  have path : Text.dropTrailing '/' request.path = request.place := rfl
  rcases cut : splitLast request.place with ⟨parent, last⟩
  cases special : special? request.method request.place body with
  | some reply => simp only [handleAuthorized, path, read, special]
  | none =>
      cases named : Text.toWord64? last <;>
        simp only [handleAuthorized, path, read, special, cut, named]

theorem handled_of_readBody_error {reply : Reply} (failed : readBody request.body = .error reply)
    (state : State) : Handled request state (handleAuthorized request state) := by
  rw [handleAuthorized, failed]
  unfold readBody at failed
  split at failed
  · cases failed
  · split at failed
    · cases failed
    · rcases Except.error.inj failed with rfl
      exact .failed _ (by decide) (by decide)

theorem handled_handleItem {path : String} {id : UInt64} {body : Option Json.Value}
    (names : request.Names path id) (read : readBody request.body = .ok body) (state : State) :
    Handled request state
      (handleItem (Style.ofPath request.place) path id request.method body state) := by
  unfold handleItem
  split
  · exact .failed _ (by decide) (by decide)
  · rename_i items used
    have stored : state.items path = items := by rw [State.items, used, Option.getD_some]
    generalize found : Assoc.find? id items = present
    unfold handlePresent
    split
    · rename_i value isGet
      exact .shown value isGet names
    · rename_i value isPut
      exact .replaced isPut names read (by simp [stored, found])
    · rename_i value isDelete
      exact .removed isDelete names (by simp [stored, found])
    all_goals exact .failed _ (by decide) (by decide)

theorem handled_handleCollection {body : Option Json.Value}
    (isCollection : isId (splitLast request.place).2 = false)
    (read : readBody request.body = .ok body)
    (ordinary : special? request.method request.place body = none) (state : State) :
    Handled request state
      (handleCollection (Style.ofPath request.place) request.place request body state) := by
  unfold handleCollection
  split
  · rename_i isGet
    exact .listed _ isGet isCollection
  · rename_i isPost
    split
    · rename_i fields isObject
      rcases Option.bind_eq_some_iff.mp isObject with ⟨value, rfl, object⟩
      cases value <;> cases object
      exact .added isPost isCollection read ordinary
    · exact .failed _ (by simp [Reply.json]) (by simp [Reply.json])
  · exact .failed _ (by decide) (by decide)

/-- A request with a good token is handled in one of these ways. -/
theorem handled_handleAuthorized (request : Request) (state : State) :
    Handled request state (handleAuthorized request state) := by
  cases read : readBody request.body with
  | error reply => exact handled_of_readBody_error read state
  | ok body =>
      rw [handleAuthorized_of_read read]
      cases answered : special? request.method request.place body with
      | some reply => exact .special read answered
      | none =>
          cases isItem : isId (splitLast request.place).2 with
          | true =>
              simp only [if_true]
              split
              · rename_i id named
                exact handled_handleItem ⟨isItem, rfl, named⟩ read state
              · exact .failed _ (by decide) (by decide)
          | false =>
              simp only [Bool.false_eq_true, if_false]
              exact handled_handleCollection isItem read answered state

end Cases

section Statuses

theorem status_addItem (style : Style) (path : String) (fields : Json.Fields) (state : State) :
    (addItem style path fields state).1.status < 300 := by
  cases style <;> simp [addItem, Reply.json]

theorem status_replaceItem (style : Style) (path : String) (id : UInt64) (body : Option Json.Value)
    (state : State) : (replaceItem style path id body state).1.status < 300 := by
  cases style <;> simp [replaceItem, Reply.json, Reply.bare]

theorem status_lookUp (body : Option Json.Value) : (lookUp body).status ≠ 401 := by
  unfold lookUp
  simp only
  split <;> simp [Reply.json]

theorem status_echoQuery (body : Option Json.Value) : (echoQuery body).status ≠ 401 := by
  unfold echoQuery
  simp only
  split <;> simp [Reply.fields, Reply.json]

theorem status_special? {method path : String} {body : Option Json.Value} {reply : Reply}
    (found : special? method path body = some reply) : reply.status ≠ 401 := by
  have fields (members : List (String × Json.Value)) : (Reply.fields members).status ≠ 401 := by
    simp [Reply.fields, Reply.json]
  unfold special? at found
  split_ifs at found <;> rcases Option.some.inj found with rfl
  · exact fields _
  · exact fields _
  · exact fields _
  · exact fields _
  · exact status_lookUp body
  · exact status_echoQuery body

theorem Handled.status_ne {request : Request} {state : State} {outcome : Reply × State}
    (handled : Handled request state outcome) : outcome.1.status ≠ 401 := by
  cases handled with
  | failed reply failure letIn => exact letIn
  | special read found => exact status_special? found
  | shown value isGet names => simp [Reply.json]
  | listed values isGet isCollection => simp [Reply.json]
  | added isPost isCollection read ordinary =>
      exact Nat.ne_of_lt (Nat.lt_trans (status_addItem ..) (by decide))
  | replaced isPut names read present =>
      exact Nat.ne_of_lt (Nat.lt_trans (status_replaceItem ..) (by decide))
  | removed isDelete names present => simp [Reply.bare]

/-- Only a request without a good token is refused as unauthorized. -/
theorem status_handleAuthorized (request : Request) (state : State) :
    (handleAuthorized request state).1.status ≠ 401 :=
  (handled_handleAuthorized request state).status_ne

end Statuses

end CloudAdmin.Sandbox
