import Mathlib.Data.List.Forall2
import CloudAdmin.GraphQuery
import CloudAdmin.Proofs.Json.RoundTrip
import CloudAdmin.Proofs.Result

/-!
# What a graph query brings

A response to a graph query brings data or errors. Main statements: there is data exactly if the
response is a success whose body is an object that reports no errors and whose data is an object,
and the errors of a success are reported with one message for each of them, in their order,
whatever data comes with them. The body of a query tells its text and its variables, and variables
that are null are not found in it.
-/

namespace CloudAdmin.GraphQuery

/-- What is told of an error: the message that it states, or, if it states none, its own text. -/
inductive IsMessageOf : Json.Value → String → Prop where
  | stated {fields : Json.Fields} {message : String}
      (found : Assoc.find? "message" fields = some (.string message)) :
      IsMessageOf (.object fields) message
  | own {error : Json.Value}
      (silent : ∀ message, error.field? "message" ≠ some (.string message)) :
      IsMessageOf error error.text

section Answers

variable {answer : Json.Value} {fields : Json.Fields} {errors : List Json.Value}
  {response : Http.Response} {record : Record} {messages : List String}

theorem isMessageOf_iff {error : Json.Value} {message : String} :
    IsMessageOf error message ↔ errorMessage error = message := by
  constructor
  · intro told
    unfold errorMessage
    cases told with
    | @stated fields message found =>
        have stated : ((Json.Value.object fields).field? "message").bind Json.Value.toString? =
            some message := Json.Value.bind_toString?_eq_some_iff.mpr found
        rw [stated]
    | own silent =>
        split
        · rename_i message stated
          exact absurd (Json.Value.bind_toString?_eq_some_iff.mp stated) (silent message)
        · rfl
  · rintro rfl
    unfold errorMessage
    split
    · rename_i message stated
      rcases Json.Value.field?_eq_some_iff.mp (Json.Value.bind_toString?_eq_some_iff.mp stated)
        with ⟨fields, rfl, found⟩
      exact .stated found
    · rename_i silent
      apply IsMessageOf.own
      intro message found
      rw [Json.Value.bind_toString?_eq_some_iff.mpr found] at silent
      cases silent

theorem forall₂_isMessageOf_iff :
    List.Forall₂ IsMessageOf errors messages ↔ errors.map errorMessage = messages := by
  have same : IsMessageOf = fun error message => errorMessage error = message := by
    funext error message
    exact propext isMessageOf_iff
  rw [same, ← List.forall₂_map_left_iff (f := errorMessage) (R := Eq), List.forall₂_eq_eq_eq]

theorem readAnswer_of_errors (reported : answer.field? "errors" = some (.array errors))
    (some_ : errors ≠ []) :
    readAnswer answer = .error (.queryErrors (errors.map errorMessage)) := by
  cases errors with
  | nil => exact absurd rfl some_
  | cons first rest => simp only [readAnswer, reported]

theorem readAnswer_of_no_errors
    (none_ : ∀ errors, answer.field? "errors" = some (.array errors) → errors = []) :
    readAnswer answer =
      match answer.field? "data" with
      | some (.object fields) => .ok ⟨fields⟩
      | _ => .error (.missingField "data") := by
  unfold readAnswer
  split
  · rename_i first rest reported
    cases none_ _ reported
  · rfl

theorem readAnswer_eq_ok_iff :
    readAnswer answer = .ok record ↔
      (∀ errors, answer.field? "errors" = some (.array errors) → errors = []) ∧
        answer.field? "data" = some record.toValue := by
  by_cases none_ : ∀ errors, answer.field? "errors" = some (.array errors) → errors = []
  · rw [readAnswer_of_no_errors none_]
    constructor
    · intro read
      refine ⟨none_, ?_⟩
      split at read
      · rename_i fields found
        rcases Except.ok.inj read with rfl
        exact found
      · cases read
    · rintro ⟨-, found⟩
      simp only [found, Record.toValue]
  · have reported := none_
    push Not at reported
    rcases reported with ⟨errors, reported, some_⟩
    rw [readAnswer_of_errors reported some_]
    simp [none_]

theorem readAnswer_eq_queryErrors_iff :
    readAnswer answer = .error (.queryErrors messages) ↔
      ∃ errors, answer.field? "errors" = some (.array errors) ∧ errors ≠ [] ∧
        List.Forall₂ IsMessageOf errors messages := by
  simp only [forall₂_isMessageOf_iff]
  constructor
  · intro read
    by_cases none_ : ∀ errors, answer.field? "errors" = some (.array errors) → errors = []
    · rw [readAnswer_of_no_errors none_] at read
      split at read
      · cases read
      · cases read
    · push Not at none_
      rcases none_ with ⟨errors, reported, some_⟩
      rw [readAnswer_of_errors reported some_] at read
      exact ⟨errors, reported, some_, ApiError.queryErrors.inj (Except.error.inj read)⟩
  · rintro ⟨errors, reported, some_, rfl⟩
    exact readAnswer_of_errors reported some_

theorem readResponse_of_parse? (success : response.isSuccess = true)
    (parsed : Json.parse? response.body = some answer) :
    readResponse response = readAnswer answer := by
  simp only [readResponse, Http.Response.check, success, parsed, if_true, bind, Except.bind]

/-- A response is read just if it is a success with a JSON body, and then the body decides. -/
theorem readResponse_eq_iff {result : Except ApiError Record}
    (past : ∀ error, result = .error error → error.kind = .queryErrors) :
    readResponse response = result ↔ response.isSuccess = true ∧
      ∃ answer, Json.parse? response.body = some answer ∧ readAnswer answer = result := by
  by_cases success : response.isSuccess = true
  · cases parsed : Json.parse? response.body with
    | none =>
        constructor
        · intro read
          simp only [readResponse, Http.Response.check, success, parsed, if_true, bind,
            Except.bind] at read
          cases past _ read.symm
        · rintro ⟨-, answer, isSome, -⟩
          cases isSome
    | some answer => simp [readResponse_of_parse? success parsed, success]
  · constructor
    · intro read
      simp only [readResponse, Http.Response.check, success, bind, Except.bind] at read
      have kind := past _ read.symm
      split at kind <;> cases kind
    · rintro ⟨isSuccess, -⟩
      exact absurd isSuccess success

/-- There is data exactly if a success has an object for a body that reports no errors and whose
data is an object. -/
theorem readResponse_eq_ok_iff :
    readResponse response = .ok record ↔ response.isSuccess = true ∧
      ∃ fields, Json.parse? response.body = some (.object fields) ∧
        (∀ errors, Assoc.find? "errors" fields = some (.array errors) → errors = []) ∧
        Assoc.find? "data" fields = some record.toValue := by
  rw [readResponse_eq_iff (by simp)]
  apply and_congr_right
  intro _
  simp only [readAnswer_eq_ok_iff]
  constructor
  · rintro ⟨answer, parsed, none_, found⟩
    rcases Json.Value.field?_eq_some_iff.mp found with ⟨fields, rfl, -⟩
    exact ⟨fields, parsed, none_, found⟩
  · rintro ⟨fields, parsed, none_, found⟩
    exact ⟨.object fields, parsed, none_, found⟩

/-- Errors that a success reports are told one by one, whatever its data is. -/
theorem readResponse_eq_queryErrors_iff :
    readResponse response = .error (.queryErrors messages) ↔ response.isSuccess = true ∧
      ∃ fields errors, Json.parse? response.body = some (.object fields) ∧
        Assoc.find? "errors" fields = some (.array errors) ∧ errors ≠ [] ∧
        List.Forall₂ IsMessageOf errors messages := by
  rw [readResponse_eq_iff (by rintro _ ⟨⟩; rfl)]
  apply and_congr_right
  intro _
  simp only [readAnswer_eq_queryErrors_iff]
  constructor
  · rintro ⟨answer, parsed, errors, reported, told⟩
    rcases Json.Value.field?_eq_some_iff.mp reported with ⟨fields, rfl, -⟩
    exact ⟨fields, errors, parsed, reported, told⟩
  · rintro ⟨fields, errors, parsed, reported, told⟩
    exact ⟨.object fields, parsed, errors, reported, told⟩

end Answers

section Bodies

variable {query : String} {bindings : Json.Value} {room : Nat}

theorem readsBack_body (readBack : bindings.ReadsBack room) :
    (body query bindings).ReadsBack (room + 1) := by
  unfold body
  split
  · apply Json.Value.ReadsBack.ofFields
    simpa using .string query
  · apply Json.Value.ReadsBack.ofFields
    simpa using ⟨.string query, readBack⟩

theorem query_body (query : String) (bindings : Json.Value) :
    (body query bindings).field? "query" = some (.string query) := by
  unfold body
  split <;> simp [Json.Value.ofFields, Json.Value.field?, Assoc.find?_ofList]

/-- Variables that are left out of a body are null. -/
theorem variables_body (query : String) (bindings : Json.Value) :
    ((body query bindings).field? "variables").getD .null = bindings := by
  unfold body
  split <;> simp [Json.Value.ofFields, Json.Value.field?, Assoc.find?_ofList]

end Bodies

end CloudAdmin.GraphQuery
