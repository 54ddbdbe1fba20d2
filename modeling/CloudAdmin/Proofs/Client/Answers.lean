import CloudAdmin.ServiceCall

/-!
# Errors that are no errors of a check

Two kinds of errors tell a caller that a call cannot be made: its arguments are not sound, or the
product is not unlocked. Whatever an answer looks like, reading it fails with an error of another
kind, and so does building a login.
-/

namespace CloudAdmin

/-- The kinds of errors about arguments and about products that are not unlocked. -/
def checkKinds : List ErrorKind := [.invalidArgument, .productUnavailable]

/-- Whether a result is no error of a check. -/
def IsPastChecks {Value : Type} (result : Except ApiError Value) : Prop :=
  ∀ error, result = .error error → error.kind ∉ checkKinds

namespace IsPastChecks

variable {Value Next Item : Type}

theorem ok (value : Value) : IsPastChecks (.ok value) := by
  rintro error ⟨⟩

theorem error {error : ApiError} (isNoCheck : error.kind ∉ checkKinds) :
    IsPastChecks (.error error : Except ApiError Value) := by
  rintro _ ⟨⟩
  exact isNoCheck

theorem bind {first : Except ApiError Value} {next : Value → Except ApiError Next}
    (isPast : IsPastChecks first) (each : ∀ value, IsPastChecks (next value)) :
    IsPastChecks (first >>= next) := by
  cases first with
  | error failure => exact error (isPast failure rfl)
  | ok value => exact each value

theorem mapM {read : Item → Except ApiError Value} (each : ∀ item, IsPastChecks (read item))
    (items : List Item) : IsPastChecks (items.mapM read) := by
  induction items with
  | nil => exact ok []
  | cons item rest ih =>
      rw [List.mapM_cons]
      exact (each item).bind fun value => ih.bind fun values => ok _

theorem check (response : Http.Response) : IsPastChecks response.check := by
  unfold Http.Response.check
  split
  · exact ok ()
  · apply error
    split <;> simp [ApiError.kind, checkKinds]

theorem ofText (text : String) : IsPastChecks (Record.ofText text) := by
  unfold Record.ofText
  split
  · exact ok _
  · exact error (by decide)

theorem ofValue (value : Json.Value) : IsPastChecks (Record.ofValue value) := by
  cases value with
  | object fields => exact ok _
  | _ => exact error (by simp [ApiError.kind, checkKinds])

theorem record (response : Http.Response) : IsPastChecks response.record :=
  (check response).bind fun _ => ofText _

theorem optionalRecord (response : Http.Response) : IsPastChecks response.optionalRecord := by
  refine (check response).bind fun _ => ?_
  split
  · exact ok _
  · exact (ofText _).bind fun _ => ok _

theorem value (response : Http.Response) : IsPastChecks response.value := by
  refine (check response).bind fun _ => ?_
  split
  · exact ok _
  · split
    · exact ok _
    · exact error (by decide)

theorem arrayItems (body : Json.Value) : IsPastChecks (Page.arrayItems body) := by
  cases body with
  | array items => exact mapM ofValue items
  | _ => exact error (by simp [ApiError.kind, checkKinds])

theorem itemsAt (key : String) (body : Json.Value) : IsPastChecks (Page.itemsAt key body) := by
  unfold Page.itemsAt
  split
  · exact ok _
  · exact ok _
  · exact arrayItems _

theorem singleItems (body : Json.Value) : IsPastChecks (Page.singleItems body) := by
  unfold Page.singleItems
  split
  · exact arrayItems _
  · split
    · exact itemsAt _ _
    · exact ok _
  · exact error (by simp [ApiError.kind, checkKinds])

theorem ofPage (pagination : Pagination) (request : Http.Request) (body : Json.Value) :
    IsPastChecks (Page.ofValue pagination request body) := by
  cases pagination with
  | single => exact (singleItems body).bind fun _ => ok _
  | envelope itemsKey => exact (itemsAt itemsKey body).bind fun _ => ok _
  | pageNumber => exact (arrayItems body).bind fun _ => ok _
  | countedPages => exact (itemsAt "list" body).bind fun _ => ok _
  | cursor _ _ itemsKey _ => exact (itemsAt itemsKey body).bind fun _ => ok _

theorem readPage (endpoint : Endpoint) (request : Http.Request) (response : Http.Response) :
    IsPastChecks (endpoint.readPage request response) := by
  refine (check response).bind fun _ => ?_
  unfold Page.ofBody
  split
  · exact ok _
  · split
    · exact ofPage _ _ _
    · exact error (by decide)

theorem lookUpItems (answer : Json.Value) : IsPastChecks (lookUpItems answer) := by
  unfold CloudAdmin.lookUpItems
  split
  · exact mapM ofValue _
  · exact ok _
  · exact error (by simp [ApiError.kind, checkKinds])

theorem readResponse (response : Http.Response) :
    IsPastChecks (GraphQuery.readResponse response) := by
  refine (check response).bind fun _ => ?_
  split
  · unfold GraphQuery.readAnswer
    split
    · exact error (by simp [ApiError.kind, checkKinds])
    · split
      · exact ok _
      · exact error (by simp [ApiError.kind, checkKinds])
  · exact error (by decide)

theorem halvedDigits (numeral : List Char) : IsPastChecks (halvedDigits numeral) := by
  unfold CloudAdmin.halvedDigits
  split
  · exact ok _
  · exact error (by simp [ApiError.kind, checkKinds])

theorem pickKeyCharacter (key : List Char) (offset : Nat) (digit : Char) :
    IsPastChecks (pickKeyCharacter key offset digit) := by
  unfold CloudAdmin.pickKeyCharacter
  split
  · exact ok _
  · exact error (by decide)

theorem obfuscateKey (key : String) (time : UInt64) : IsPastChecks (obfuscateKey key time) :=
  (halvedDigits _).bind fun _ => (mapM (pickKeyCharacter _ 0) _).bind fun _ =>
    (mapM (pickKeyCharacter _ 2) _).bind fun _ => ok _

theorem loginRequest (now : UInt64) (authenticator : Authenticator) :
    IsPastChecks (authenticator.loginRequest now) := by
  rcases authenticator with ⟨credentials, root⟩
  cases credentials with
  | zia username password apiKey => exact (obfuscateKey apiKey now).bind fun _ => ok _
  | _ => exact ok _

theorem readToken (name : String) (kind : TokenKind) (shape : List Json.FieldShape)
    (life : Json.Found → UInt64) (now : UInt64) (body : String) :
    IsPastChecks (Authenticator.readToken name kind shape life now body) := by
  refine bind ?_ fun found => ?_
  · unfold Authenticator.readAnswer
    split
    · exact ok _
    · exact error (by decide)
  · split
    · exact ok _
    · exact error (by decide)

theorem readLogin (response : Http.Response) (now : UInt64) (authenticator : Authenticator) :
    IsPastChecks (authenticator.readLogin response now) := by
  unfold Authenticator.readLogin
  dsimp only
  split
  · exact error (by simp [ApiError.kind, checkKinds])
  · split
    · exact readToken _ _ _ _ _ _
    · exact readToken _ _ _ _ _ _
    · exact readToken _ _ _ _ _ _
    · exact readToken _ _ _ _ _ _
    · split
      · exact ok _
      · exact error (by decide)

end IsPastChecks

end CloudAdmin
