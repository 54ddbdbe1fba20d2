import CloudAdmin.Proofs.Client.Agreement
import CloudAdmin.Proofs.Json.RoundTrip
import CloudAdmin.Proofs.Sandbox.Place

/-!
# Single records of a sandbox

What a sandbox serves to the requests that an endpoint builds for single records, and what a client
reads from the answers: a record if there is one, and that nothing was found otherwise. The answer
to an update in the style of ZPA is empty, so a client asks for the record once more.
-/

namespace CloudAdmin.Sandbox

/-- Whether an endpoint is that of a collection which the sandbox keeps at a path in a style. -/
structure KeepsRecords (endpoint : Endpoint) (style : Style) (path : String) : Prop where
  collection : LeadsTo endpoint.url path
  record : ∀ id, LeadsTo (endpoint.itemUrl (Text.decimal id)) (path ++ "/" ++ Text.decimal id)
  styled : Style.ofPath path = style
  recordStyled : ∀ id, Style.ofPath (path ++ "/" ++ Text.decimal id) = style
  free : (splitLast path).2 ∉ reservedNames
  notId : isId (splitLast path).2 = false

section Answers

variable {record : Record}

theorem readBody_text (readsBack : record.toValue.ReadsBack Json.nestingLimit) :
    readBody record.text = .ok (some record.toValue) :=
  readBody_of_parse? readsBack.parse?_text

theorem record_json {status : Nat} (success : status = 200 ∨ status = 201)
    (readsBack : record.toValue.ReadsBack Json.nestingLimit) :
    (Reply.json status record.toValue).toResponse.record = .ok record := by
  have checked : (Reply.json status record.toValue).toResponse.check = .ok () := by
    rcases success with rfl | rfl <;> rfl
  have read : Record.ofText (Reply.json status record.toValue).toResponse.body = .ok record := by
    change Record.ofText record.toValue.text = _
    rw [Record.ofText, readsBack.parse?_text]
    rfl
  rw [Http.Response.record, checked, ← read]
  rfl

theorem optionalRecord_json (readsBack : record.toValue.ReadsBack Json.nestingLimit) :
    (Reply.json 200 record.toValue).toResponse.optionalRecord = .ok (some record) := by
  have checked : (Reply.json 200 record.toValue).toResponse.check = .ok () := rfl
  have notBlank : Text.isBlankText (Reply.json 200 record.toValue).toResponse.body = false :=
    Json.Value.isBlankText_object record.fields
  have read : Record.ofText (Reply.json 200 record.toValue).toResponse.body = .ok record := by
    change Record.ofText record.toValue.text = _
    rw [Record.ofText, readsBack.parse?_text]
    rfl
  rw [Http.Response.optionalRecord, checked]
  simp only [bind, Except.bind, notBlank, read]
  rfl

end Answers

section Serving

variable {endpoint : Endpoint} {style : Style} {path : String}

/-- A collection that was never used is like an empty one. -/
theorem handleItem_eq {method : Http.Method} (known : method ∈ [.get, .put, .delete]) (id : UInt64)
    (body : Option Json.Value) (state : State) :
    handleItem style path id method.name body state =
      handlePresent style path id (Assoc.find? id (state.items path)) method.name body state := by
  rw [handleItem, State.items]
  cases state.items? path with
  | some items => rfl
  | none =>
      simp only [List.mem_cons, List.not_mem_nil, or_false] at known
      rcases known with rfl | rfl | rfl <;> rfl

/-- A request for a record is about what is stored under its id. -/
theorem KeepsRecords.serve_record (keeps : KeepsRecords endpoint style path) {id : UInt64}
    (request : Http.Request) {body : Option Json.Value}
    (known : request.method ∈ [.get, .put, .delete])
    (url : request.url = endpoint.itemUrl (Text.decimal id.toNat))
    (read : readBody (sentBody request) = .ok body) {contents : Contents}
    {stored : Option Json.Value}
    (found : Assoc.find? id ((State.ofContents contents).items path) = stored) :
    let served := handlePresent style path id stored request.method.name body (.ofContents contents)
    serve request contents = (.ok served.1.toResponse, served.2.contents) := by
  intro served
  have isName := isName_decimal id.toNat
  have cut : splitLast (path ++ "/" ++ Text.decimal id.toNat) = (path, Text.decimal id.toNat) := by
    have text : path ++ "/" ++ Text.decimal id.toNat =
        String.ofList (path.toList ++ '/' :: (Text.decimal id.toNat).toList) := by
      apply String.toList_inj.mp
      simp
    rw [text, splitLast_append_slash _ isName.noSlash, String.ofList_toList, String.ofList_toList]
  have ordinary :
      special? request.method.name (path ++ "/" ++ Text.decimal id.toNat) body = none := by
    apply special?_of_free
    have free := isName.free
    rw [String.ofList_toList] at free
    rwa [cut]
  have leads := keeps.record id.toNat
  rw [← url] at leads
  rw [leads.serve_item read ordinary cut (isId_decimal _) (Text.toWord64?_decimal id),
    keeps.recordStyled, handleItem_eq known, found]

theorem KeepsRecords.serve_get (keeps : KeepsRecords endpoint style path) {id : UInt64}
    {contents : Contents} {value : Json.Value}
    (present : Assoc.find? id ((State.ofContents contents).items path) = some value) :
    serve (endpoint.getRequest (Text.decimal id.toNat)) contents =
      (.ok (Reply.json 200 value).toResponse, contents) :=
  keeps.serve_record (endpoint.getRequest (Text.decimal id.toNat)) (.head _) rfl rfl present

theorem KeepsRecords.serve_update (keeps : KeepsRecords endpoint style path) {id : UInt64}
    {body : Record} (readsBack : body.toValue.ReadsBack Json.nestingLimit) {contents : Contents}
    {value : Json.Value}
    (present : Assoc.find? id ((State.ofContents contents).items path) = some value) :
    let replaced := replaceItem style path id (some body.toValue) (.ofContents contents)
    serve (endpoint.updateRequest (Text.decimal id.toNat) body) contents =
      (.ok replaced.1.toResponse, replaced.2.contents) :=
  keeps.serve_record (endpoint.updateRequest (Text.decimal id.toNat) body) (.tail _ (.head _)) rfl
    (readBody_text readsBack) present

theorem KeepsRecords.serve_delete (keeps : KeepsRecords endpoint style path) {id : UInt64}
    {contents : Contents} {value : Json.Value}
    (present : Assoc.find? id ((State.ofContents contents).items path) = some value) :
    serve (endpoint.deleteRequest (Text.decimal id.toNat)) contents =
      (.ok (Reply.bare 204).toResponse, ((State.ofContents contents).remove path id).contents) :=
  keeps.serve_record (endpoint.deleteRequest (Text.decimal id.toNat))
    (.tail _ (.tail _ (.head _))) rfl rfl present

theorem KeepsRecords.serve_absent (keeps : KeepsRecords endpoint style path) {id : UInt64}
    (request : Http.Request) {body : Option Json.Value}
    (known : request.method ∈ [.get, .put, .delete])
    (url : request.url = endpoint.itemUrl (Text.decimal id.toNat))
    (read : readBody (sentBody request) = .ok body) {contents : Contents}
    (absent : Assoc.find? id ((State.ofContents contents).items path) = none) :
    serve request contents = (.ok (Reply.bare 404).toResponse, contents) := by
  have served := keeps.serve_record request known url read absent
  simp only [List.mem_cons, List.not_mem_nil, or_false] at known
  rcases known with method | method | method
  · rw [method] at served
    exact served
  · rw [method] at served
    exact served
  · rw [method] at served
    exact served

theorem KeepsRecords.serve_add (keeps : KeepsRecords endpoint style path) {body : Record}
    (readsBack : body.toValue.ReadsBack Json.nestingLimit) (contents : Contents) :
    let added := addItem style path body.fields (.ofContents contents)
    serve (endpoint.addRequest body) contents = (.ok added.1.toResponse, added.2.contents) := by
  intro added
  have url : (endpoint.addRequest body).url = endpoint.url := rfl
  have read : readBody (sentBody (endpoint.addRequest body)) = .ok (some body.toValue) :=
    readBody_text readsBack
  have leads := keeps.collection
  rw [← url] at leads
  rcases leads.serve_collection read (special?_of_free keeps.free _ _) keeps.notId contents
    with ⟨asked, method, -, served⟩
  have posted : asked.method = "POST" := method
  rw [served, keeps.styled]
  simp only [handleCollection, posted]
  rfl

end Serving

end CloudAdmin.Sandbox
