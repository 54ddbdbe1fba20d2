import CloudAdmin.Proofs.Sandbox.Place
import CloudAdmin.Services.Catalogue

/-!
# The collections of the products

A resource is a collection of records, and the way in which its list is paged does not matter to the
records. Behind a gateway, each collection has a place of its own: a path that begins with what is
known of the scope and ends with what is known of the resource, with the customer between them if
there is one. Main statement: what a client asks for by the endpoint of a resource leads to the
place of its collection, two collections never share a place, and the style of ids shows in the
scope.
-/

namespace CloudAdmin

/-- Where the records of a resource are, however its list is paged. -/
structure Collection where
  scope : Scope
  path : String
deriving DecidableEq, Repr

/-- The collection that a resource is. -/
def Resource.collection (resource : Resource) : Collection :=
  ⟨resource.scope, resource.path⟩

/-- The resources of ZIA, ZPA, ZCON and ZIdentity whose records are administered one by one: those
with common operations, the provisioning keys and the rules of a policy set. -/
inductive Resource.IsAdministered : Resource → Prop where
  | listed {product : Product} {listing : Listing}
      (offered : product ∈ [.zia, .zpa, .zcon, .zidentity]) (member : listing ∈ product.listings) :
      IsAdministered listing.resource
  | provisioningKeys (association : Zpa.Association) :
      IsAdministered (Zpa.provisioningKeys association)
  | policyRules (policySet : String) : IsAdministered (Zpa.policyRules policySet)

namespace Scope

/-- The path under which a gateway has a scope, up to the customer. -/
def stem : Scope → String
  | .product service => service.gatewayPath
  | .management version => String.join ["/zpa/mgmtconfig/", version, "/admin/customers"]
  | .userConfiguration => "/zpa/userconfig/v1/customers"

/-- What follows in the path for the sake of the customer. -/
def customerPart (customer : Option String) : Scope → String
  | .product _ => ""
  | .management _ | .userConfiguration => "/" ++ customer.getD ""

/-- How the ids of a scope are written. -/
def style : Scope → Sandbox.Style
  | .product .zidentity => .zidentity
  | .product _ => .zia
  | .management _ | .userConfiguration => .zpa

/-- The scopes in ZPA, which belong to a customer. -/
def ofCustomer : List Scope :=
  [.management "v1", .management "v2", .userConfiguration]

/-- The scopes of the resources whose records are administered. -/
def administered : List Scope :=
  .product .zia :: .product .zcon :: .product .zidentity :: ofCustomer

theorem base_gateway {root base : String} {customer : Option String} {scope : Scope}
    (found : scope.base (.gateway root customer) = .ok base) :
    base = Text.dropTrailing '/' root ++ (scope.stem ++ scope.customerPart customer) := by
  cases scope with
  | product service =>
      rcases Except.ok.inj found with rfl
      simp [Routes.gateway, stem, customerPart]
  | management _ | userConfiguration =>
      cases customer with
      | none => cases found
      | some customer =>
          rcases Except.ok.inj found with rfl
          apply String.toList_inj.mp
          simp [stem, customerPart, String.join, Routes.gateway, Product.gatewayPath]

theorem getLast?_stem {scope : Scope} {last : Char}
    (found : scope.stem.toList.getLast? = some last) :
    last ≠ '/' := by
  have ends (front : List Char) {last : Char}
      (found : (front ++ "s".toList).getLast? = some last) : last ≠ '/' := by
    rw [List.getLast?_append] at found
    rcases Option.some.inj found with rfl
    decide
  cases scope with
  | product service =>
      have letters : ∀ service : Product,
          (service.gatewayPath.toList.getLast?).all (· != '/') = true := by
        intro service
        cases service <;> decide
      have different := letters service
      rw [show service.gatewayPath.toList.getLast? = some last from found] at different
      simpa using different
  | management version =>
      apply ends ("/zpa/mgmtconfig/".toList ++ version.toList ++ "/admin/customer".toList)
      rw [← found]
      simp [stem, String.join]
  | userConfiguration => exact ends "/zpa/userconfig/v1/customer".toList found

theorem isPlainPath {scope : Scope} (member : scope ∈ administered) {customer : Option String}
    (plain : ∀ id, customer = some id → Url.IsPlainPath id.toList) :
    Url.IsPlainPath (scope.stem ++ scope.customerPart customer).toList := by
  have stems : administered.all (fun scope => Url.isWrittenPath scope.stem.toList) = true := by
    decide +kernel
  have plainStem := Url.isPlainPath_of_isWrittenPath (List.all_eq_true.mp stems scope member)
  have plainCustomer : Url.IsPlainPath (customer.getD "").toList := by
    cases customer with
    | none => exact Url.isPlainPath_of_isWrittenPath (by decide)
    | some id => exact plain id rfl
  rw [String.toList_append]
  cases scope with
  | product service => simpa [customerPart] using plainStem
  | management version =>
      simpa [customerPart] using Url.isPlainPath_append_slash.mpr ⟨plainStem, plainCustomer⟩
  | userConfiguration =>
      simpa [customerPart] using Url.isPlainPath_append_slash.mpr ⟨plainStem, plainCustomer⟩

theorem writtenPath_stem {scope : Scope} (member : scope ∈ administered) :
    Url.writtenPath scope.stem.toList = scope.stem.toList := by
  have stems : administered.all (fun scope => Url.isWrittenPath scope.stem.toList) = true := by
    decide +kernel
  exact (Url.isWritten_of_isWrittenPath (List.all_eq_true.mp stems scope member)).writtenPath

theorem eq_of_isPrefix_stem {first second : Scope} (member : first ∈ administered)
    (member' : second ∈ administered) {place : List Char} (front : first.stem.toList <+: place)
    (front' : second.stem.toList <+: place) : first = second := by
  have apart : administered.all (fun first => administered.all fun second =>
      first == second || !first.stem.toList.isPrefixOf second.stem.toList) = true := by
    decide +kernel
  have same {first second : Scope} (member : first ∈ administered) (member' : second ∈ administered)
      (front : first.stem.toList <+: second.stem.toList) : first = second := by
    have pair := List.all_eq_true.mp (List.all_eq_true.mp apart first member) second member'
    simpa [List.isPrefixOf_iff_prefix.mpr front] using pair
  rcases List.prefix_or_prefix_of_prefix front front' with shorter | shorter
  · exact same member member' shorter
  · exact (same member' member shorter).symm

end Scope

namespace Collection

/-- The path at which a gateway has a collection. -/
def place (customer : Option String) (collection : Collection) : String :=
  collection.scope.stem ++
    String.ofList (Url.writtenPath
      (Text.dropTrailing '/' (collection.scope.customerPart customer)).toList) ++
    "/" ++ collection.path

theorem stem_isPrefix_place (customer : Option String) (collection : Collection) :
    collection.scope.stem.toList <+: (collection.place customer).toList := by
  simp only [place, String.toList_append, List.append_assoc]
  exact List.prefix_append _ _

/-- Different collections have different places. -/
theorem eq_of_place_eq {customer : Option String} {first second : Collection}
    (member : first.scope ∈ Scope.administered) (member' : second.scope ∈ Scope.administered)
    (same : first.place customer = second.place customer) : first = second := by
  rcases first with ⟨scope, path⟩
  rcases second with ⟨scope', path'⟩
  have front := stem_isPrefix_place customer ⟨scope, path⟩
  have front' := stem_isPrefix_place customer ⟨scope', path'⟩
  rw [← same] at front'
  rcases Scope.eq_of_isPrefix_stem member member' front front' with rfl
  have paths : path = path' := by
    have texts := congrArg String.toList same
    simp only [place, String.toList_append] at texts
    exact String.toList_inj.mp (List.append_cancel_left texts)
  rw [paths]

end Collection

section Paths

open Sandbox

/-- Whether a path below a base may be that of a collection. -/
structure IsCollectionPath (path : String) : Prop where
  starts : path.toList.head? ≠ some '/'
  written : Url.IsWritten path.toList
  plain : Url.IsPlainPath path.toList
  notEmpty : (splitLast ("/" ++ path)).2 ≠ ""
  free : (splitLast ("/" ++ path)).2 ∉ reservedNames
  notId : isId (splitLast ("/" ++ path)).2 = false

/-- A test for paths of collections. -/
def isCollectionPath (path : String) : Bool :=
  let name := (splitLast ("/" ++ path)).2
  path.toList.head? != some '/' && Url.isWrittenPath path.toList && name != "" &&
    !reservedNames.contains name && !isId name

theorem IsCollectionPath.of_test {path : String} (tested : isCollectionPath path = true) :
    IsCollectionPath path := by
  simp only [isCollectionPath, Bool.and_eq_true, bne_iff_ne, ne_eq, Bool.not_eq_true',
    List.contains_eq_mem, decide_eq_false_iff_not] at tested
  rcases tested with ⟨⟨⟨⟨starts, plain⟩, notEmpty⟩, free⟩, notId⟩
  exact ⟨starts, Url.isWritten_of_isWrittenPath plain, Url.isPlainPath_of_isWrittenPath plain,
    notEmpty, free, notId⟩

theorem IsCollectionPath.exists_name {path : String} (isPath : IsCollectionPath path) :
    ∃ front name, '/' :: path.toList = front ++ '/' :: name ∧ Url.IsWritten front ∧ IsName name ∧
      isId (String.ofList name) = false := by
  rcases exists_last_of_mem (List.mem_cons_self .. : '/' ∈ '/' :: path.toList)
    with ⟨front, name, same, noSlash⟩
  have last : (splitLast ("/" ++ path)).2 = String.ofList name := by
    have text : "/" ++ path = String.ofList (front ++ '/' :: name) := by
      rw [← same]
      apply String.toList_inj.mp
      simp
    rw [text, splitLast_append_slash front noSlash]
  have slash : Url.IsWritten ('/' :: path.toList) := by
    intro c member
    rcases List.mem_cons.mp member with rfl | inPath
    · exact ⟨by decide, by decide⟩
    · exact isPath.written c inPath
  have plain : Url.IsPlainPath ('/' :: path.toList) :=
    Url.isPlainPath_cons_slash.mpr isPath.plain
  rw [same] at slash plain
  refine ⟨front, name, same, fun c member => slash c (List.mem_append_left _ member), ?_, ?_⟩
  · exact {
      notEmpty := fun empty => isPath.notEmpty (last.trans (by rw [empty]))
      noSlash
      written := fun c member => slash c (List.mem_append_right _ (List.mem_cons_of_mem _ member))
      plain := (Url.isPlainPath_append_slash.mp plain).2
      free := last ▸ isPath.free }
  · exact last ▸ isPath.notId

variable {root : String} {customer : Option String} {resource : Resource} {endpoint : Endpoint}

theorem url_gateway (found : resource.endpoint (.gateway root customer) = .ok endpoint)
    (isPath : IsCollectionPath resource.path) :
    endpoint.url = Text.dropTrailing '/' root ++ (resource.scope.stem ++
      Text.dropTrailing '/' (resource.scope.customerPart customer) ++ "/" ++ resource.path) := by
  rcases exists_of_bind_eq_ok found with ⟨base, isBase, built⟩
  rcases Except.ok.inj built with rfl
  rcases Scope.base_gateway isBase with rfl
  have notEmpty : resource.path.isEmpty = false := by
    rw [String.isEmpty_eq_false_iff]
    intro empty
    exact isPath.notEmpty (by rw [empty]; decide)
  have whole : Text.dropLeading '/' resource.path = resource.path := by
    apply String.toList_inj.mp
    rw [Text.dropLeading, String.toList_ofList]
    cases path : resource.path.toList with
    | nil => rfl
    | cons c rest =>
        have different : c ≠ '/' := by
          rintro rfl
          exact isPath.starts (by rw [path]; rfl)
        exact List.dropWhile_cons_of_neg (by simpa using different)
  simp only [Endpoint.under, Endpoint.join, whole, notEmpty, Bool.false_eq_true, if_false]
  rw [Text.dropTrailing_append (fun last => Text.getLast?_dropTrailing),
    Text.dropTrailing_append (fun last => Scope.getLast?_stem)]
  simp only [String.append_assoc]

/-- A path below a scope, as it is put into a URL and as it is written then. -/
theorem exists_place (member : resource.scope ∈ Scope.administered)
    (plain : ∀ id, customer = some id → Url.IsPlainPath id.toList)
    (isPath : IsCollectionPath resource.path) :
    ∃ front name, front.head? = some '/' ∧ Url.IsPlainPath front ∧ IsName name ∧
      isId (String.ofList name) = false ∧
        resource.scope.stem ++ Text.dropTrailing '/' (resource.scope.customerPart customer) ++
          "/" ++
          resource.path = String.ofList (front ++ '/' :: name) ∧
        resource.collection.place customer =
          String.ofList (Url.writtenPath front ++ '/' :: name) := by
  rcases isPath.exists_name with ⟨front, name, same, written, isName, notId⟩
  have plainScope := (Scope.isPlainPath member plain).dropTrailing
  rw [Text.dropTrailing_append (fun last => Scope.getLast?_stem), String.toList_append]
    at plainScope
  have whole := Url.isPlainPath_append_slash.mpr ⟨plainScope, isPath.plain⟩
  rw [same, ← List.append_assoc] at whole
  have starts : Scope.administered.all
      (fun scope => scope.stem.toList.head? == some '/') = true := by decide +kernel
  have head : resource.scope.stem.toList.head? = some '/' := by
    simpa using List.all_eq_true.mp starts _ member
  refine ⟨_, name, ?_, (Url.isPlainPath_append_slash.mp whole).1, isName, notId, ?_, ?_⟩
  · rw [List.append_assoc, List.head?_append, head]
    rfl
  · apply String.toList_inj.mp
    simp only [String.toList_append, String.toList_ofList, List.append_assoc, ← same]
    rfl
  · apply String.toList_inj.mp
    simp only [Collection.place, Resource.collection, Url.writtenPath_append,
      Scope.writtenPath_stem member, written.writtenPath, String.toList_append,
      String.toList_ofList, List.append_assoc, ← same]
    rfl

/-- What a client asks for leads to the place of the collection, or to a record in it. -/
theorem leadsTo_place (origin : Url.IsOrigin (Text.dropTrailing '/' root))
    (plain : ∀ id, customer = some id → Url.IsPlainPath id.toList)
    (member : resource.scope ∈ Scope.administered)
    (isPath : IsCollectionPath resource.path)
    (found : resource.endpoint (.gateway root customer) = .ok endpoint) :
    LeadsTo endpoint.url (resource.collection.place customer) ∧
      ∀ id, LeadsTo (endpoint.itemUrl (Text.decimal id))
        (resource.collection.place customer ++ "/" ++ Text.decimal id) := by
  rcases exists_place member plain isPath
    with ⟨front, name, starts, plainFront, isName, -, asked, placed⟩
  have url := url_gateway found isPath
  rw [asked] at url
  rw [url, placed]
  refine ⟨leadsTo_below origin starts plainFront isName, fun id => ?_⟩
  have head : (front ++ '/' :: name).head? = some '/' := by rw [List.head?_append, starts]; rfl
  have whole := Url.isPlainPath_append_slash.mpr ⟨plainFront, isName.plain⟩
  have leads := leadsTo_below origin head whole (isName_decimal id)
  rw [Url.writtenPath_append_slash, isName.written.writtenPath] at leads
  have item : endpoint.itemUrl (Text.decimal id) = Text.dropTrailing '/' root ++
      String.ofList (front ++ '/' :: name ++ '/' :: (Text.decimal id).toList) := by
    apply String.toList_inj.mp
    simp [Endpoint.itemUrl, url, Url.segment_decimal]
  have place : String.ofList (Url.writtenPath front ++ '/' :: name) ++ "/" ++ Text.decimal id =
      String.ofList (Url.writtenPath front ++ '/' :: name ++ '/' :: (Text.decimal id).toList) := by
    apply String.toList_inj.mp
    simp
  rwa [item, place]

end Paths

section Administered

open Sandbox

/-- Whether a resource is where its records are administered in the style of its scope. -/
structure Resource.IsWellPlaced (resource : Resource) : Prop where
  scope : resource.scope ∈ Scope.administered
  path : IsCollectionPath resource.path
  styled : ∀ customer, Style.ofPath (resource.collection.place customer) = resource.scope.style
  recordStyled : ∀ customer id,
    Style.ofPath (resource.collection.place customer ++ "/" ++ Text.decimal id) =
      resource.scope.style

theorem ofPath_append_decimal (path : String) (id : Nat) :
    Style.ofPath (path ++ "/" ++ Text.decimal id) = Style.ofPath (path ++ "/") := by
  have noSlash : '/' ∉ (Text.decimal id).toList := (isName_decimal id).noSlash
  have item : path ++ "/" ++ Text.decimal id =
      String.ofList (path.toList ++ '/' :: (Text.decimal id).toList) := by
    apply String.toList_inj.mp
    simp
  have front : path ++ "/" = String.ofList (path.toList ++ ['/']) := by
    apply String.toList_inj.mp
    simp
  rw [item, front, ofPath_append_slash _ noSlash]

/-- Whatever belongs to a customer is in the style of ZPA, whoever the customer is. -/
theorem Resource.IsWellPlaced.ofCustomer {resource : Resource}
    (scope : resource.scope ∈ Scope.ofCustomer) (path : IsCollectionPath resource.path) :
    resource.IsWellPlaced := by
  have tested : Scope.ofCustomer.all (fun scope => scope.style == .zpa &&
      (Text.occursIn "/mgmtconfig/".toList scope.stem.toList ||
        Text.occursIn "/userconfig/".toList scope.stem.toList)) = true := by
    decide +kernel
  have marked := List.all_eq_true.mp tested _ scope
  simp only [Bool.and_eq_true, beq_iff_eq, Bool.or_eq_true, occursIn_iff_isInfix] at marked
  rcases marked with ⟨style, mentions⟩
  have styled (place : String) (front : resource.scope.stem.toList <+: place.toList) :
      Style.ofPath place = resource.scope.style := by
    rw [style]
    rcases mentions with management | users
    · exact ofPath_of_isInfix (.inl (management.trans front.isInfix))
    · exact ofPath_of_isInfix (.inr (users.trans front.isInfix))
  have front (customer : Option String) := resource.collection.stem_isPrefix_place customer
  refine ⟨List.mem_append_right [_, _, _] scope, path, fun customer => styled _ (front customer),
    fun customer id => ?_⟩
  apply styled
  rw [String.toList_append, String.toList_append, List.append_assoc]
  exact (front customer).trans (List.prefix_append _ _)

/-- A test for resources of the other products, whose places do not depend on a customer. -/
def isWellPlaced (resource : Resource) : Bool :=
  Scope.administered.contains resource.scope && isCollectionPath resource.path &&
    Style.ofPath (resource.collection.place none) == resource.scope.style &&
      Style.ofPath (resource.collection.place none ++ "/") == resource.scope.style

theorem Resource.IsWellPlaced.of_test {resource : Resource} {service : Product}
    (product : resource.scope = .product service) (tested : isWellPlaced resource = true) :
    resource.IsWellPlaced := by
  simp only [isWellPlaced, Bool.and_eq_true, List.contains_eq_mem, decide_eq_true_eq,
    beq_iff_eq] at tested
  rcases tested with ⟨⟨⟨scope, path⟩, styled⟩, recordStyled⟩
  have same (customer : Option String) :
      resource.collection.place customer = resource.collection.place none := by
    simp only [Collection.place, Resource.collection, product, Scope.customerPart]
  refine ⟨scope, .of_test path, fun customer => ?_, fun customer id => ?_⟩
  · rw [same, styled]
  · rw [same, ofPath_append_decimal, recordStyled]

theorem isWellPlaced_of_listings {listings : List Listing} (service : Product)
    (tested : listings.all (fun listing => listing.resource.scope == .product service &&
      isWellPlaced listing.resource) = true)
    {listing : Listing} (member : listing ∈ listings) : listing.resource.IsWellPlaced := by
  have both := List.all_eq_true.mp tested listing member
  rw [Bool.and_eq_true, beq_iff_eq] at both
  exact .of_test both.1 both.2

/-- The rules of a policy set are a collection, whatever text names the set. -/
theorem isCollectionPath_policyRules (policySet : String) :
    IsCollectionPath (Zpa.policyRules policySet).path := by
  have text : (Zpa.policyRules policySet).path.toList =
      "policySet".toList ++ '/' :: ((Url.segment policySet).toList ++ '/' :: "rule".toList) := by
    simp [Zpa.policyRules, Zpa.managed, String.join]
  have front : Url.isWrittenPath "policySet".toList = true := by decide +kernel
  have back : Url.isWrittenPath "rule".toList = true := by decide +kernel
  have last : (splitLast ("/" ++ (Zpa.policyRules policySet).path)).2 = "rule" := by
    have whole : "/" ++ (Zpa.policyRules policySet).path = String.ofList
        ("/policySet/".toList ++ (Url.segment policySet).toList ++ '/' :: "rule".toList) := by
      apply String.toList_inj.mp
      rw [String.toList_append, text]
      simp
    rw [whole, splitLast_append_slash _ (by decide)]
    rfl
  refine ⟨?_, ?_, ?_, ?_, ?_, ?_⟩
  · simp [text]
  · intro c member
    rw [text] at member
    rcases List.mem_append.mp member with inFront | member
    · exact Url.isWritten_of_isWrittenPath front c inFront
    rcases List.mem_cons.mp member with rfl | member
    · exact ⟨by decide, by decide⟩
    rcases List.mem_append.mp member with inSegment | member
    · exact Url.isWritten_segment policySet c inSegment
    rcases List.mem_cons.mp member with rfl | inBack
    · exact ⟨by decide, by decide⟩
    · exact Url.isWritten_of_isWrittenPath back c inBack
  · rw [text]
    exact Url.isPlainPath_append_slash.mpr ⟨Url.isPlainPath_of_isWrittenPath front,
      Url.isPlainPath_append_slash.mpr
        ⟨Url.isPlainPath_segment policySet, Url.isPlainPath_of_isWrittenPath back⟩⟩
  · rw [last]
    decide
  · rw [last]
    decide
  · rw [last]
    decide

/-- Every resource whose records are administered is well placed. -/
theorem Resource.IsAdministered.isWellPlaced {resource : Resource}
    (administered : resource.IsAdministered) : resource.IsWellPlaced := by
  cases administered with
  | @listed product listing offered member =>
      simp only [List.mem_cons, List.not_mem_nil, or_false] at offered
      rcases offered with rfl | rfl | rfl | rfl
      · exact isWellPlaced_of_listings .zia (by decide +kernel) member
      · have tested : Zpa.listings.all (fun listing =>
            Scope.ofCustomer.contains listing.resource.scope &&
              isCollectionPath listing.resource.path) = true := by
          decide +kernel
        have both := List.all_eq_true.mp tested listing member
        rw [Bool.and_eq_true, List.contains_eq_mem, decide_eq_true_eq] at both
        exact .ofCustomer both.1 (.of_test both.2)
      · exact isWellPlaced_of_listings .zcon (by decide +kernel) member
      · exact isWellPlaced_of_listings .zidentity (by decide +kernel) member
  | provisioningKeys association =>
      refine .ofCustomer (List.mem_cons_self ..) (.of_test ?_)
      cases association <;> decide +kernel
  | policyRules policySet =>
      exact .ofCustomer (List.mem_cons_self ..) (isCollectionPath_policyRules policySet)

end Administered

end CloudAdmin
