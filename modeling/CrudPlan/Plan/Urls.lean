import CrudPlan.Descriptor.Document
import CrudPlan.Issue
import CrudPlan.Plan.CollectionKey
import CrudPlan.Template.Basic

/-!
# Request URLs

* `Urls` holds the URL and the request method of each operation;
* `Urls.resolve` fills in what a descriptor leaves open. A resource that is created by `POST` has
  the URL of its collection for its own unless it says otherwise; one that is created by another
  method has to say. Creating goes to the collection for `POST` and to the resource otherwise;
  updating and deleting go to the resource.
-/

namespace CrudPlan

/-- The URLs and request methods of the operations on a resource. -/
structure Urls where
  /-- The URL of the resource. -/
  selfLink : String
  /-- The URL that creates it. -/
  createUrl : String
  /-- The URL that updates it. -/
  updateUrl : String
  /-- The URL that deletes it. -/
  deleteUrl : String
  /-- What is appended to the URL on reading. -/
  readQueryParams : String
  /-- The key of the list in a response of the collection. -/
  collectionUrlKey : String
  /-- The method that creates it. -/
  createVerb : String
  /-- The method that reads it. -/
  readVerb : String
  /-- The method that updates it. -/
  updateVerb : String
  /-- The method that deletes it. -/
  deleteVerb : String
  /-- The URL of the collection in the asset inventory. -/
  caiBaseUrl : Option String := none
  deriving DecidableEq, Repr, Inhabited

namespace Urls

/-- Reads URLs that were resolved elsewhere; other members are left alone. -/
def read : Reader Urls := Reader.record fun ms =>
  Urls.mk <$> Members.required ms "self_link" .text
    <*> Members.required ms "create_url" .text
    <*> Members.required ms "update_url" .text
    <*> Members.required ms "delete_url" .text
    <*> Members.required ms "read_query_params" .text
    <*> Members.required ms "collection_url_key" .text
    <*> Members.required ms "create_verb" .text
    <*> Members.required ms "read_verb" .text
    <*> Members.required ms "update_verb" .text
    <*> Members.required ms "delete_verb" .text
    <*> Members.optional ms "cai_base_url" (.nullable .text) none

/-- The dump of URLs. -/
def toJson (u : Urls) : Json := .object [
  ("self_link", .text u.selfLink),
  ("create_url", .text u.createUrl),
  ("update_url", .text u.updateUrl),
  ("delete_url", .text u.deleteUrl),
  ("read_query_params", .text u.readQueryParams),
  ("collection_url_key", .text u.collectionUrlKey),
  ("create_verb", .text u.createVerb),
  ("read_verb", .text u.readVerb),
  ("update_verb", .text u.updateVerb),
  ("delete_verb", .text u.deleteVerb),
  ("cai_base_url", .optText u.caiBaseUrl)]

/-! ### Resolution -/

/-- The name under which issues with URLs are reported. -/
def resolver : String := "urls"

/-- The URL templates that a descriptor gives, with their fields. -/
def templates (e : Endpoints) : List (String × String) :=
  [("base_url", some e.baseUrl), ("self_link", e.selfLink), ("create_url", e.createUrl),
    ("update_url", e.updateUrl), ("delete_url", e.deleteUrl),
    ("cai_base_url", e.caiBaseUrl)].filterMap fun (field, url) => url.map (field, ·)

/-- The issue with a template that cannot be read. -/
def templateIssue? (field source : String) : Option Issue :=
  match Template.compile source with
  | .ok _ => none
  | .error e => some ⟨.malformedTemplate, resolver, field, e.message⟩

/-- The issues with the templates of the URLs. -/
def templateIssues (e : Endpoints) : List Issue :=
  (templates e).filterMap fun (field, source) => templateIssue? field source

/-- Whether the resource is created by `POST`. -/
def isPosted (e : Endpoints) : Bool := e.createVerb.val = .post

/-- The URL of the resource, if it can be told. -/
def selfLink? (e : Endpoints) : Option String :=
  e.selfLink <|> if isPosted e then some e.baseUrl else none

/-- The issue with a resource whose URL cannot be told. -/
def selfLinkIssue (e : Endpoints) : Issue :=
  ⟨.unresolvableUrl, resolver, "self_link",
    "self_link must be set explicitly when create_verb is " ++ e.createVerb.val.text⟩

/-- The issues with the URLs of a descriptor. -/
def issues (e : Endpoints) : List Issue :=
  templateIssues e ++ (if (selfLink? e).isSome then [] else [selfLinkIssue e])

/-- The key that is given, unless it is empty. -/
def givenKey? : Option String → Option String
  | some "" => none
  | key => key

/-- The URLs of a resource whose own URL is `selfLink`. -/
def ofSelfLink (name : String) (e : Endpoints) (selfLink : String) : Urls where
  selfLink := selfLink
  createUrl := e.createUrl.getD (if isPosted e then e.baseUrl else selfLink)
  updateUrl := e.updateUrl.getD selfLink
  deleteUrl := e.deleteUrl.getD selfLink
  readQueryParams := e.readQueryParams
  collectionUrlKey := (givenKey? e.collectionUrlKey).getD (collectionKey name)
  createVerb := e.createVerb.val.text
  readVerb := e.readVerb.val.text
  updateVerb := e.updateVerb.val.text
  deleteVerb := e.deleteVerb.val.text
  caiBaseUrl := e.caiBaseUrl

/-- The URLs of a resource, or every issue with them. -/
def resolve (d : Descriptor) : Resolved Urls :=
  match issues d.endpoints, selfLink? d.endpoints with
  | [], some selfLink => .ok (ofSelfLink d.name d.endpoints selfLink)
  | found, _ => .error found

end Urls

end CrudPlan
