import Delegation.Proofs.Authority.ChainHeaders
import Delegation.Proofs.Authority.Registration
import Delegation.Proofs.Authority.Sending
import Delegation.Proofs.Url.ClosingSlash

/-!
# Where operations are asked

The address of an operation extends the address of the authority: the segments of its path come
first, whether or not it ends with a slash, and the segment of the operation follows. The only
parameter says whether further services are asked; what the address of the authority has for a
query or a fragment is dropped. A slash at the end of the authority's path makes no difference.
-/

namespace Delegation
namespace Authority

/-- The segments of a path that stand for a place; an empty one at the end does not. -/
def places (list : List String) : List String :=
  if list.getLast? = some "" then list.dropLast else list

/-- The parameters of a query, each with its name and its value. -/
def parameters (query : String) : List (List Char × List Char) :=
  (Text.piecesAt '&' query.toList).map fun piece =>
    (Text.cutFirst '=' piece).getD (piece, [])

/-- The value of the parameter of a request. -/
def flagText (includeRemote : Bool) : String :=
  if includeRemote then "true" else "false"

/-- An address is the one of an operation below the address of an authority. -/
structure IsEndpoint (base : Url) (operation : Operation) (includeRemote : Bool) (url : Url) :
    Prop where
  scheme : url.scheme = base.scheme
  username : url.username = base.username
  password : url.password = base.password
  host : url.host = base.host
  port : url.port = base.port
  /-- The segments of the authority come before the one of the operation. -/
  path : ∃ list, base.path = .segments list ∧
    url.path = .segments (places list ++ [operation.path])
  query : url.query = some (Request.includeRemoteKey ++ "=" ++ flagText includeRemote)
  /-- From the query, one parameter is read, with the flag for a value. -/
  parameters : url.query.map parameters =
    some [(Request.includeRemoteKey.toList, (flagText includeRemote).toList)]
  fragment : url.fragment = none
  /-- From what a request names, the same path and the same query are read. -/
  written : ∃ path query, Url.Reader.splitTail url.target.toList = (path, some query, none) ∧
    url.path = .segments (Url.Reader.pathAfterAuthority true false path) ∧
    url.query = some (String.ofList query)

/-! ## The address of an operation -/

theorem closed_eq_places (list : List String) :
    (Url.Path.segments list).closed = .segments (places list ++ [""]) := by
  simp only [Url.Path.closed, places]
  split
  · rename_i ends
    rw [List.dropLast_append_getLast? "" ends]
  · rfl

theorem isSettled_path (operation : Operation) : Url.IsSettled operation.path := by
  have plain : operation.path.toList.all (fun c => !Url.pathSet c) = true := by
    cases operation <;> decide +kernel
  have whole : operation.path.toList.all (fun c => !Url.Reader.isSlash true c) = true := by
    cases operation <;> decide +kernel
  constructor
  · simpa using List.all_eq_true.mp plain
  · simpa using List.all_eq_true.mp whole
  all_goals cases operation <;> decide +kernel

theorem arePath_places
    {list : List String}
    (path : Url.ArePath list)
    (operation : Operation) :
    Url.ArePath (places list ++ [operation.path]) := by
  refine Url.arePath_concat (fun segment inside => path.settled segment ?_)
    (isSettled_path operation)
  unfold places at inside
  split at inside
  · exact List.dropLast_subset _ inside
  · exact inside

theorem parameters_flag (includeRemote : Bool) :
    parameters (Request.includeRemoteKey ++ "=" ++ flagText includeRemote) =
      [(Request.includeRemoteKey.toList, (flagText includeRemote).toList)] := by
  cases includeRemote <;> decide +kernel

theorem noFragment_flag (includeRemote : Bool) :
    '#' ∉ (Request.includeRemoteKey ++ "=" ++ flagText includeRemote).toList := by
  cases includeRemote <;> decide +kernel

/-- Below a closed base, the path of an operation follows the places of the base. -/
theorem endpoint?_closed
    {base : Url}
    {list : List String}
    (segments : base.path = .segments list)
    (operation : Operation)
    (includeRemote : Bool) :
    Request.endpoint? base.closed operation includeRemote =
      some { base with
        path := .segments (places list ++ [operation.path])
        query := some (Request.includeRemoteKey ++ "=" ++ flagText includeRemote)
        fragment := none } := by
  simp [Request.endpoint?, Url.closed, segments, closed_eq_places, Url.sibling?,
    Url.withParameter, flagText]

/-- Below the address of an authority, an operation has the address that extends it. -/
theorem exists_isEndpoint
    {base : Url}
    {list : List String}
    (segments : base.path = .segments list)
    (path : Url.ArePath list)
    (operation : Operation)
    (includeRemote : Bool) :
    ∃ url, Request.endpoint? base.closed operation includeRemote = some url ∧
      IsEndpoint base operation includeRemote url := by
  refine ⟨_, endpoint?_closed segments operation includeRemote, ?_⟩
  have extended := arePath_places path operation
  constructor
  case path => exact ⟨list, segments, rfl⟩
  case parameters => exact congrArg some (parameters_flag includeRemote)
  case written =>
    refine ⟨_, _, Url.splitTail_target rfl extended rfl (noFragment_flag includeRemote), ?_, ?_⟩
    · rw [Url.Reader.pathAfterAuthority_render extended]
    · rw [String.ofList_toList]
  all_goals rfl

/-! ## The requests of a client -/

namespace Client

/-- A client asks for an operation at one address: its requests go there, and there are some for
each chain with proper names. -/
structure AsksAt (client : Client) (operation : Operation) (includeRemote : Bool) (url : Url) :
    Prop where
  endpoint : Request.endpoint? client.baseUri operation includeRemote = some url
  only : ∀ {α : Type} (script : Script) (chain : Chain) (read : Json → Option α),
    ∀ request ∈ (client.call script operation chain includeRemote read).requests,
      request.url = url
  sent : ∀ {α : Type} (script : Script) (chain : Chain) (read : Json → Option α),
    HasHeaderNames chain →
      Request.forChain url chain ∈ (client.call script operation chain includeRemote read).requests

/-- A client asks below the address of an authority, to which a slash is added unless its path
ends with one. -/
structure Extends (client : Client) (base : Url) : Prop where
  baseUri : client.baseUri =
    if base.path.render.toList.getLast? = some '/' then base
    else base.withPath (base.path.render ++ "/")
  asks : ∀ operation includeRemote, ∃ url, client.AsksAt operation includeRemote url ∧
    IsEndpoint base operation includeRemote url

variable {client : Client} {name : String} {settings : FederationSettings}

/-- A client asks at the address that is formed of its base. -/
theorem asksAt_of_endpoint?
    {operation : Operation}
    {includeRemote : Bool}
    {url : Url}
    (web : client.baseUri.IsWeb)
    (endpoint : Request.endpoint? client.baseUri operation includeRemote = some url) :
    client.AsksAt operation includeRemote url := by
  refine ⟨endpoint, fun script chain read request sent => ?_, fun script chain read proper => ?_⟩
  · have known := mem_requests_call_iff.mp sent
    rw [request?, endpoint] at known
    obtain ⟨same, -⟩ := Option.filter_eq_some_iff.mp known
    rw [← Option.some.inj same]
    rfl
  · obtain ⟨other, again, sendable⟩ := exists_request web proper operation includeRemote
    obtain rfl := Option.some.inj (endpoint.symm.trans again)
    rw [mem_requests_call_iff, request?, endpoint]
    exact Option.filter_eq_some_iff.mpr ⟨rfl, sendable⟩

/-- A client that is set up with a web address asks below it. -/
theorem extends_of_ofSettings
    {base : Url}
    (read : Url.parse? settings.uri = some base)
    (made : ofSettings name settings = .ok client)
    (web : client.baseUri.scheme ∈ ["http", "https"]) :
    client.Extends base := by
  obtain ⟨again, readAgain, baseUri⟩ := (ofSettings_eq_ok_iff.mp made).baseUri
  obtain rfl := Option.some.inj (read.symm.trans readAgain)
  have itsWeb : base.scheme ∈ ["http", "https"] := by rwa [baseUri] at web
  obtain ⟨list, segments, path⟩ := Url.arePath_of_parse? read itsWeb
  refine ⟨baseUri.trans (Url.closed_eq_withPath itsWeb segments path), ?_⟩
  intro operation includeRemote
  obtain ⟨url, endpoint, isEndpoint⟩ := exists_isEndpoint segments path operation includeRemote
  rw [← baseUri] at endpoint
  exact ⟨url, asksAt_of_endpoint? (isWeb_of_ofSettings made web) endpoint, isEndpoint⟩

/-- Another text for the same closed address makes the same client. -/
theorem ofSettings_congr
    {base otherBase : Url}
    {other : String}
    (made : ofSettings name settings = .ok client)
    (read : Url.parse? settings.uri = some base)
    (readOther : Url.parse? other = some otherBase)
    (same : otherBase.closed = base.closed) :
    ofSettings name { settings with uri := other } = .ok client := by
  obtain ⟨itsName, ⟨again, readAgain, baseUri⟩, maxBytes, listPolicy, flushPolicy, cacheLimits⟩ :=
    ofSettings_eq_ok_iff.mp made
  obtain rfl := Option.some.inj (read.symm.trans readAgain)
  exact ofSettings_eq_ok_iff.mpr
    ⟨itsName, ⟨otherBase, readOther, baseUri.trans same.symm⟩, maxBytes, listPolicy, flushPolicy,
      cacheLimits⟩

end Client

/-! A client below an address with every part. -/

namespace Sample

/-- The settings of an authority whose address has a query and a fragment. -/
def northern : FederationSettings := { uri := "https://a:b@north:8443/labels/v2?x=1#top" }

/-- The address of the authority. -/
def northernBase : Url where
  scheme := "https"
  username := "a"
  password := "b"
  host := some (.name "north")
  port := some 8443
  path := .segments ["labels", "v2"]
  query := some "x=1"
  fragment := some "top"

/-- Where credentials are flushed. -/
def northernFlush : Url where
  scheme := "https"
  username := "a"
  password := "b"
  host := some (.name "north")
  port := some 8443
  path := .segments ["labels", "v2", "flushCachedCredentials"]
  query := some "includeRemoteServices=true"

/-- The client of the authority. -/
def northernClient : Client where
  name := "north"
  baseUri := northernBase.closed
  maxBytes := northern.maxBytes?
  listPolicy := northern.list.policy
  flushPolicy := northern.flush.policy
  cacheLimits := .ofSettings northern.cache

end Sample
end Authority
end Delegation
