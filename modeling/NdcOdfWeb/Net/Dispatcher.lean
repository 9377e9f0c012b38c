import NdcOdfWeb.Net.FileServer

/-! The routing of the requests of the clients (`ClientRequestDispatcher`). -/

namespace NdcOdfWeb.Net

open NdcOdfWeb.Foundation
open NdcOdfWeb.Foundation.Procedure
open NdcOdfWeb.Protocol

/-- `Poco::StringTokenizer` with the separators `/?`. -/
def pathTokens (uri : Text) : List Text :=
  if uri = [] then [] else uri.splitOnP (fun c => c = '/' || c = '?')

/-- The same with `TOK_IGNORE_EMPTY | TOK_TRIM`. -/
def trimmedPathTokens (uri : Text) : List Text :=
  ((pathTokens uri).map
    (fun token => (token.dropWhile isSpace).rdropWhile isSpace)).filter (· ≠ [])

/-- `StringTokenizer::operator[]`, which throws. -/
def token (tokens : List Text) (index : Nat) : HttpProcedure Text :=
  orRaise .range tokens[index]?

/-- `size() >= least && segments[index] == text`. -/
def segmentIs (segments : List Text) (least index : Nat) (text : Text) : HttpProcedure Bool :=
  if least ≤ segments.length then do
    let segment ← access segments index
    pure (decide (segment = text))
  else pure false

/-- `count() >= least && tokens[index] == text`. -/
def tokenIs (tokens : List Text) (least index : Nat) (text : Text) : HttpProcedure Bool :=
  if least ≤ tokens.length then do
    let found ← token tokens index
    pure (decide (found = text))
  else pure false

/-- What is posted with a form. -/
structure PostForm where
  filename : Text
  format : Option Text
  childid : Option Text
  name : Option Text

/-- What the handlers use of a broker. -/
structure PostBroker where
  jailId : Text
  downloadURL : Text → Text

structure Dispatcher where
  serviceRoot : Text
  files : FileServer
  serve : Handler → HttpRequest → Work
  convertToEnabled : Bool
  readForm : HttpRequest → Option PostForm
  allowConvertTo : HttpRequest → Bool
  decode : Text → Option Text
  docKey : Text → Option Text
  docBrokers : Text → Option PostBroker
  createSession : Text → Bool
  insertFile : Text → Text → Work
  fileExists : Text → Text → Bool
  sendFile : Text → Text → Work
  clientWsUpgrade : HttpRequest → Text → Work

namespace Dispatcher

variable (dispatcher : Dispatcher) (request : HttpRequest)

/-- The format: prefer what is in the URI. -/
def convertFormat (tokens : List Text) (form : PostForm) : HttpProcedure Text :=
  if 3 < tokens.length then token tokens 3 else pure (form.format.getD [])

def convertTo (tokens : List Text) : HttpProcedure Unit := do
  cause (.reached .convertTo)
  let form ← orRaise .other (dispatcher.readForm request)
  (if dispatcher.allowConvertTo request = false then cause (.sent 403)
  else do
    let format ← convertFormat tokens form
    (if form.filename ≠ [] ∧ format ≠ [] then do
      let docKey ← orRaise .other (dispatcher.docKey form.filename)
      (if dispatcher.createSession docKey = true then cause .moved else raise .badRequest)
    else raise .badRequest))

/-- The broker of the document that the third token names. -/
def namedBroker (tokens : List Text) : HttpProcedure PostBroker := do
  let name ← token tokens 2
  let decodedUri ← orRaise .other (dispatcher.decode name)
  let docKey ← orRaise .other (dispatcher.docKey decodedUri)
  orRaise .badRequest (dispatcher.docBrokers docKey)

/-- A form that is not complete ends in the error for unknown requests. -/
def insertFileRequest (tokens : List Text) : HttpProcedure Unit := do
  cause (.reached .insertFile)
  let form ← orRaise .other (dispatcher.readForm request)
  (match form.childid, form.name with
  | some formChildid, some formName => do
      let broker ← dispatcher.namedBroker tokens
      (if broker.jailId ≠ formChildid then raise .badRequest
      else if '/' ∉ formChildid ∧ '/' ∉ formName then do
        (dispatcher.insertFile formChildid formName).perform
        cause (.sent 200)
      else raise .badRequest)
  | _, _ => raise .badRequest)

def download (tokens : List Text) : HttpProcedure Unit := do
  cause (.reached .download)
  let broker ← dispatcher.namedBroker tokens
  let downloadId ← token tokens 4
  let url := broker.downloadURL downloadId
  let decoded ← orRaise .other (dispatcher.decode url)
  (if url ≠ [] ∧ dispatcher.fileExists broker.jailId decoded = true then
    (dispatcher.sendFile broker.jailId decoded).perform
  else cause (.sent 404))

def handlePostRequest : HttpProcedure Unit := do
  let tokens := pathTokens request.uri
  let isConvertTo ← tokenIs tokens 3 2 "convert-to".toList
  (if isConvertTo && dispatcher.convertToEnabled then dispatcher.convertTo request tokens
  else do
    let isInsertFile ← tokenIs tokens 4 3 "insertfile".toList
    (if isInsertFile then dispatcher.insertFileRequest request tokens
    else do
      let isDownload ← tokenIs tokens 4 3 "download".toList
      (if isDownload then dispatcher.download tokens else raise .badRequest)))

/-- The requests that are compared as a whole. -/
def exactRoute : Option Handler :=
  if (request.method = "GET".toList ∨ request.method = "HEAD".toList) ∧ request.uri = "/".toList then
    some .root
  else if request.method = "GET".toList ∧ request.uri = "/favicon.ico".toList then some .favicon
  else if request.method = "GET".toList ∧ request.uri = "/hosting/discovery".toList then
    some .wopiDiscovery
  else if request.method = "GET".toList ∧ request.uri = "/hosting/version".toList then
    some .version
  else if request.method = "GET".toList ∧ request.uri = "/hosting/capabilities".toList then
    some .capabilities
  else if request.method = "GET".toList ∧ request.uri = "/robots.txt".toList then
    some .robotsTxt
  else none

/-- The `Upgrade` header asks for a WebSocket. -/
def upgrades : Bool :=
  (request.header "Upgrade".toList).any (·.map Char.toLower = "websocket".toList)

def reach (handler : Handler) : HttpProcedure Unit := do
  cause (.reached handler)
  (dispatcher.serve handler request).perform

/-- The requests of the documents. -/
def routeTokens : HttpProcedure Unit := do
  let reqPathTokens := trimmedPathTokens request.uri
  let isLool ← tokenIs reqPathTokens 1 0 "lool".toList
  (if upgrades request = false && isLool then dispatcher.handlePostRequest request
  else do
    let isWs ← tokenIs reqPathTokens 3 2 "ws".toList
    (if isLool && isWs && upgrades request then do
      let url ← token reqPathTokens 1
      let decodedUri ← orRaise .other (dispatcher.decode url)
      cause (.reached .clientWsUpgrade)
      (dispatcher.clientWsUpgrade request decodedUri).perform
    else cause (.sent 400)))

/-- The requests for none of the other handlers. The second segment is compared for the
repository of templates, which is switched off (`reqPathSegs[1] == "templaterepo" && false`).
-/
def routeOther (reqPathSegs : List Text) : HttpProcedure Unit := do
  let _isTemplaterepo ← access reqPathSegs 1
  dispatcher.routeTokens request

/-- The routing of a request whose path has been split. -/
def routeSegments (reqPathSegs : List Text) : HttpProcedure Unit := do
  let isLoleaflet ← segmentIs reqPathSegs 1 0 "loleaflet".toList
  (if isLoleaflet then do
    cause (.reached .fileServer)
    dispatcher.files.handleRequest request
  else do
    let isLool ← segmentIs reqPathSegs 2 0 "lool".toList
    let isAdminws ← segmentIs reqPathSegs 2 1 "adminws".toList
    (if isLool && isAdminws then dispatcher.reach request .admin
    else
      match exactRoute request with
      | some handler => dispatcher.reach request handler
      | none => dispatcher.routeOther request reqPathSegs))

def routeRequest : HttpProcedure Unit := do
  let requestUri ← orRaise .other (dispatcher.files.uri.parse request.uri)
  dispatcher.routeSegments request (getPathSegments (dispatcher.files.uri.getPath requestUri))

/-- The request without the service root. -/
def withoutRoot : HttpRequest :=
  { request with uri := request.uri.drop dispatcher.serviceRoot.length }

/-- `handleIncomingMessage`, after the header is read. -/
def handleIncomingMessage : HttpProcedure Unit :=
  tryCatch
    (if dispatcher.serviceRoot.isPrefixOf request.uri then
      dispatcher.routeRequest (dispatcher.withoutRoot request)
    else raise .badRequest)
    (fun _ => cause (.sent 400))

end Dispatcher

-----------------------------------------------------------------------------------------
-- Routed requests
-----------------------------------------------------------------------------------------

/-- Existing segments only are looked at, and a handler or an error response answers. -/
structure Routed (run : HttpProcedure Unit) : Prop where
  inside : Inside run
  answered : Causes HttpEvent.answers run

namespace Dispatcher

variable (dispatcher : Dispatcher) (request : HttpRequest)

/-- The segments that the routing looks at exist: a request for the file server keeps a segment
when its path is normalised, and a request that no earlier route takes has two.
-/
def HasSegments (request : HttpRequest) : Prop :=
  ∀ uri : dispatcher.files.uri.URI,
    dispatcher.files.uri.parse request.uri = some uri
    → if (getPathSegments (dispatcher.files.uri.getPath uri))[0]? = some "loleaflet".toList then
        getPathSegments (dispatcher.files.uri.getPath (dispatcher.files.uri.normalize uri)) ≠ []
      else
        exactRoute request = none
        → 2 ≤ (getPathSegments (dispatcher.files.uri.getPath uri)).length

/-- A token that is not there is an exception. -/
theorem inside_token (tokens : List Text) (index : Nat) : Inside (token tokens index) :=
  inside_orRaise _ _

/-- A token is compared once there are enough of them. -/
theorem inside_tokenIs (tokens : List Text) (least index : Nat) (text : Text)
    : Inside (tokenIs tokens least index text) := by
  rw [tokenIs]
  split
  · exact (inside_token tokens index).bind (fun _ => inside_pure _)
  · exact inside_pure _

/-- A comparison behind a check of the size, and its result. -/
theorem segmentIs_eq {segments : List Text} {least index : Nat} (text : Text)
    (checked : index < least)
    : segmentIs segments least index text
      = pure (decide (least ≤ segments.length ∧ segments[index]? = some text)) := by
  rw [segmentIs]
  split
  · next long =>
      have exists_ : segments[index]? = some segments[index] :=
        List.getElem?_eq_getElem (Nat.lt_of_lt_of_le checked long)
      rw [access, exists_]
      change pure (decide (segments[index] = text)) = _
      simp only [long, true_and, Option.some.injEq]
  · next short =>
      simp only [short, false_and, decide_false]

/-- The name of the document is a checked token. -/
theorem inside_namedBroker (tokens : List Text) : Inside (dispatcher.namedBroker tokens) := by
  rw [namedBroker]
  apply (inside_token tokens 2).bind
  intro name
  apply (inside_orRaise _ _).bind
  intro decodedUri
  exact (inside_orRaise _ _).bind (fun _ => inside_orRaise _ _)

/-- To convert a document reads checked tokens only. -/
theorem inside_convertTo (tokens : List Text) : Inside (dispatcher.convertTo request tokens) := by
  rw [convertTo]
  apply (inside_cause _).bind
  intro _
  apply (inside_orRaise _ _).bind
  intro form
  split
  · exact inside_cause _
  · apply Inside.bind
    · rw [convertFormat]
      split
      · exact inside_token tokens 3
      · exact inside_pure _
    · intro format
      split
      · apply (inside_orRaise _ _).bind
        intro docKey
        split
        · exact inside_cause _
        · exact inside_raise _
      · exact inside_raise _

/-- To insert a file reads checked tokens only. -/
theorem inside_insertFileRequest (tokens : List Text)
    : Inside (dispatcher.insertFileRequest request tokens) := by
  rw [insertFileRequest]
  apply (inside_cause _).bind
  intro _
  apply (inside_orRaise _ _).bind
  intro form
  split
  · apply (dispatcher.inside_namedBroker tokens).bind
    intro broker
    split
    · exact inside_raise _
    · split
      · exact (FileServer.inside_perform _).bind (fun _ => inside_cause _)
      · exact inside_raise _
  · exact inside_raise _

/-- A download reads checked tokens only. -/
theorem inside_download (tokens : List Text) : Inside (dispatcher.download tokens) := by
  rw [download]
  apply (inside_cause _).bind
  intro _
  apply (dispatcher.inside_namedBroker tokens).bind
  intro broker
  apply (inside_token tokens 4).bind
  intro downloadId
  apply (inside_orRaise _ _).bind
  intro decoded
  split
  · exact FileServer.inside_perform _
  · exact inside_cause _

/-- Post requests look at existing tokens only: the fifth token of a download is checked by the
tokenizer.
-/
theorem inside_handlePostRequest : Inside (dispatcher.handlePostRequest request) := by
  rw [handlePostRequest]
  apply (inside_tokenIs _ _ _ _).bind
  intro isConvertTo
  split
  · exact dispatcher.inside_convertTo request _
  · apply (inside_tokenIs _ _ _ _).bind
    intro isInsertFile
    split
    · exact dispatcher.inside_insertFileRequest request _
    · apply (inside_tokenIs _ _ _ _).bind
      intro isDownload
      split
      · exact dispatcher.inside_download _
      · exact inside_raise _

/-- A handler that is reached answers or hands on to the file server. -/
theorem inside_reach (handler : Handler) : Inside (dispatcher.reach request handler) :=
  (inside_cause _).bind (fun _ => FileServer.inside_perform _)

/-- The routes by tokens read checked ones only. -/
theorem inside_routeTokens : Inside (dispatcher.routeTokens request) := by
  rw [routeTokens]
  apply (inside_tokenIs _ _ _ _).bind
  intro isLool
  split
  · exact dispatcher.inside_handlePostRequest request
  · apply (inside_tokenIs _ _ _ _).bind
    intro isWs
    split
    · apply (inside_token _ 1).bind
      intro url
      apply (inside_orRaise _ _).bind
      intro decodedUri
      exact (inside_cause _).bind (fun _ => FileServer.inside_perform _)
    · exact inside_cause _

/-- The route of a request whose path has been split. -/
theorem routeSegments_eq (reqPathSegs : List Text)
    : dispatcher.routeSegments request reqPathSegs
      = if reqPathSegs[0]? = some "loleaflet".toList then do
          cause (.reached .fileServer)
          dispatcher.files.handleRequest request
        else if 2 ≤ reqPathSegs.length ∧ reqPathSegs[0]? = some "lool".toList
            ∧ reqPathSegs[1]? = some "adminws".toList then
          dispatcher.reach request .admin
        else
          match exactRoute request with
          | some handler => dispatcher.reach request handler
          | none => dispatcher.routeOther request reqPathSegs := by
  have long : reqPathSegs[0]? = some "loleaflet".toList → 1 ≤ reqPathSegs.length := by
    intro found
    obtain ⟨exists_, _⟩ := List.getElem?_eq_some_iff.mp found
    exact exists_
  rw [routeSegments, segmentIs_eq _ (by decide : 0 < 1), returned_bind]
  by_cases loleaflet : reqPathSegs[0]? = some "loleaflet".toList
  · rw [if_pos (decide_eq_true ⟨long loleaflet, loleaflet⟩), if_pos loleaflet]
  · rw [if_neg (by simp only [loleaflet, and_false, decide_false]; exact Bool.false_ne_true),
      if_neg loleaflet, segmentIs_eq _ (by decide : 0 < 2), returned_bind,
      segmentIs_eq _ (by decide : 1 < 2), returned_bind]
    refine if_congr ?_ rfl rfl
    rw [Bool.and_eq_true, decide_eq_true_iff, decide_eq_true_iff]
    constructor
    · rintro ⟨⟨size, first⟩, _, second⟩
      exact ⟨size, first, second⟩
    · rintro ⟨size, first, second⟩
      exact ⟨⟨size, first⟩, size, second⟩

/-- The last route reads the second segment unchecked. -/
theorem inside_routeOther_iff (reqPathSegs : List Text)
    : Inside (dispatcher.routeOther request reqPathSegs) ↔ 2 ≤ reqPathSegs.length := by
  rw [routeOther, inside_bind_iff, inside_access_iff]
  constructor
  · exact And.left
  · exact fun long => ⟨long, fun _ _ => dispatcher.inside_routeTokens request⟩

/-- Of the routes by segments, the file server and the last one decide. -/
theorem inside_routeSegments_iff (reqPathSegs : List Text)
    : Inside (dispatcher.routeSegments request reqPathSegs)
      ↔ if reqPathSegs[0]? = some "loleaflet".toList then
          Inside (dispatcher.files.handleRequest request)
        else exactRoute request = none → 2 ≤ reqPathSegs.length := by
  rw [routeSegments_eq]
  split
  · constructor
    · exact fun inside => (inside_bind_iff.mp inside).2 () rfl
    · exact fun inside => (inside_cause _).bind (fun _ => inside)
  · split
    · next admin =>
        exact iff_of_true (dispatcher.inside_reach request .admin) (fun _ => admin.1)
    · split
      · next handler exact_ =>
          refine iff_of_true (dispatcher.inside_reach request handler) ?_
          rw [exact_]
          intro none'
          cases none'
      · next exact_ =>
          rw [dispatcher.inside_routeOther_iff request]
          exact ⟨fun long _ => long, fun long => long exact_⟩

/-- A request stays inside its segments if and only if it has those that its route reads. -/
theorem inside_routeRequest_iff
    : Inside (dispatcher.routeRequest request) ↔ dispatcher.HasSegments request := by
  rw [routeRequest, inside_bind_iff, HasSegments]
  cases parsed : dispatcher.files.uri.parse request.uri with
  | none =>
      refine iff_of_true ⟨inside_raise _, ?_⟩ ?_
      · intro uri same
        cases same
      · intro uri same
        cases same
  | some uri =>
      have served : Inside (dispatcher.files.handleRequest request)
          ↔ getPathSegments (dispatcher.files.uri.getPath (dispatcher.files.uri.normalize uri))
            ≠ [] := by
        rw [FileServer.inside_handleRequest_iff, parsed]
        constructor
        · exact fun several => several uri rfl
        · rintro several _ ⟨⟩
          exact several
      constructor
      · rintro ⟨_, inside⟩ _ ⟨⟩
        rw [← served]
        exact (dispatcher.inside_routeSegments_iff request _).mp (inside uri rfl)
      · intro segments
        refine ⟨inside_pure uri, ?_⟩
        rintro _ ⟨⟩
        rw [inside_routeSegments_iff, served]
        exact segments uri rfl

/-- A request outside the service root is turned away before its segments are read. -/
theorem inside_handleIncomingMessage_iff
    : Inside (dispatcher.handleIncomingMessage request)
      ↔ dispatcher.serviceRoot.isPrefixOf request.uri = true
        → dispatcher.HasSegments (dispatcher.withoutRoot request) := by
  rw [handleIncomingMessage, inside_tryCatch_iff (fun _ => inside_cause _)]
  split
  · next starts =>
      rw [inside_routeRequest_iff]
      exact ⟨fun inside _ => inside, fun inside => inside starts⟩
  · next other => exact iff_of_true (inside_raise _) (fun starts => absurd starts other)

/-- A post request is answered. -/
theorem settles_handlePostRequest
    : Settles HttpEvent.answers (dispatcher.handlePostRequest request) := by
  rw [handlePostRequest]
  apply settles_bind (inside_tokenIs _ _ _ _)
  intro isConvertTo _
  split
  · exact .inl ((causes_cause rfl).bind _)
  · apply settles_bind (inside_tokenIs _ _ _ _)
    intro isInsertFile _
    split
    · exact .inl ((causes_cause rfl).bind _)
    · apply settles_bind (inside_tokenIs _ _ _ _)
      intro isDownload _
      split
      · exact .inl ((causes_cause rfl).bind _)
      · exact settles_raise _

/-- A request that is routed by its tokens is answered. -/
theorem settles_routeTokens : Settles HttpEvent.answers (dispatcher.routeTokens request) := by
  rw [routeTokens]
  apply settles_bind (inside_tokenIs _ _ _ _)
  intro isLool _
  split
  · exact dispatcher.settles_handlePostRequest request
  · apply settles_bind (inside_tokenIs _ _ _ _)
    intro isWs _
    split
    · apply settles_bind (inside_token _ 1)
      intro url _
      apply settles_bind (inside_orRaise _ _)
      intro decodedUri _
      exact .inl ((causes_cause rfl).bind _)
    · exact .inl (causes_cause rfl)

/-- A request that is routed by its segments is answered, if these are there. -/
theorem settles_routeSegments {reqPathSegs : List Text}
    (inside : Inside (dispatcher.routeSegments request reqPathSegs))
    : Settles HttpEvent.answers (dispatcher.routeSegments request reqPathSegs) := by
  rw [routeSegments_eq] at inside ⊢
  split
  · exact .inl ((causes_cause rfl).bind _)
  · next other =>
      rw [if_neg other] at inside
      split
      · exact .inl ((causes_cause rfl).bind _)
      · next notAdmin =>
          rw [if_neg notAdmin] at inside
          split
          · exact .inl ((causes_cause rfl).bind _)
          · next exact_ =>
              rw [exact_] at inside
              exact settles_bind (inside_bind_iff.mp inside).1
                (fun _ _ => dispatcher.settles_routeTokens request)

/-- A request whose segments exist is answered. -/
theorem causes_handleIncomingMessage
    (inside : Inside (dispatcher.handleIncomingMessage request))
    : Causes HttpEvent.answers (dispatcher.handleIncomingMessage request) := by
  rw [handleIncomingMessage, inside_tryCatch_iff (fun _ => inside_cause _)] at inside
  apply causes_tryCatch
  · split
    · next starts =>
        rw [if_pos starts] at inside
        have parts := inside_bind_iff.mp inside
        exact settles_bind parts.1
          (fun uri parsed => dispatcher.settles_routeSegments _ (parts.2 uri parsed))
    · exact settles_raise _
  · exact fun _ => causes_cause rfl

end Dispatcher

/-- A request is routed over existing segments, and answered, if and only if the segments exist
that the routing looks at without a check.
-/
theorem handleIncomingMessage_routed_iff (dispatcher : Dispatcher) (request : HttpRequest)
    : Routed (dispatcher.handleIncomingMessage request)
      ↔ dispatcher.serviceRoot.isPrefixOf request.uri = true
        → dispatcher.HasSegments (dispatcher.withoutRoot request) := by
  rw [← dispatcher.inside_handleIncomingMessage_iff request]
  constructor
  · exact Routed.inside
  · exact fun inside => ⟨inside, dispatcher.causes_handleIncomingMessage request inside⟩

/-- Resolve the dot segments of a relative reference. -/
def resolveDots (segments : List Text) : List Text :=
  segments.foldl
    (fun resolved segment =>
      if segment = "..".toList then
        if resolved = [] ∨ resolved.getLast? = some "..".toList then resolved ++ [segment]
        else resolved.dropLast
      else if segment = ".".toList then resolved
      else resolved ++ [segment])
    []

def resolvePath (path : Text) : Text :=
  if ".".toList ∉ getPathSegments path ∧ "..".toList ∉ getPathSegments path then path
  else "/".toList ++ "/".toList.intercalate (resolveDots (getPathSegments path))

/-- A path without dots is resolved to itself. -/
theorem resolvePath_plain (path : Text) (noDot : ".".toList ∉ getPathSegments path)
    (noDots : "..".toList ∉ getPathSegments path)
    : getPathSegments (resolvePath path) = getPathSegments path := by
  rw [resolvePath, if_pos ⟨noDot, noDots⟩]

/-- The path of a URI without a scheme, without its query. -/
def pathUri : PocoUri where
  URI := Text
  parse uri := some (uri.takeWhile (· ≠ '?'))
  getPath := id
  normalize := resolvePath
  normalize_plain := resolvePath_plain

def emptyWork : Work := ⟨[], none⟩

/-- A server without documents. -/
def emptyServer : Dispatcher where
  serviceRoot := []
  files := {
    uri := pathUri
    versionHash := "dist".toList
    fileHash := fun _ => false
    loleafletHtml := "loleaflet.html".toList
    adminEnabled := false
    isAdminLoggedIn := fun _ => .error .notAuthenticated
    queryForm := fun _ => some ()
    preprocessFile := fun _ => emptyWork
    preprocessAdminFile := fun _ => emptyWork
  }
  serve := fun _ _ => emptyWork
  convertToEnabled := true
  readForm := fun _ => none
  allowConvertTo := fun _ => false
  decode := some
  docKey := some
  docBrokers := fun _ => none
  createSession := fun _ => false
  insertFile := fun _ _ => emptyWork
  fileExists := fun _ _ => false
  sendFile := fun _ _ => emptyWork
  clientWsUpgrade := fun _ _ => emptyWork

def getRequest (uri : Text) : HttpRequest := ⟨"GET".toList, uri, fun _ => none⟩

/-- The second segment of `/hosting` is looked at, and the last one of `/loleaflet/..`. -/
theorem shortPaths_are_overrun
    : ¬ Routed (emptyServer.handleIncomingMessage (getRequest "/hosting".toList))
      ∧ ¬ Routed (emptyServer.handleIncomingMessage (getRequest "/loleaflet/..".toList)) := by
  constructor
  · intro routed
    have segments := (emptyServer.inside_handleIncomingMessage_iff _).mp routed.inside rfl _ rfl
    exact absurd segments (by decide +kernel)
  · intro routed
    have segments := (emptyServer.inside_handleIncomingMessage_iff _).mp routed.inside rfl _ rfl
    exact absurd segments (by decide +kernel)

end NdcOdfWeb.Net
