import Mathlib.Data.List.DropRight
import Mathlib.Data.List.Infix
import NdcOdfWeb.Foundation.Procedures
import NdcOdfWeb.Protocol.Tokens

/-! The file server: requests for the files that were read at the start, and for the pages that
are filled in for each request.
-/

namespace NdcOdfWeb.Net

open NdcOdfWeb.Foundation
open NdcOdfWeb.Foundation.Procedure
open NdcOdfWeb.Protocol

structure HttpRequest where
  method : Text
  uri : Text
  header : Text → Option Text

inductive HttpException where
  | notAuthenticated
  | fileAccessDenied
  | fileNotFound
  | badRequest
  | range
  | other

/-- What a request is handed to. -/
inductive Handler where
  | fileServer
  | preprocessFile
  | preprocessAdminFile
  | admin
  | root
  | favicon
  | wopiDiscovery
  | version
  | capabilities
  | robotsTxt
  | convertTo
  | insertFile
  | download
  | clientWsUpgrade
deriving DecidableEq

inductive HttpEvent where
  | reached (handler : Handler)
  | sent (status : Nat)
  | sentFile (path : Text)
  | moved
deriving DecidableEq

/-- A handler or an error response. -/
def HttpEvent.answers : HttpEvent → Bool
  | .reached _ => true
  | .sent status => 400 ≤ status
  | .sentFile _ | .moved => false

abbrev HttpProcedure (α : Type) := Procedure HttpEvent HttpException α

/-- What a handler does that is not part of the routing. -/
structure Work where
  events : List HttpEvent
  error : Option HttpException

def Work.perform (work : Work) : HttpProcedure Unit :=
  ⟨work.events,
    match work.error with
    | some error => .threw error
    | none => .returned ()⟩

/-- `Poco::URI::getPathSegments`: the segments that are not empty. -/
def getPathSegments (path : Text) : List Text :=
  (path.splitOn '/').filter (· ≠ [])

/-- `Poco::URI`. Its constructor throws if the text is no URI. -/
structure PocoUri where
  URI : Type
  parse : Text → Option URI
  getPath : URI → Text
  normalize : URI → URI
  normalize_plain
    : ∀ uri : URI,
        ".".toList ∉ getPathSegments (getPath uri)
        → "..".toList ∉ getPathSegments (getPath uri)
        → getPathSegments (getPath (normalize uri)) = getPathSegments (getPath uri)

/-- The first match of `/([0-9a-f]+)/`. -/
def gitHash : Text → Option Text
  | [] => none
  | c :: rest =>
      let hex := rest.takeWhile (fun c => c.isDigit || ('a' ≤ c && c ≤ 'f'))
      if c = '/' ∧ hex ≠ [] ∧ rest[hex.length]? = some '/' then some ('/' :: hex ++ ['/'])
      else gitHash rest

/-- `Poco::replaceInPlace` from a place, where some characters belong to the last occurrence. -/
def replaceFrom (pattern new : Text) : Nat → Text → Text
  | _, [] => []
  | skip + 1, _ :: rest => replaceFrom pattern new skip rest
  | 0, c :: rest =>
      if pattern ≠ [] ∧ pattern.isPrefixOf (c :: rest) = true then
        new ++ replaceFrom pattern new (pattern.length - 1) rest
      else c :: replaceFrom pattern new 0 rest

def replaceInPlace (text pattern new : Text) : Text :=
  replaceFrom pattern new 0 text

/-- Convert the version back to a real file name. -/
def requestPathname (path : Text) : Text :=
  match gitHash path with
  | some hash =>
      replaceInPlace path ("/loleaflet".toList ++ hash) "/loleaflet/dist/".toList
  | none => path

/-- The extension of a file name. -/
def fileType (endPoint : Text) : Option Text :=
  if '.' ∈ endPoint then some (endPoint.rtakeWhile (· ≠ '.')) else none

-----------------------------------------------------------------------------------------
-- Requests
-----------------------------------------------------------------------------------------

structure FileServer where
  uri : PocoUri
  versionHash : Text
  fileHash : Text → Bool
  loleafletHtml : Text
  adminEnabled : Bool
  isAdminLoggedIn : HttpRequest → Except HttpException Bool
  queryForm : HttpRequest → Option Unit
  preprocessFile : HttpRequest → Work
  preprocessAdminFile : HttpRequest → Work

namespace FileServer

variable (server : FileServer) (request : HttpRequest)

/-- The response that names an error. -/
def sendError (errorCode : Nat) : HttpProcedure Unit := do
  let _requestUri ← orRaise .other (server.uri.parse request.uri)
  cause (.sent errorCode)

/-- Whether the administrator may have the bundle. -/
def checkAdmin : HttpProcedure Unit :=
  if server.adminEnabled = false then raise .fileAccessDenied
  else
    match server.isAdminLoggedIn request with
    | .error error => raise error
    | .ok false => raise .notAuthenticated
    | .ok true => pure ()

def adminScripts : List Text := ["admin-bundle.js".toList, "admin-localizations.js".toList]

/-- The file itself, or that it has not changed. -/
def sendContent (noCache : Bool) (relPath : Text) : HttpProcedure Unit :=
  if noCache = false
      ∧ request.header "If-None-Match".toList
        = some ("\"".toList ++ server.versionHash ++ "\"".toList) then
    cause (.sent 304)
  else do
    cause (.sent 200)
    cause (.sentFile relPath)

def handleGet (noCache : Bool) (relPath endPoint extension : Text) : HttpProcedure Unit := do
  (if endPoint ∈ adminScripts then server.checkAdmin request else pure ())
  (if endPoint.take 5 = "admin".toList ∧ extension = "html".toList then do
    cause (.reached .preprocessAdminFile)
    (server.preprocessAdminFile request).perform
  else server.sendContent request (noCache || endPoint ∈ adminScripts) relPath)

/-- The file that is sent: images that do not exist are replaced by an empty one. -/
def existingFile (requestSegments : List Text) (relPath extension : Text) : HttpProcedure Text :=
  if requestSegments.length < 1 ∨ server.fileHash relPath = false then
    if extension = "svg".toList ∨ extension = "png".toList ∨ extension = "gif".toList then
      pure "/loleaflet/dist/images/empty.png".toList
    else raise .fileNotFound
  else pure relPath

/-- What follows after the end point is known. -/
def handleEndPoint (path : Text) (requestSegments : List Text) (endPoint : Text)
    : HttpProcedure Unit := do
  let extension ← orRaise .fileNotFound (fileType endPoint)
  orRaise .other (server.queryForm request)
  let relPath ← server.existingFile requestSegments (requestPathname path) extension
  (if endPoint = server.loleafletHtml then do
    cause (.reached .preprocessFile)
    (server.preprocessFile request).perform
  else if request.method = "GET".toList then
    server.handleGet request
      (!decide ("loleaflet/".toList ++ server.versionHash ++ "/".toList <:+: path))
      relPath endPoint extension
  else pure ())

/-- The body of `handleRequest`. The index of the last segment wraps around if there is none. -/
def handlePath : HttpProcedure Unit := do
  let requestUri ← orRaise .other (server.uri.parse request.uri)
  let path := server.uri.getPath (server.uri.normalize requestUri)
  let requestSegments := getPathSegments path
  let endPoint ← access requestSegments (requestSegments.length - 1)
  server.handleEndPoint request path requestSegments endPoint

def catchError : HttpException → HttpProcedure Unit
  | .notAuthenticated => server.sendError request 401
  | .fileAccessDenied => server.sendError request 403
  | .fileNotFound => server.sendError request 404
  | error => raise error

/-- `FileServerRequestHandler::handleRequest`. -/
def handleRequest : HttpProcedure Unit :=
  tryCatch (server.handlePath request) (server.catchError request)

-----------------------------------------------------------------------------------------
-- The accesses
-----------------------------------------------------------------------------------------

/-- Work accesses no container of the server's. -/
theorem inside_perform (work : Work) : Inside work.perform := by
  rcases work with ⟨events, error⟩
  cases error with
  | none => exact returned_ne_outside ()
  | some error => exact threw_ne_outside error

/-- Either it throws, or it goes on. -/
theorem inside_checkAdmin : Inside (server.checkAdmin request) := by
  rw [checkAdmin]
  split
  · exact inside_raise _
  · split
    · exact inside_raise _
    · exact inside_raise _
    · exact inside_pure ()

/-- The file is sent, or the error is thrown. -/
theorem inside_sendContent (noCache : Bool) (relPath : Text)
    : Inside (server.sendContent request noCache relPath) := by
  rw [sendContent]
  split
  · exact inside_cause _
  · exact (inside_cause _).bind (fun _ => inside_cause _)

/-- The branches send something or throw. -/
theorem inside_handleGet (noCache : Bool) (relPath endPoint extension : Text)
    : Inside (server.handleGet request noCache relPath endPoint extension) := by
  rw [handleGet]
  apply Inside.bind
  · split
    · exact server.inside_checkAdmin request
    · exact inside_pure ()
  · intro _
    split
    · exact (inside_cause _).bind (fun _ => inside_perform _)
    · exact server.inside_sendContent request _ relPath

/-- The last segment is read only if there is one. -/
theorem inside_existingFile (requestSegments : List Text) (relPath extension : Text)
    : Inside (server.existingFile requestSegments relPath extension) := by
  rw [existingFile]
  split
  · split
    · exact inside_pure _
    · exact inside_raise _
  · exact inside_pure _

/-- The extension is read first, and then the branches. -/
theorem inside_handleEndPoint (path : Text) (requestSegments : List Text) (endPoint : Text)
    : Inside (server.handleEndPoint request path requestSegments endPoint) := by
  rw [handleEndPoint]
  apply (inside_orRaise _ _).bind
  intro extension
  apply (inside_orRaise _ _).bind
  intro _
  apply (server.inside_existingFile _ _ _).bind
  intro relPath
  split
  · exact (inside_cause _).bind (fun _ => inside_perform _)
  · split
    · exact server.inside_handleGet request _ _ _ _
    · exact inside_pure ()

/-- Each error has its answer. -/
theorem inside_catchError (error : HttpException) : Inside (server.catchError request error) := by
  cases error with
  | notAuthenticated | fileAccessDenied | fileNotFound =>
      exact (inside_orRaise _ _).bind (fun _ => inside_cause _)
  | badRequest | range | other => exact inside_raise _

/-- The file server looks at existing segments only, if and only if the normalised path has
one.
-/
theorem inside_handleRequest_iff
    : Inside (server.handleRequest request)
      ↔ ∀ uri : server.uri.URI,
          server.uri.parse request.uri = some uri
          → getPathSegments (server.uri.getPath (server.uri.normalize uri)) ≠ [] := by
  rw [handleRequest, inside_tryCatch_iff (server.inside_catchError request), handlePath,
    inside_bind_iff]
  cases parsed : server.uri.parse request.uri with
  | none =>
      refine iff_of_true ⟨inside_raise _, ?_⟩ ?_
      · intro uri same
        cases same
      · intro uri same
        cases same
  | some uri =>
      have last
          : Inside (access (getPathSegments (server.uri.getPath (server.uri.normalize uri)))
              ((getPathSegments (server.uri.getPath (server.uri.normalize uri))).length - 1)
              : HttpProcedure Text)
            ↔ getPathSegments (server.uri.getPath (server.uri.normalize uri)) ≠ [] := by
        rw [inside_access_iff, ← List.length_pos_iff]
        omega
      constructor
      · rintro ⟨_, inside⟩ _ ⟨⟩
        exact last.mp (inside_bind_iff.mp (inside uri rfl)).1
      · intro several
        refine ⟨inside_pure uri, ?_⟩
        rintro _ ⟨⟩
        exact (last.mpr (several uri rfl)).bind
          (fun endPoint => server.inside_handleEndPoint request _ _ endPoint)

end FileServer

end NdcOdfWeb.Net
