import IndicatorDesigner.Http.Response
import IndicatorDesigner.Http.Target
import IndicatorDesigner.Json.Encoding
import IndicatorDesigner.Preview.Payload
import IndicatorDesigner.Settings.Catalog
import IndicatorDesigner.Text.UpperCase

/-!
The service over HTTP. Every request is answered: one that is malformed or rejected with what is
wrong, one that fails with the reason.
-/
namespace IndicatorDesigner.Http

/-- What can be asked for. The last four describe the service itself. -/
inductive Endpoint where
  | ping
  | defaults
  | options
  | cacheStats
  | script
  | download
  | docs
  | docsRedirect
  | reference
  | schema
  deriving DecidableEq, Repr

namespace Endpoint

def all : List Endpoint :=
  [.ping, .defaults, .options, .cacheStats, .script, .download, .docs, .docsRedirect, .reference,
   .schema]

def path : Endpoint → String
  | .ping => "/api/ping"
  | .defaults => "/api/indicator/defaults"
  | .options => "/api/indicator/options"
  | .cacheStats => "/api/indicator/cache"
  | .script => "/api/indicator/pinescript"
  | .download => "/api/indicator/pinescript/download"
  | .docs => "/docs"
  | .docsRedirect => "/docs/oauth2-redirect"
  | .reference => "/redoc"
  | .schema => "/openapi.json"

def methods : Endpoint → List String
  | .script => ["POST"]
  | .download => ["POST"]
  | .docs => ["GET", "HEAD"]
  | .docsRedirect => ["GET", "HEAD"]
  | .reference => ["GET", "HEAD"]
  | .schema => ["GET", "HEAD"]
  | _ => ["GET"]

/-- The endpoint with a path, which a newline may end. -/
def withPath? (path : String) : Option Endpoint :=
  all.find? fun e => path == e.path || path == e.path ++ "\n"

def dropSlashes (path : String) : String :=
  String.ofList (path.toList.reverse.dropWhile (· == '/')).reverse

/-- The endpoint of a path. Slashes at the end of one that has none are left out. -/
def ofPath? (path : String) : Option Endpoint :=
  (withPath? path).or (withPath? (dropSlashes path))

end Endpoint

/-- A request: its method, the path that its target names, and its body. -/
structure Call where
  method : String
  path : String
  body : String

/-- A request as it comes in, its method in any case. -/
def Call.read (method target body : String) : Except Target.Fault Call := do
  .ok ⟨Text.upper method, ← Target.read target, body⟩

/-- The answer to a call, what is logged with it, and the cache after it. -/
structure Result where
  response : Response
  entries : List Log.Entry
  cache : Cache

/-- What a body asks for. -/
inductive Submission where
  | accepted (request : Request)
  | refused (response : Response)

namespace Submission

def ofValue (v : Value) : Submission :=
  match Request.ofValue v with
  | .ok request => .accepted request
  | .error issues => .refused (.rejected (issues.map issueValue))

/-- The answer to a body that cannot be read, for a reason other than its text. -/
def unreadable : Submission := .refused (.detail 400 "There was an error parsing the body")

def ofBody (body : String) : Submission :=
  if body = "" then .refused (.rejected [missingValue])
  else
    match Json.decodeBody? body with
    | none => unreadable
    | some points =>
      match Json.readPoints Json.maxDepth points with
      | .ok v => ofValue v
      | .error (.malformed reason position) =>
        .refused (.rejected [notJsonValue reason.message position])
      | .error _ => unreadable

end Submission

/-- A failure to make a script, which is logged for the given activity. -/
def failed (cache : Cache) (activity : String) (fault : Cache.Fault) : Result :=
  ⟨.detail 500 fault.message,
    [.error ("[API] Pine Script " ++ activity ++ " failed: " ++ fault.message)], cache⟩

/-- The script of a request, with its settings. -/
def answerScript (generate : Generator) (cache : Cache) (request : Request) : Result :=
  match Payload.make generate cache request.toConfig with
  | .ok (payload, cache) => ⟨.json 200 payload.toValue, [payload.entry], cache⟩
  | .error fault => failed cache "generation" fault

/-- The script of a request, as a file. -/
def answerDownload (generate : Generator) (cache : Cache) (request : Request) : Result :=
  match Cache.getOrGenerate generate cache request.toConfig with
  | .ok (script, cache) =>
    ⟨{ Response.plain 200 script with
        disposition := some ("attachment; filename=\"" ++ Script.fileName ++ "\"") }, [], cache⟩
  | .error fault => failed cache "download" fault

def Endpoint.answer (generate : Generator) (now : String) (cache : Cache) (body : String) :
    Endpoint → Result
  | .ping => ⟨.json 200 (.object [("pong", .bool true), ("timestamp", .text now)]), [], cache⟩
  | .defaults => ⟨.json 200 Config.standard.toValue, [], cache⟩
  | .options => ⟨.json 200 Catalog.toValue, [], cache⟩
  | .cacheStats => ⟨.json 200 (.object cache.stats), [], cache⟩
  | .script =>
    match Submission.ofBody body with
    | .accepted request => answerScript generate cache request
    | .refused response => ⟨response, [], cache⟩
  | .download =>
    match Submission.ofBody body with
    | .accepted request => answerDownload generate cache request
    | .refused response => ⟨response, [], cache⟩
  | .schema => ⟨Response.bare "application/json", [], cache⟩
  | _ => ⟨Response.bare "text/html; charset=utf-8", [], cache⟩

def respond (generate : Generator) (now : String) (cache : Cache) (call : Call) : Result :=
  let result :=
    match Endpoint.ofPath? call.path with
    | none => ⟨.detail 404 "Not Found", [], cache⟩
    | some endpoint =>
      if endpoint.methods.contains call.method then endpoint.answer generate now cache call.body
      else ⟨.detail 405 "Method Not Allowed", [], cache⟩
  if call.method = "HEAD" then { result with response := { result.response with body := "" } }
  else result

def startupEntries (cacheSize : Int) : List Log.Entry :=
  [.info "[Startup] Agentic ML Pine Script Designer starting...",
   .info s!"[Startup] Script cache size: {cacheSize}"]

def shutdownEntries (cache : Cache) : List Log.Entry :=
  [.info "[Shutdown] Application shutting down...",
   .info ("[Shutdown] Script cache stats: " ++ (Value.object cache.stats).quoted)]

end IndicatorDesigner.Http
