import SourceSurvey.Analysis.Document
import SourceSurvey.Cache.Memory
import SourceSurvey.Instant
import SourceSurvey.Service.Basic
import SourceSurvey.Service.Metrics
import SourceSurvey.TokenBucket

namespace SourceSurvey

structure Submission where
  code : Bytes
  filename : String
  deriving Repr, DecidableEq

inductive SubmissionError
  | notJson
  | missingCode
  | codeNotText
  | codeTooLarge
  | filenameNotText
  | filenameTooLong
  deriving Repr, DecidableEq

namespace SubmissionError

def message : SubmissionError → String
  | notJson => "Request must be JSON"
  | missingCode => "Missing required field: code"
  | codeNotText => "Code must be a string"
  | codeTooLarge => "Code size exceeds limit"
  | filenameNotText => "Filename must be a string"
  | filenameTooLong => "Filename is too long"

def status : SubmissionError → Nat
  | codeTooLarge => 413
  | _ => 400

end SubmissionError

namespace Submission

def maxFilename : Nat := 255

def field? (d : Datum) (name : String) : Option Datum :=
  match d.get? name with
  | none | some .null => none
  | some v => some v

def filenameOf (d : Datum) : Except SubmissionError Bytes :=
  match field? d "filename" with
  | none => .ok []
  | some (.text s) => .ok s
  | some _ => .error .filenameNotText

def ofDatum (maxCode : Nat) (d : Datum) : Except SubmissionError Submission :=
  match field? d "code" with
  | none => .error .missingCode
  | some (.text code) =>
    match filenameOf d with
    | .error e => .error e
    | .ok name =>
      if maxCode < (Utf8.chars code).length then .error .codeTooLarge
      else if maxFilename < (Utf8.chars name).length then .error .filenameTooLong
      else .ok ⟨code, Utf8.toString name⟩
  | some _ => .error .codeNotText

def ofRequest (s : ServiceSettings) (r : ServiceRequest) : Except SubmissionError Submission :=
  if r.mediaType ≠ "application/json" then .error .notJson
  else if s.maxBody < r.body.length then .error .codeTooLarge
  else
    match Json.parse? r.body with
    | some (.record fields) => ofDatum s.maxCodeChars.toNat (.record fields)
    | _ => .error .notJson

end Submission

inductive Route
  | analyze (path : String)
  | preflight
  | health
  | metrics
  deriving Repr, DecidableEq

namespace Route

def path : Route → String
  | analyze p => p
  | preflight => "/analyze"
  | health => "/api/health"
  | metrics => "/metrics"

def table : List (String × Route) :=
  [("POST", analyze "/api/analyze"), ("POST", analyze "/analyze"), ("OPTIONS", preflight), ("GET", health),
    ("GET", metrics)]

def find? (method path : String) : Option Route :=
  (table.find? fun (m, r) => m = method && r.path = path).map (·.2)

end Route

structure Moment where
  now : Instant
  faultId : String

/-- The server. What it keeps is kept with the time until which it counts. -/
structure Server where
  settings : ServiceSettings
  analyzer : Analyzer
  metrics : Metrics := {}
  responses : Memory (Instant × Analysis)
  buckets : Memory (Instant × TokenBucket)

namespace Server

/-- The most senders that are told apart, and how long each is remembered. -/
def maxSenders : Int := 10000

def senderLife : Int := 3600 * ServiceSettings.second

def ofSettings (analyzer : Option Analyzer) (s : ServiceSettings) : Except ServiceSettingsError Server :=
  match analyzer with
  | none => .error .noAnalyzer
  | some analyzer =>
    match s.complete with
    | .error e => .error e
    | .ok settings => .ok { settings, analyzer, responses := .ofSize settings.cacheSize, buckets := .ofSize maxSenders }

variable (s : Server)

def keepsResponses : Bool := 0 < s.settings.cacheSize

def keyOf (r : Submission) : String := Fingerprint.ofParts [utf8 s.analyzer.fingerprint, utf8 r.filename, r.code]

def internalError (faultId : String) : ServiceResponse :=
  { status := 500
    body := .data (.ofFields [("error", .ofString "An internal server error occurred"), ("error_id", .ofString faultId)]) }

def ofAnalysisError (faultId : String) (e : AnalysisError) : ServiceResponse :=
  if .emptyInput ∈ e.causes then .ofError 400 "Code must not be empty"
  else if .inputTooLarge ∈ e.causes then .ofError 413 SubmissionError.codeTooLarge.message
  else if .context .cancelled ∈ e.causes ∨ .context .deadline ∈ e.causes then .ofError 503 "Request cancelled"
  else internalError faultId

def ofAnalysis (headers : List (String × String)) (a : Analysis) : ServiceResponse :=
  { status := 200, headers, body := .data (.ofFields a.fields) }

def remembered (now : Instant) (key : String) : Option Analysis × Server :=
  if !s.keepsResponses then (none, s)
  else
    let (found, responses) := s.responses.get key
    match found with
    | some (until_, a) => if now < until_ then (some a, { s with responses }) else (none, { s with responses })
    | none => (none, { s with responses })

def remember (now : Instant) (key : String) (a : Analysis) : Server :=
  if s.keepsResponses then { s with responses := s.responses.add key (now + s.settings.cacheLife, a) } else s

def answer (m : Moment) (context : Context) (r : Submission) : ServiceResponse × Server :=
  let key := s.keyOf r
  match s.remembered m.now key with
  | (some a, s) => (ofAnalysis [("X-Cache", "HIT")] a, { s with metrics := { s.metrics with hits := s.metrics.hits + 1 } })
  | (none, s) =>
    let s := if s.keepsResponses then { s with metrics := { s.metrics with misses := s.metrics.misses + 1 } } else s
    match s.analyzer.analyze context r.code r.filename with
    | .error e => (ofAnalysisError m.faultId e, s)
    | .ok a =>
      let s := { s with metrics := { s.metrics with
        analyses := Metrics.increment ⟨a.language, a.degraded⟩ s.metrics.analyses } }
      (ofAnalysis (if s.keepsResponses then [("X-Cache", "MISS")] else []) a, s.remember m.now key a)

def handleAnalyze (m : Moment) (r : ServiceRequest) : ServiceResponse × Server :=
  match Submission.ofRequest s.settings r with
  | .error e => (.ofError e.status e.message, s)
  | .ok submission => s.answer m r.context submission

def interval : Int := 60 * ServiceSettings.second / s.settings.requestsPerMinute

def bucketOf (now : Instant) (sender : String) : Instant × TokenBucket :=
  let fresh := (now + senderLife,
    TokenBucket.full (ServiceSettings.second / s.interval : Rat) s.settings.burst.toNat now)
  match (s.buckets.get sender).1 with
  | some (until_, b) => if now < until_ then (until_, b) else fresh
  | none => fresh

def admit? (now : Instant) (sender : String) : Option Server :=
  if s.settings.requestsPerMinute ≤ 0 then some s
  else
    let (until_, b) := s.bucketOf now sender
    (b.take? now).map fun b => { s with buckets := s.buckets.add sender (until_, b) }

def tooMany : ServiceResponse :=
  { ServiceResponse.ofError 429 "Rate limit exceeded" with
    headers := [("Retry-After", toString (s.interval / ServiceSettings.second + 1))] }

def health (now : Instant) : ServiceResponse :=
  { status := 200
    body := .data (.ofFields [("status", .ofString "healthy"), ("timestamp", .ofString (Instant.render now 0))]) }

def preflight : ServiceResponse :=
  { status := 200
    headers := [("Access-Control-Allow-Origin", "*"), ("Access-Control-Allow-Headers", "Content-Type,Authorization"),
      ("Access-Control-Allow-Methods", "POST,OPTIONS")] }

def serve (m : Moment) (r : ServiceRequest) : Route → ServiceResponse × Server
  | .analyze _ =>
    match s.admit? m.now r.sender with
    | none => (s.tooMany, { s with metrics := { s.metrics with limited := s.metrics.limited + 1 } })
    | some s => s.handleAnalyze m r
  | .preflight => (preflight, s)
  | .health => (health m.now, s)
  | .metrics => ({ status := 200, body := .text "text/plain; version=0.0.4; charset=utf-8" (utf8 s.metrics.text) }, s)

def protection : List (String × String) :=
  [("Content-Security-Policy", "default-src 'self'"), ("X-Content-Type-Options", "nosniff"), ("X-Frame-Options", "DENY"),
    ("X-Xss-Protection", "1; mode=block"), ("Strict-Transport-Security", "max-age=31536000; includeSubDomains"),
    ("Referrer-Policy", "no-referrer")]

def markup (s : String) : String :=
  String.join (s.toList.map fun c =>
    match c with
    | '&' => "&amp;"
    | '<' => "&lt;"
    | '>' => "&gt;"
    | '"' => "&#34;"
    | '\'' => "&#39;"
    | c => String.singleton c)

/-- A path with one slash too many at its end leads to the route without it. -/
def redirection? (r : ServiceRequest) : Option ServiceResponse :=
  let path := r.path
  if !path.endsWith "/" || path.length ≤ 1 then none
  else
    (Route.find? r.method (path.dropEnd 1).toString).map fun route =>
      let target := route.path ++ r.query
      let link := "<a href=\"" ++ markup target ++ "\">Moved Permanently</a>.\n\n"
      if r.method = "GET" then
        { status := 301, headers := [("Location", target)], body := .text "text/html; charset=utf-8" (utf8 link) }
      else { status := 307, headers := [("Location", target)] }

def handle (m : Moment) (r : ServiceRequest) : ServiceResponse × Server :=
  let finish (route : String) : ServiceResponse × Server → ServiceResponse × Server := fun (response, s) =>
    ({ response with headers := protection ++ response.headers },
      { s with metrics := { s.metrics with
        requests := Metrics.increment ⟨route, r.method, response.status⟩ s.metrics.requests } })
  match Route.find? r.method r.path, redirection? r with
  | some route, _ => finish route.path (s.serve m r route)
  | none, some response => (response, s)
  | none, none => finish "unmatched" (.ofError 404 "Not found", s)

end Server

end SourceSurvey
