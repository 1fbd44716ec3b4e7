import SourceSurvey.Collaborator
import SourceSurvey.Datum.Json

namespace SourceSurvey

structure ServiceSettings where
  address : String := ""
  maxCodeChars : Int := 0
  /-- Zero switches rate limiting off. -/
  requestsPerMinute : Int := 0
  burst : Int := 0
  /-- Zero switches the store of responses off. -/
  cacheSize : Int := 0
  /-- How long a response is kept, in nanoseconds, as are the other durations. -/
  cacheLife : Int := 0
  readTimeout : Int := 0
  writeTimeout : Int := 0
  shutdownTimeout : Int := 0
  deriving Repr, DecidableEq

inductive ServiceSettingsError
  | noAnalyzer
  | negative (setting : String)
  deriving Repr, DecidableEq

def ServiceSettingsError.message (e : ServiceSettingsError) : String :=
  "invalid server configuration: " ++
    match e with
    | noAnalyzer => "analyzer is required"
    | negative s => s ++ " cannot be negative"

namespace ServiceSettings

def second : Int := 1000000000

def default : ServiceSettings where
  address := ":5000"
  maxCodeChars := 1000000
  requestsPerMinute := 10
  burst := 10
  cacheSize := 100
  cacheLife := 600 * second
  readTimeout := 30 * second
  writeTimeout := 120 * second
  shutdownTimeout := 10 * second

def orElse (n m : Int) : Int := if n ≤ 0 then m else n

/-- Refuses negative settings and fills in what is left open. -/
def complete (s : ServiceSettings) : Except ServiceSettingsError ServiceSettings :=
  if s.maxCodeChars < 0 then .error (.negative "maxCodeChars")
  else if s.requestsPerMinute < 0 then .error (.negative "requestsPerMinute")
  else if s.burst < 0 then .error (.negative "burst")
  else if s.cacheSize < 0 then .error (.negative "cacheSize")
  else .ok { s with
    address := if s.address = "" then default.address else s.address
    maxCodeChars := orElse s.maxCodeChars default.maxCodeChars
    burst := orElse s.burst (max s.requestsPerMinute 1)
    cacheLife := orElse s.cacheLife default.cacheLife
    readTimeout := orElse s.readTimeout default.readTimeout
    writeTimeout := orElse s.writeTimeout default.writeTimeout
    shutdownTimeout := orElse s.shutdownTimeout default.shutdownTimeout }

/-- The most bytes a request may have: six for every character, as an escape takes, and room for the
rest. The sum is taken in 64 bits, and a negative one lets nothing in. -/
def maxBody (s : ServiceSettings) : Nat := ((s.maxCodeChars * 6 + 65536).bmod 0x10000000000000000).toNat

end ServiceSettings

structure ServiceRequest where
  method : String := "POST"
  target : String
  contentType : Option String := some "application/json"
  client : String := ""
  body : Bytes := []
  context : Context := .live

namespace ServiceRequest

def unescape : Bytes → Bytes
  | 37 :: a :: b :: s =>
    match Json.hexValue? a, Json.hexValue? b with
    | some x, some y => (x * 16 + y).toUInt8 :: unescape s
    | _, _ => 37 :: unescape (a :: b :: s)
  | c :: s => c :: unescape s
  | [] => []
termination_by s => s.length

def path (r : ServiceRequest) : String :=
  Utf8.toString (unescape (utf8 (String.ofList (r.target.toList.takeWhile (· ≠ '?')))))

def query (r : ServiceRequest) : String := String.ofList (r.target.toList.dropWhile (· ≠ '?'))

def mediaType (r : ServiceRequest) : String :=
  ((r.contentType.getD "").takeWhile fun c => c ≠ ' ' && c ≠ ';').toString

def isNumeral (s : String) : Bool :=
  !s.isEmpty && s.all Char.isDigit && s.length ≤ 3 && (s.length = 1 || s.front ≠ '0') && s.toNat?.getD 256 ≤ 255

/-- The address of the sender, or nothing if it is no address. -/
def sender (r : ServiceRequest) : String :=
  let parts := r.client.splitOn "."
  if r.client.contains ':' || (parts.length = 4 && parts.all isNumeral) then r.client else ""

end ServiceRequest

inductive ServiceBody
  | empty
  | data (d : Datum)
  | text (contentType : String) (s : Bytes)

structure ServiceResponse where
  status : Nat
  headers : List (String × String) := []
  body : ServiceBody := .empty

namespace ServiceResponse

def jsonType : String := "application/json; charset=utf-8"

def allHeaders (r : ServiceResponse) : List (String × String) :=
  r.headers ++ match r.body with
    | .empty => []
    | .data _ => [("Content-Type", jsonType)]
    | .text t _ => [("Content-Type", t)]

def content (r : ServiceResponse) : Bytes :=
  match r.body with
  | .empty => []
  | .data d => Json.render .compact d
  | .text _ s => s

def ofError (status : Nat) (message : String) : ServiceResponse :=
  { status, body := .data (.ofFields [("error", .ofString message)]) }

end ServiceResponse

end SourceSurvey
