import SourceSurvey.Explanation.Basic
import SourceSurvey.Generation.Chat
import SourceSurvey.TokenBucket

namespace SourceSurvey

structure GeneratorSettings where
  provider : String := ""
  model : String := ""
  key : String := ""
  address : String := ""
  maxTokens : Int := 0
  command : List String := []
  /-- Calls are paced if this is positive. -/
  requestsPerSecond : Rat := 0
  burst : Int := 0
  deriving Repr, DecidableEq

inductive GeneratorSetupError
  | missingKey (api : ChatApi)
  | command (e : CommandError)
  | unknownProvider (name : String)
  deriving Repr, DecidableEq

def GeneratorSetupError.message : GeneratorSetupError → String
  | missingKey api => (GeneratorError.unavailable (": " ++ api.name ++ ": API key not set")).message
  | command e => e.message
  | unknownProvider name => "unknown generator provider: " ++ quoted name

inductive Backend
  | unavailable
  | chat (s : ChatService)
  | command (words : List String)
  deriving Repr, DecidableEq

structure Provider where
  backend : Backend
  pace : Option TokenBucket := none
  deriving Repr, DecidableEq

inductive CallError
  | ended (e : Ending)
  | unavailable
  | command (e : CommandError)
  | web (api : ChatApi) (e : WebError)
  | reply (api : ChatApi) (message : String)
  /-- The call would have had to wait past its deadline. -/
  | tooBusy
  deriving Repr, DecidableEq

namespace CallError

def toGeneratorError : CallError → GeneratorError
  | ended e => .ended e
  | unavailable => .unavailable ""
  | command e =>
    match e with
    | .fault _ .timedOut => .timedOut (": " ++ e.message)
    | _ => .unavailable (": " ++ e.message)
  | web api e =>
    match e with
    | .ended .deadline => .timedOut (": " ++ api.name ++ ": " ++ e.message)
    | .ended .cancelled => .ended .cancelled
    | .unreachable _ => .unavailable (": " ++ api.name ++ ": " ++ e.message)
  | reply api m => .unavailable (": " ++ api.name ++ ": " ++ m)
  | tooBusy => .unavailable ": rate limiter: rate: Wait(n=1) would exceed context deadline"

def message (e : CallError) : String := e.toGeneratorError.message

end CallError

namespace Provider

def backendOf (s : GeneratorSettings) (hasRunner : Bool) : Except GeneratorSetupError Backend :=
  let chat (api : ChatApi) : Except GeneratorSetupError Backend :=
    if s.key = "" then .error (.missingKey api)
    else .ok (.chat {
      api, key := s.key
      model := if s.model = "" then api.defaultModel else s.model
      address := if s.address = "" then api.defaultAddress else s.address
      maxTokens := if 0 < s.maxTokens then s.maxTokens else ChatService.defaultMaxTokens })
  match Utf8.toString (Bytes.lower (utf8 s.provider)) with
  | "" | "none" => .ok .unavailable
  | "openai" => chat .openai
  | "gemini" => chat .gemini
  | "exec" =>
    if !hasRunner then .error (.command (.fault "no process runner configured" .unspecific))
    else if s.command.headD "" = "" then .error (.command (.fault "command cannot be empty" .unspecific))
    else .ok (.command s.command)
  | _ => .error (.unknownProvider s.provider)

def ofSettings (s : GeneratorSettings) (hasRunner : Bool) : Except GeneratorSetupError Provider :=
  match backendOf s hasRunner with
  | .error e => .error e
  | .ok .unavailable => .ok ⟨.unavailable, none⟩
  | .ok b =>
    .ok ⟨b, if 0 < s.requestsPerSecond then some (.full s.requestsPerSecond (max s.burst 1).toNat 0) else none⟩

def label (p : Provider) : String :=
  if p.pace.isSome then "paced"
  else
    match p.backend with
    | .unavailable => "none"
    | .chat s => s.api.name
    | .command _ => "exec"

structure Reach where
  run : CommandRunner
  web : Web

def ask (reach : Reach) (call : CallContext) (language : String) (prompt excerpt : Bytes) :
    Backend → Except CallError Bytes
  | .unavailable => .error .unavailable
  | .chat s =>
    match reach.web call (s.request prompt excerpt) with
    | .error e => .error (.web s.api e)
    | .ok r =>
      match s.read r with
      | .error m => .error (.reply s.api m)
      | .ok t => .ok t
  | .command words =>
    match reach.run call words { prompt, excerpt, language } with
    | .ok t => .ok t
    | .error e =>
      match e, call.context.ended? .generated with
      | .fault _ (.ended .cancelled), some ending => .error (.ended ending)
      | e, _ => .error (.command e)

/-- One call at a given time. It waits for its turn if calls are paced; the time afterwards and the
provider as the next call finds it come with the outcome. -/
def call (p : Provider) (reach : Reach) (now : Int) (call : CallContext) (language : String)
    (prompt excerpt : Bytes) : Except CallError Bytes × Int × Provider :=
  match p.pace with
  | none => (ask reach call language prompt excerpt p.backend, now, p)
  | some bucket =>
    if !call.context.isLive then (.error (.ended .cancelled), now, p)
    else
      match bucket.reserve? now call.patience with
      | none => (.error .tooBusy, now, p)
      | some (delay, bucket) =>
        let call := { call with patience := call.patience.map (· - delay) }
        (ask reach call language prompt excerpt p.backend, now + delay, { p with pace := some bucket })

/-- The provider as a generator for explanations, with a time limit for each call. -/
def toGenerator (p : Provider) (reach : Reach) (patience : Option Int) : Generator := fun language prompt excerpt =>
  match (p.call reach 0 { patience } language prompt excerpt).1 with
  | .ok t => .value t
  | .error e => .failure e.toGeneratorError

end Provider

end SourceSurvey
