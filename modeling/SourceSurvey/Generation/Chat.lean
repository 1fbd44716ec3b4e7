import SourceSurvey.Generation.Command

namespace SourceSurvey

inductive ChatApi
  | openai
  | gemini
  deriving Repr, DecidableEq

namespace ChatApi

def name : ChatApi → String
  | openai => "openai"
  | gemini => "gemini"

def defaultModel : ChatApi → String
  | openai => "gpt-4o-mini"
  | gemini => "gemini-2.5-flash"

def defaultAddress : ChatApi → String
  | openai => "https://api.openai.com/v1"
  | gemini => "https://generativelanguage.googleapis.com/"

end ChatApi

structure WebRequest where
  address : String
  headers : List (String × String)
  body : Datum

structure WebReply where
  status : Nat
  body : Bytes
  deriving Repr, DecidableEq

inductive WebError
  | ended (e : Ending)
  | unreachable (message : String)
  deriving Repr, DecidableEq

def WebError.message : WebError → String
  | ended e => e.message
  | unreachable m => m

abbrev Web := CallContext → WebRequest → Except WebError WebReply

structure ChatService where
  api : ChatApi
  key : String
  model : String
  address : String
  maxTokens : Int
  deriving Repr, DecidableEq

namespace ChatService

def defaultMaxTokens : Int := 400

def instruction : String :=
  "You explain source code to developers. Answer in plain prose, without markdown headings or code."

def question (prompt excerpt : Bytes) : Bytes := prompt ++ utf8 "\n\n```\n" ++ excerpt ++ utf8 "\n```"

variable (s : ChatService)

def request (prompt excerpt : Bytes) : WebRequest :=
  let asked := Datum.text (question prompt excerpt)
  let said (role : String) (d : Datum) := Datum.ofFields [("role", .ofString role), ("content", d)]
  let part (d : Datum) := Datum.ofFields [("parts", .list [.ofFields [("text", d)]])]
  match s.api with
  | .openai => {
      address := s.address ++ "/chat/completions"
      headers := [("Authorization", "Bearer " ++ s.key)]
      body := .ofFields [("model", .ofString s.model),
        ("messages", .list [said "system" (.ofString instruction), said "user" asked]),
        ("max_completion_tokens", .ofInt s.maxTokens)] }
  | .gemini => {
      address := s.address ++ "v1beta/models/" ++ s.model ++ ":generateContent"
      headers := [("X-Goog-Api-Key", s.key)]
      body := .ofFields [("contents", .list [part asked]), ("systemInstruction", part (.ofString instruction)),
        ("generationConfig", .ofFields [("maxOutputTokens", .ofInt s.maxTokens)])] }

def first? (d : Datum) (name : String) : Option Datum := ((d.get? name).bind Datum.list?).bind List.head?

def textOf (d : Datum) : Except String Bytes :=
  match s.api with
  | .openai =>
    match first? d "choices" with
    | none => .error "no choices returned"
    | some c => .ok (((c.get? "message").bind (·.get? "content")).bind Datum.text? |>.getD [])
  | .gemini =>
    match (first? d "candidates").bind (·.get? "content") with
    | none => .error "no candidates returned"
    | some c =>
      let parts := ((c.get? "parts").bind Datum.list?).getD []
      .ok (parts.map fun p => ((p.get? "text").bind Datum.text?).getD []).flatten

def read (r : WebReply) : Except String Bytes :=
  if r.status < 200 || 300 ≤ r.status then .error s!"status code {r.status}"
  else
    match Json.parse? r.body with
    | none => .error ((Json.fault? r.body).map JsonFault.message |>.getD "unreadable reply")
    | some d => s.textOf d

end ChatService

end SourceSurvey
