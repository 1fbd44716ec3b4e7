namespace SourceSurvey

structure RequestLabels where
  route : String
  method : String
  status : Nat
  deriving Repr, DecidableEq

structure AnalysisLabels where
  language : String
  degraded : Bool
  deriving Repr, DecidableEq

structure Metrics where
  requests : List (RequestLabels × Nat) := []
  analyses : List (AnalysisLabels × Nat) := []
  hits : Nat := 0
  misses : Nat := 0
  limited : Nat := 0
  deriving Repr, DecidableEq

namespace Metrics

def increment {α : Type} [DecidableEq α] (label : α) (counts : List (α × Nat)) : List (α × Nat) :=
  if counts.any (·.1 = label) then counts.map fun (l, n) => if l = label then (l, n + 1) else (l, n)
  else counts ++ [(label, 1)]

def labelText (s : String) : String :=
  "\"" ++ String.join (s.toList.map fun c =>
    if c = '\\' then "\\\\" else if c = '"' then "\\\"" else if c = '\n' then "\\n" else String.singleton c) ++ "\""

def line (name : String) (labels : List (String × String)) (n : Nat) : String :=
  let shown := labels.map fun (k, v) => k ++ "=" ++ labelText v
  "codelens_" ++ name ++ (if labels.isEmpty then "" else "\x7b" ++ ",".intercalate shown ++ "\x7d") ++ s!" {n}"

def family (name help : String) (lines : List String) : List String :=
  if lines.isEmpty then []
  else ["# HELP codelens_" ++ name ++ " " ++ help, "# TYPE codelens_" ++ name ++ " counter"] ++
    lines.mergeSort (· ≤ ·)

def lines (m : Metrics) : List String :=
  family "analyses_total" "Completed analyses by language and explanation mode."
    (m.analyses.map fun (l, n) =>
      line "analyses_total" [("degraded", if l.degraded then "true" else "false"), ("language", l.language)] n) ++
  family "http_requests_total" "HTTP requests by route, method and status code."
    (m.requests.map fun (l, n) =>
      line "http_requests_total" [("method", l.method), ("route", l.route), ("status", toString l.status)] n) ++
  family "rate_limited_requests_total" "Requests rejected by the per-client rate limiter."
    [line "rate_limited_requests_total" [] m.limited] ++
  family "response_cache_hits_total" "Analysis responses served from the response cache."
    [line "response_cache_hits_total" [] m.hits] ++
  family "response_cache_misses_total" "Analysis requests that ran the pipeline."
    [line "response_cache_misses_total" [] m.misses]

def text (m : Metrics) : String := String.join (m.lines.map (· ++ "\n"))

end Metrics

end SourceSurvey
