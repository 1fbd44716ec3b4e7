import Mathlib
import SourceSurvey.Proofs.Analysis.Settings
import SourceSurvey.Proofs.Datum.Json
import SourceSurvey.Proofs.Keyed
import SourceSurvey.Service.Server

namespace SourceSurvey

namespace Memory

variable {α : Type} {m m' : Memory α} {key k : String} {v w : α}

theorem get_fst (m : Memory α) (key : String) : (m.get key).1 = m.entries.lookup key := by
  rw [get]
  cases m.entries.lookup key <;> rfl

theorem lookup_get (m : Memory α) (key k : String) : (m.get key).2.entries.lookup k = m.entries.lookup k := by
  rw [get]
  cases h : m.entries.lookup key with
  | none => rfl
  | some v =>
      dsimp only
      rw [Keyed.lookup_cons, Keyed.lookup_filter_ne]
      by_cases hk : k = key
      · rw [if_pos hk, hk, h]
      · rw [if_neg hk, if_neg hk]

theorem of_lookup_take {entries : List (String × α)} {n : Nat} (h : (entries.take n).lookup k = some w) :
    entries.lookup k = some w := by
  induction entries generalizing n with
  | nil => simp at h
  | cons e entries ih =>
      cases n with
      | zero => cases h
      | succ n =>
          obtain ⟨q, x⟩ := e
          rw [List.take_succ_cons, Keyed.lookup_cons] at h
          rw [Keyed.lookup_cons]
          split at h
          · rwa [if_pos ‹_›]
          · rw [if_neg ‹_›]
            exact ih h

theorem of_lookup_add (h : (m.add key v).entries.lookup k = some w) :
    k = key ∧ w = v ∨ m.entries.lookup k = some w := by
  have h := of_lookup_take h
  rw [Keyed.lookup_cons, Keyed.lookup_filter_ne] at h
  by_cases hk : k = key
  · rw [if_pos hk] at h
    exact .inl ⟨hk, (Option.some.inj h).symm⟩
  · rw [if_neg hk, if_neg hk] at h
    exact .inr h

/-- One store holds nothing but what another one holds. -/
def Within (m m' : Memory α) : Prop := ∀ k v, m.entries.lookup k = some v → m'.entries.lookup k = some v

theorem within_get (m : Memory α) (key : String) : (m.get key).2.Within m := by
  intro k v h
  rwa [lookup_get] at h

end Memory

namespace Server

variable {s s' : Server} {m : Moment} {r : ServiceRequest} {x y : Submission} {key : String} {a : Analysis}

/-- A server that was not set up anew, and holds no response that another one does not hold. -/
structure Follows (s' s : Server) : Prop where
  settings : s'.settings = s.settings
  analyzer : s'.analyzer = s.analyzer
  responses : s'.responses.Within s.responses

theorem follows_refl (s : Server) : s.Follows s := ⟨rfl, rfl, fun _ _ h => h⟩

theorem Follows.counted (h : s'.Follows s) (metrics : Metrics) : Follows { s' with metrics } s :=
  ⟨h.settings, h.analyzer, h.responses⟩

theorem follows_remembered (s : Server) (now : Instant) (key : String) : (s.remembered now key).2.Follows s := by
  rw [remembered]
  split
  · exact follows_refl s
  have hget : Follows { s with responses := (s.responses.get key).2 } s := ⟨rfl, rfl, Memory.within_get _ _⟩
  dsimp only
  split
  · split
    · exact hget
    · exact hget
  · exact hget

theorem of_remembered {now : Instant} (h : (s.remembered now key).1 = some a) :
    ∃ until_, s.responses.entries.lookup key = some (until_, a) := by
  rw [remembered] at h
  split at h
  · cases h
  dsimp only at h
  split at h
  · rename_i until_ b hfound
    rw [Memory.get_fst] at hfound
    split at h
    · cases h
      exact ⟨until_, hfound⟩
    · cases h
  · cases h

theorem settings_remember (s : Server) (now : Instant) (key : String) (a : Analysis) :
    (s.remember now key a).settings = s.settings := by
  rw [remember]
  split <;> rfl

theorem analyzer_remember (s : Server) (now : Instant) (key : String) (a : Analysis) :
    (s.remember now key a).analyzer = s.analyzer := by
  rw [remember]
  split <;> rfl

theorem of_lookup_remember {now : Instant} {k : String} {v : Instant × Analysis}
    (h : (s.remember now key a).responses.entries.lookup k = some v) :
    k = key ∧ v.2 = a ∨ s.responses.entries.lookup k = some v := by
  rw [remember] at h
  split at h
  · obtain ⟨hk, rfl⟩ | h := Memory.of_lookup_add h
    · exact .inl ⟨hk, rfl⟩
    · exact .inr h
  · exact .inr h

/-- How a submission is answered: with a response that was kept, with an error, or with a fresh analysis. -/
inductive Answers (s : Server) (m : Moment) (x : Submission) : ServiceResponse × Server → Prop
  | kept {until_ : Instant} {a : Analysis} {s' : Server}
      (hkept : s.responses.entries.lookup (s.keyOf x) = some (until_, a)) (hs : s'.Follows s) :
      Answers s m x (ofAnalysis [("X-Cache", "HIT")] a, s')
  | failed {e : AnalysisError} {s' : Server} (h : s.analyzer.analyze .live x.code x.filename = .error e)
      (hs : s'.Follows s) : Answers s m x (ofAnalysisError m.faultId e, s')
  | fresh {a : Analysis} {headers : List (String × String)} {s' : Server}
      (h : s.analyzer.analyze .live x.code x.filename = .ok a) (hheaders : ("X-Cache", "HIT") ∉ headers)
      (hsettings : s'.settings = s.settings) (hanalyzer : s'.analyzer = s.analyzer)
      (hresponses : ∀ k v, s'.responses.entries.lookup k = some v →
        k = s.keyOf x ∧ v.2 = a ∨ s.responses.entries.lookup k = some v) : Answers s m x (ofAnalysis headers a, s')

theorem answers_answer (s : Server) (m : Moment) (x : Submission) : Answers s m x (s.answer m .live x) := by
  have hfollows := follows_remembered s m.now (s.keyOf x)
  unfold answer
  dsimp only
  cases hremembered : s.remembered m.now (s.keyOf x) with
  | mk kept s₁ =>
      rw [hremembered] at hfollows
      cases kept with
      | some a =>
          obtain ⟨until_, hkept⟩ := of_remembered (congrArg Prod.fst hremembered)
          exact Answers.kept hkept (hfollows.counted _)
      | none =>
          dsimp only
          generalize hs₂ : (if s₁.keepsResponses then { s₁ with metrics := { s₁.metrics with
            misses := s₁.metrics.misses + 1 } } else s₁) = s₂
          have hsame : s₂.Follows s := by
            rw [← hs₂]
            split
            · exact hfollows.counted _
            · exact hfollows
          rw [hsame.analyzer]
          cases hanalysis : s.analyzer.analyze .live x.code x.filename with
          | error e => exact Answers.failed hanalysis hsame
          | ok a =>
              refine Answers.fresh hanalysis ?_ ?_ ?_ ?_
              · split <;> simp
              · exact (settings_remember ..).trans hsame.settings
              · exact analyzer_remember ..
              · intro k v h
                obtain ⟨rfl, hv⟩ | h := of_lookup_remember h
                · exact .inl ⟨rfl, hv⟩
                · exact .inr (hsame.responses k v h)

def freshResponse (faultId : String) : Except AnalysisError Analysis → ServiceResponse
  | .error e => ofAnalysisError faultId e
  | .ok a => ofAnalysis [] a

theorem Answers.sameAs {answer : ServiceResponse × Server} (h : Answers s m x answer)
    (hkept : ∀ v, s.responses.entries.lookup (s.keyOf x) = some v → s.analyzer.analyze .live x.code x.filename = .ok v.2) :
    answer.1.status = (freshResponse m.faultId (s.analyzer.analyze .live x.code x.filename)).status ∧
      answer.1.body = (freshResponse m.faultId (s.analyzer.analyze .live x.code x.filename)).body := by
  cases h with
  | kept h =>
      rw [hkept _ h]
      exact ⟨rfl, rfl⟩
  | failed h | fresh h =>
      rw [h]
      exact ⟨rfl, rfl⟩

theorem headers_ofAnalysisError (faultId : String) (e : AnalysisError) : (ofAnalysisError faultId e).headers = [] := by
  unfold ofAnalysisError
  split_ifs <;> rfl

theorem Answers.kept_of_hit {answer : ServiceResponse × Server} (h : Answers s m x answer)
    (hhit : ("X-Cache", "HIT") ∈ answer.1.headers) : ∃ v, s.responses.entries.lookup (s.keyOf x) = some v := by
  cases h with
  | kept h => exact ⟨_, h⟩
  | failed h => simp [headers_ofAnalysisError] at hhit
  | fresh _ hheaders => exact absurd hhit hheaders

def AsksFor (s : Server) (r : ServiceRequest) (x : Submission) : Prop :=
  (∃ p, Route.find? r.method r.path = some (.analyze p)) ∧ Submission.ofRequest s.settings r = .ok x

theorem handle_analyze {p : String} (hroute : Route.find? r.method r.path = some (.analyze p))
    (hrate : s.settings.requestsPerMinute ≤ 0) :
    (s.handle m r).1 = { (s.handleAnalyze m r).1 with headers := protection ++ (s.handleAnalyze m r).1.headers } ∧
      ∃ metrics, (s.handle m r).2 = { (s.handleAnalyze m r).2 with metrics } := by
  have hserve : s.serve m r (.analyze p) = s.handleAnalyze m r := by
    rw [serve, admit?, if_pos hrate]
  rw [handle, hroute]
  dsimp only
  rw [hserve]
  exact ⟨rfl, _, rfl⟩

theorem follows_handle (hroute : ∀ p, Route.find? r.method r.path ≠ some (.analyze p)) : (s.handle m r).2.Follows s := by
  rw [handle]
  cases hfind : Route.find? r.method r.path with
  | some route =>
      apply Follows.counted
      cases route with
      | analyze p => exact absurd hfind (hroute p)
      | preflight | health | metrics => exact follows_refl s
  | none =>
      cases redirection? r with
      | some response => exact follows_refl s
      | none => exact (follows_refl s).counted _

theorem handleAnalyze_error {e : SubmissionError} (h : Submission.ofRequest s.settings r = .error e) :
    s.handleAnalyze m r = (.ofError e.status e.message, s) := by
  rw [handleAnalyze, h]

theorem answers_handleAnalyze (h : Submission.ofRequest s.settings r = .ok x) (hlive : r.context = .live) :
    Answers s m x (s.handleAnalyze m r) := by
  rw [handleAnalyze, h, hlive]
  exact answers_answer s m x

structure Exchange where
  request : ServiceRequest
  response : ServiceResponse

/-- What a server has answered since it was started, the last exchange first. It may forget responses at any time. -/
inductive Serves (start : Server) : List Exchange → Server → Prop
  | start : Serves start [] start
  | handle {log : List Exchange} {s : Server} (h : Serves start log s) (m : Moment) {r : ServiceRequest}
      (hlive : r.context = .live) : Serves start (⟨r, (s.handle m r).1⟩ :: log) (s.handle m r).2
  | forget {log : List Exchange} {s : Server} (h : Serves start log s) {responses : Memory (Instant × Analysis)}
      (hwithin : responses.Within s.responses) : Serves start log { s with responses }

def KeepsAnswers (start : Server) (log : List Exchange) (s : Server) : Prop :=
  ∀ k v, s.responses.entries.lookup k = some v → ∃ e ∈ log, ∃ x, AsksFor start e.request x ∧ k = start.keyOf x ∧
    start.analyzer.analyze .live x.code x.filename = .ok v.2 ∧
    e.response.status = 200 ∧ e.response.body = (ofAnalysis [] v.2).body

variable {start : Server} {log : List Exchange}

theorem KeepsAnswers.of_within (h : KeepsAnswers start log s) (hwithin : s'.responses.Within s.responses) :
    KeepsAnswers start log s' := fun k v hv => h k v (hwithin k v hv)

theorem KeepsAnswers.cons (h : KeepsAnswers start log s) (e : Exchange) : KeepsAnswers start (e :: log) s := by
  intro k v hv
  obtain ⟨e', he', hanswers⟩ := h k v hv
  exact ⟨e', List.mem_cons_of_mem _ he', hanswers⟩

structure Continues (start : Server) (log : List Exchange) (s : Server) : Prop where
  settings : s.settings = start.settings
  analyzer : s.analyzer = start.analyzer
  keeps : KeepsAnswers start log s

theorem Continues.follow (h : Continues start log s) (hs : s'.Follows s) (e : Exchange) :
    Continues start (e :: log) s' :=
  ⟨hs.settings.trans h.settings, hs.analyzer.trans h.analyzer, (h.keeps.of_within hs.responses).cons e⟩

theorem Continues.keyOf (h : Continues start log s) (x : Submission) : s.keyOf x = start.keyOf x := by
  rw [Server.keyOf, Server.keyOf, h.analyzer]

theorem Continues.handle (h : Continues start log s) (hrate : start.settings.requestsPerMinute ≤ 0) (m : Moment)
    (hlive : r.context = .live) : Continues start (⟨r, (s.handle m r).1⟩ :: log) (s.handle m r).2 := by
  by_cases hroute : ∃ p, Route.find? r.method r.path = some (.analyze p)
  swap
  · exact h.follow (follows_handle fun p hp => hroute ⟨p, hp⟩) _
  obtain ⟨p, hp⟩ := hroute
  obtain ⟨hresponse, metrics, hserver⟩ := handle_analyze (m := m) hp (h.settings ▸ hrate)
  rw [hresponse, hserver]
  dsimp only
  cases hsubmission : Submission.ofRequest s.settings r with
  | error e =>
      rw [handleAnalyze_error hsubmission]
      exact h.follow ((follows_refl s).counted metrics) _
  | ok x =>
      have hanswers := answers_handleAnalyze (m := m) hsubmission hlive
      generalize s.handleAnalyze m r = answer at hanswers
      cases hanswers with
      | kept _ hs | failed _ hs => exact h.follow (hs.counted metrics) _
      | fresh hanalysis _ hsettings hanalyzer hresponses =>
          refine ⟨hsettings.trans h.settings, hanalyzer.trans h.analyzer, fun k v hv => ?_⟩
          obtain ⟨rfl, rfl⟩ | hv := hresponses k v hv
          · exact ⟨_, List.mem_cons_self, x, ⟨⟨p, hp⟩, h.settings ▸ hsubmission⟩, h.keyOf x,
              h.analyzer ▸ hanalysis, rfl, rfl⟩
          · exact h.keeps.cons _ k v hv

theorem Serves.continues (h : Serves start log s) (hrate : start.settings.requestsPerMinute ≤ 0)
    (hempty : start.responses.entries = []) : Continues start log s := by
  induction h with
  | start =>
      refine ⟨rfl, rfl, fun k v hv => ?_⟩
      rw [hempty] at hv
      cases hv
  | handle _ m hlive ih => exact ih.handle hrate m hlive
  | forget _ hwithin ih => exact ⟨ih.settings, ih.analyzer, ih.keeps.of_within hwithin⟩

theorem answer_of_kept (hkeeps : s.keepsResponses) {until_ : Instant}
    (hkept : s.responses.entries.lookup (s.keyOf x) = some (until_, a)) (hnow : m.now < until_) (context : Context) :
    (s.answer m context x).1 = ofAnalysis [("X-Cache", "HIT")] a := by
  have hfound : (s.responses.get (s.keyOf x)).1 = some (until_, a) := by rw [Memory.get_fst, hkept]
  have hremembered : (s.remembered m.now (s.keyOf x)).1 = some a := by
    simp [remembered, hkeeps, hfound, hnow]
  rw [answer]
  split
  · rename_i b s' h
    rw [h] at hremembered
    cases hremembered
    rfl
  · rename_i s' h
    rw [h] at hremembered
    cases hremembered

theorem lookup_answer (hkeeps : s.keepsResponses) (hempty : s.responses.entries = []) (hsize : 0 < s.responses.size)
    (hanalysis : s.analyzer.analyze .live x.code x.filename = .ok a) :
    (s.answer m .live x).2.responses.entries.lookup (s.keyOf x) = some (m.now + s.settings.cacheLife, a) := by
  have hremembered : s.remembered m.now (s.keyOf x) = (none, s) := by
    simp [remembered, hkeeps, Memory.get, hempty]
  obtain ⟨n, hn⟩ := Nat.exists_eq_add_of_lt hsize
  have hkeeps' : 0 < s.settings.cacheSize := by simpa [keepsResponses] using hkeeps
  simp [answer, hremembered, hanalysis, remember, keepsResponses, hkeeps', Memory.add, hempty, hn]

/-- A request that is made again while its response counts is answered from there. -/
theorem hit_again {p : String} (hroute : Route.find? r.method r.path = some (.analyze p)) (hlive : r.context = .live)
    (hsubmission : Submission.ofRequest s.settings r = .ok x) (hrate : s.settings.requestsPerMinute ≤ 0)
    (hkeeps : s.keepsResponses) (hempty : s.responses.entries = []) (hsize : 0 < s.responses.size)
    (hlife : 0 < s.settings.cacheLife) (hanalysis : s.analyzer.analyze .live x.code x.filename = .ok a) (m : Moment) :
    ("X-Cache", "HIT") ∈ ((s.handle m r).2.handle m r).1.headers := by
  have hcontinues := (Serves.start.handle m hlive).continues hrate hempty
  have hkept := lookup_answer (m := m) hkeeps hempty hsize hanalysis
  have hfirst : s.handleAnalyze m r = s.answer m .live x := by rw [handleAnalyze, hsubmission, hlive]
  obtain ⟨-, metrics, hserver⟩ := handle_analyze (m := m) hroute hrate
  rw [hfirst] at hserver
  rw [← congrArg (·.responses) hserver, ← hcontinues.keyOf] at hkept
  generalize (s.handle m r).2 = s' at hcontinues hkept
  have hsecond : s'.handleAnalyze m r = s'.answer m .live x := by
    rw [handleAnalyze, hcontinues.settings, hsubmission, hlive]
  have hkeeps' : s'.keepsResponses := by rwa [keepsResponses, hcontinues.settings]
  obtain ⟨hresponse, -⟩ := handle_analyze (m := m) hroute (hcontinues.settings ▸ hrate)
  rw [hresponse, hsecond, answer_of_kept hkeeps' hkept (Int.lt_add_of_pos_right _ hlife)]
  exact List.mem_append_right _ List.mem_cons_self

def unlimited : ServiceSettings := { ServiceSettings.default with requestsPerMinute := 0 }

def bindingRequest : ServiceRequest :=
  { target := "/analyze"
    body := Json.render .compact (.ofFields [("code", .text Analyzer.binding), ("filename", .ofString "a.py")]) }

theorem route_binding : Route.find? bindingRequest.method bindingRequest.path = some (.analyze "/analyze") := by
  decide +kernel

theorem ofRequest_binding : Submission.ofRequest unlimited bindingRequest = .ok ⟨Analyzer.binding, "a.py"⟩ := by
  have htype : bindingRequest.mediaType = "application/json" := by cbv
  have hlength : ¬unlimited.maxBody < bindingRequest.body.length := by decide +kernel
  have hnested : ∀ f ∈ [("code", Datum.text Analyzer.binding), ("filename", .ofString "a.py")], f.2.Nested 0 := by
    simp [Datum.ofString, Datum.Nested.text]
  have hparse := Json.parse?_render ((Datum.nested_ofFields hnested).mono (show 1 ≤ Json.Reader.maxDepth by decide))
    .compact (show ([] : Bytes).all Json.isBlank by rfl)
  have hrepaired : (Datum.text Analyzer.binding).repaired = .text Analyzer.binding := by
    have hbinding : Utf8.repair Analyzer.binding = Analyzer.binding := by decide +kernel
    simp [Datum.repaired, hbinding]
  simp only [List.append_nil, Datum.repaired_ofFields, List.map_cons, List.map_nil, hrepaired,
    Datum.repaired_ofString] at hparse
  rw [Submission.ofRequest, if_neg (not_not_intro htype), if_neg hlength, bindingRequest, hparse]
  decide +kernel

inductive SameBody : ServiceBody → ServiceBody → Prop
  | same (b : ServiceBody) : SameBody b b
  | fault (i j : String) : SameBody (internalError i).body (internalError j).body

theorem ofAnalysisError_cases (e : AnalysisError) :
    (∃ r, ∀ faultId, ofAnalysisError faultId e = r) ∨ ∀ faultId, ofAnalysisError faultId e = internalError faultId := by
  unfold ofAnalysisError
  by_cases hempty : .emptyInput ∈ e.causes
  · exact .inl ⟨_, fun _ => if_pos hempty⟩
  simp only [if_neg hempty]
  by_cases hlarge : .inputTooLarge ∈ e.causes
  · exact .inl ⟨_, fun _ => if_pos hlarge⟩
  simp only [if_neg hlarge]
  by_cases hended : .context .cancelled ∈ e.causes ∨ .context .deadline ∈ e.causes
  · exact .inl ⟨_, fun _ => if_pos hended⟩
  · exact .inr fun _ => if_neg hended

theorem status_freshResponse (i j : String) (r : Except AnalysisError Analysis) :
    (freshResponse i r).status = (freshResponse j r).status := by
  cases r with
  | ok => rfl
  | error e =>
      change (ofAnalysisError i e).status = (ofAnalysisError j e).status
      obtain ⟨r, hr⟩ | hfault := ofAnalysisError_cases e
      · rw [hr, hr]
      · rw [hfault, hfault]
        rfl

theorem sameBody_freshResponse (i j : String) (r : Except AnalysisError Analysis) :
    SameBody (freshResponse i r).body (freshResponse j r).body := by
  cases r with
  | ok => exact SameBody.same _
  | error e =>
      change SameBody (ofAnalysisError i e).body (ofAnalysisError j e).body
      obtain ⟨r, hr⟩ | hfault := ofAnalysisError_cases e
      · rw [hr, hr]
        exact SameBody.same _
      · rw [hfault, hfault]
        exact SameBody.fault i j

theorem ofSettings_ok {analyzer : Analyzer} {c : ServiceSettings} (h : ofSettings (some analyzer) c = .ok start) :
    start.analyzer = analyzer ∧ c.complete = .ok start.settings ∧ start.responses.entries = [] := by
  rw [ofSettings] at h
  split at h
  · cases h
  · cases h
    exact ⟨rfl, ‹_›, rfl⟩

theorem requestsPerMinute_complete {c full : ServiceSettings} (h : c.complete = .ok full) :
    full.requestsPerMinute = c.requestsPerMinute := by
  rw [ServiceSettings.complete] at h
  split at h
  · cases h
  split at h
  · cases h
  split at h
  · cases h
  split at h
  · cases h
  cases h
  rfl

theorem complete_keepingNone {c full : ServiceSettings} (h : c.complete = .ok full) :
    { c with cacheSize := 0 }.complete = .ok { full with cacheSize := 0 } := by
  rw [ServiceSettings.complete] at h ⊢
  split at h
  · cases h
  split at h
  · cases h
  split at h
  · cases h
  split at h
  · cases h
  cases h
  rw [if_neg ‹_›, if_neg ‹_›, if_neg ‹_›, if_neg (by simp)]

/-- No two submissions among the requests share a key. -/
def KeysTellApart (start : Server) (requests : List ServiceRequest) : Prop :=
  ∀ q ∈ requests, ∀ q' ∈ requests, ∀ x y, AsksFor start q x → AsksFor start q' y → start.keyOf x = start.keyOf y → x = y

theorem Continues.analyze_of_kept (h : Continues start log s)
    (hkeys : KeysTellApart start (r :: log.map (·.request))) (hasks : AsksFor start r x) {v : Instant × Analysis}
    (hkept : s.responses.entries.lookup (s.keyOf x) = some v) :
    start.analyzer.analyze .live x.code x.filename = .ok v.2 ∧
      ∃ e ∈ log, AsksFor start e.request x ∧ e.response.status = 200 := by
  obtain ⟨e, he, y, hy, hkey, hanalysis, hstatus, -⟩ := h.keeps _ _ hkept
  rw [h.keyOf] at hkey
  have hrequest : e.request ∈ r :: log.map (·.request) := List.mem_cons_of_mem _ (List.mem_map_of_mem he)
  obtain rfl := hkeys r List.mem_cons_self e.request hrequest x y hasks hy hkey
  exact ⟨hanalysis, e, he, hy, hstatus⟩

/-- A server that keeps responses answers a request for an analysis as one that keeps none. A response is given again
only if the same submission was answered before, and only what was answered is kept. -/
theorem responses_transparent {analyzer : Analyzer} {c : ServiceSettings} (hstart : ofSettings (some analyzer) c = .ok start)
    (hrate : c.requestsPerMinute = 0) (hserves : Serves start log s)
    (hkeys : KeysTellApart start (r :: log.map (·.request))) {p : String}
    (hroute : Route.find? r.method r.path = some (.analyze p)) (hlive : r.context = .live) (m m' : Moment) :
    ∃ plain, ofSettings (some analyzer) { c with cacheSize := 0 } = .ok plain ∧
      (s.handle m r).1.status = (plain.handle m' r).1.status ∧
      SameBody (s.handle m r).1.body (plain.handle m' r).1.body ∧
      (("X-Cache", "HIT") ∈ (s.handle m r).1.headers →
        ∃ e ∈ log, ∃ x, AsksFor start r x ∧ AsksFor start e.request x ∧ e.response.status = 200) ∧
      KeepsAnswers start (⟨r, (s.handle m r).1⟩ :: log) (s.handle m r).2 := by
  obtain ⟨rfl, hcomplete, hempty⟩ := ofSettings_ok hstart
  have hlimit : start.settings.requestsPerMinute ≤ 0 :=
    Int.le_of_eq ((requestsPerMinute_complete hcomplete).trans hrate)
  have hcontinues := hserves.continues hlimit hempty
  obtain ⟨plain, hplain⟩ : ∃ plain, ofSettings (some start.analyzer) { c with cacheSize := 0 } = .ok plain := by
    rw [ofSettings, complete_keepingNone hcomplete]
    exact ⟨_, rfl⟩
  refine ⟨plain, hplain, ?_⟩
  obtain ⟨hanalyzer, hplainComplete, hnothing⟩ := ofSettings_ok hplain
  have hsettings : plain.settings = { start.settings with cacheSize := 0 } :=
    Except.ok.inj (hplainComplete.symm.trans (complete_keepingNone hcomplete))
  have hsame : Submission.ofRequest plain.settings r = Submission.ofRequest start.settings r := by
    rw [hsettings]
    rfl
  obtain ⟨hresponse, metrics, -⟩ := handle_analyze (m := m) hroute (hcontinues.settings ▸ hlimit)
  obtain ⟨hplainResponse, -⟩ := handle_analyze (s := plain) (m := m') hroute (hsettings ▸ hlimit)
  have hprotection : ("X-Cache", "HIT") ∉ protection := by decide
  rw [← and_assoc, ← and_assoc]
  refine ⟨?_, (hcontinues.handle hlimit m hlive).keeps⟩
  rw [hresponse, hplainResponse]
  simp only [List.mem_append, hprotection, false_or]
  cases hsubmission : Submission.ofRequest start.settings r with
  | error e =>
      rw [handleAnalyze_error (hcontinues.settings ▸ hsubmission), handleAnalyze_error (hsame.trans hsubmission)]
      exact ⟨⟨rfl, SameBody.same _⟩, fun h => by cases h⟩
  | ok x =>
      have hasks : AsksFor start r x := ⟨⟨p, hroute⟩, hsubmission⟩
      -- What is kept for the submission was answered to an equal one before, so it is the fresh analysis.
      have hkept : ∀ v, s.responses.entries.lookup (s.keyOf x) = some v →
          start.analyzer.analyze .live x.code x.filename = .ok v.2 :=
        fun v hv => (hcontinues.analyze_of_kept hkeys hasks hv).1
      have hanswers := answers_handleAnalyze (m := m) (hcontinues.settings ▸ hsubmission) hlive
      have hplainAnswers := answers_handleAnalyze (m := m') (hsame.trans hsubmission) hlive
      generalize s.handleAnalyze m r = answer at hanswers
      generalize plain.handleAnalyze m' r = plainAnswer at hplainAnswers
      obtain ⟨hstatus, hbody⟩ := hanswers.sameAs (hcontinues.analyzer ▸ hkept)
      obtain ⟨hplainStatus, hplainBody⟩ := hplainAnswers.sameAs (by simp [hnothing])
      rw [hstatus, hbody, hplainStatus, hplainBody, hcontinues.analyzer, hanalyzer]
      refine ⟨⟨status_freshResponse .., sameBody_freshResponse ..⟩, fun hhit => ?_⟩
      obtain ⟨v, hv⟩ := hanswers.kept_of_hit hhit
      obtain ⟨-, e, he, hasked, hok⟩ := hcontinues.analyze_of_kept hkeys hasks hv
      exact ⟨e, he, x, hasks, hasked, hok⟩

/-- The second of two equal requests is answered with what was kept for the first. -/
theorem responses_transparent_repeated : ∃ (start s plain : Server) (log : List Exchange) (m : Moment),
    Serves start log s ∧ plain.settings.cacheSize = 0 ∧ ("X-Cache", "HIT") ∈ (s.handle m bindingRequest).1.headers ∧
    (s.handle m bindingRequest).1.status = (plain.handle m bindingRequest).1.status ∧
    SameBody (s.handle m bindingRequest).1.body (plain.handle m bindingRequest).1.body := by
  obtain ⟨analyzer, a, -, hanalysis, -⟩ := Analyzer.analyze_answering "one"
  obtain ⟨start, hstart, hsettings, rfl, hempty, hsize⟩ : ∃ start, ofSettings (some analyzer) unlimited = .ok start ∧
      start.settings = unlimited ∧ start.analyzer = analyzer ∧ start.responses.entries = [] ∧
      start.responses.size = 100 := ⟨_, rfl, rfl, rfl, rfl, rfl⟩
  have hkeeps : start.keepsResponses := by rw [keepsResponses, hsettings]; decide
  have hrate : start.settings.requestsPerMinute ≤ 0 := by rw [hsettings]; decide
  have hsubmission : Submission.ofRequest start.settings bindingRequest = .ok ⟨Analyzer.binding, "a.py"⟩ :=
    hsettings ▸ ofRequest_binding
  let m : Moment := ⟨0, ""⟩
  have hserves : Serves start _ _ := Serves.start.handle m (show bindingRequest.context = .live from rfl)
  have hkeys : KeysTellApart start [bindingRequest, bindingRequest] := by
    intro q hq q' hq' x y hx hy hkey
    obtain rfl : q = bindingRequest := by simpa using hq
    obtain rfl : q' = bindingRequest := by simpa using hq'
    exact Except.ok.inj (hx.2.symm.trans hy.2)
  obtain ⟨plain, hplain, hstatus, hbody, -, -⟩ :=
    responses_transparent hstart rfl hserves hkeys route_binding rfl m m
  refine ⟨start, _, plain, _, m, hserves, ?_, ?_, hstatus, hbody⟩
  · obtain ⟨-, hcomplete, -⟩ := ofSettings_ok hplain
    rw [← Except.ok.inj hcomplete]
  · exact hit_again route_binding rfl hsubmission hrate hkeeps hempty (by omega) (by rw [hsettings]; decide) hanalysis m

end Server

end SourceSurvey
