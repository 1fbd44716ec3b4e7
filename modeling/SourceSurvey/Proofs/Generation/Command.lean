import Mathlib
import SourceSurvey.Generation.Provider
import SourceSurvey.Proofs.Datum.JsonFault

namespace SourceSurvey

open CommandAnswer

namespace AnswerField

/-- The text that a field holds, where a later field of that name goes before an earlier one. -/
def said? (f : AnswerField) (fields : List (Bytes × Datum)) : Option Bytes :=
  fields.reverse.findSome? fun field => if ofName? field.1 = some f then field.2.text? else none

/-- Whether the value of a field can be taken. -/
def Takes (name : Bytes) (d : Datum) : Prop := (ofName? name).isSome → d = .null ∨ ∃ s, d = .text s

end AnswerField

/-- A well-formed answer: a JSON record that keeps to the version of the exchange, reports no error and holds
this text. -/
structure IsAnswer (output : Bytes) (fields : List (Bytes × Datum)) (text : Bytes) : Prop where
  faultless : Json.fault? output = none
  parsed : Json.parse? output = some (.record fields)
  taken : ∀ f ∈ fields, AnswerField.Takes f.1 f.2
  version : AnswerField.version.said? fields = some (utf8 CommandRequest.schemaVersion)
  errorless : (AnswerField.error.said? fields).getD [] = []
  text : (AnswerField.text.said? fields).getD [] = text

theorem IsAnswer.blank {blank output text : Bytes} {fields : List (Bytes × Datum)}
    (hblank : ∀ b ∈ blank, Json.isBlank b) (h : IsAnswer output fields text) : IsAnswer (blank ++ output) fields text where
  faultless := (Json.fault?_blank hblank).trans h.faultless
  parsed := Json.parse?_blank hblank h.parsed
  taken := h.taken
  version := h.version
  errorless := h.errorless
  text := h.text

namespace CommandAnswer

open AnswerField

def get (a : CommandAnswer) : AnswerField → Bytes
  | .version => a.version
  | .text => a.text
  | .error => a.error

theorem get_set (a : CommandAnswer) (s : Bytes) (f g : AnswerField) :
    (a.set s g).get f = if g = f then s else a.get f := by
  cases f <;> cases g <;> rfl

theorem mismatch_set (a : CommandAnswer) (s : Bytes) (f : AnswerField) : (a.set s f).mismatch = a.mismatch := by
  cases f <;> rfl

theorem get_take (a : CommandAnswer) (name : Bytes) (d : Datum) (f : AnswerField) :
    (a.take name d).get f = (if ofName? name = some f then d.text? else none).getD (a.get f) := by
  rw [take]
  cases ofName? name with
  | none => simp
  | some g =>
      cases d with
      | text s =>
          simp only [get_set, Option.some_inj, Datum.text?]
          split <;> rfl
      | _ => cases f <;> simp [Datum.text?, get]

theorem mismatch_take (a : CommandAnswer) (name : Bytes) (d : Datum) :
    (a.take name d).mismatch = none ↔ a.mismatch = none ∧ Takes name d := by
  rw [take, Takes]
  cases ofName? name with
  | none => simp
  | some g => cases d <;> simp [mismatch_set]

theorem ofFields_append (fields : List (Bytes × Datum)) (last : Bytes × Datum) :
    ofFields (fields ++ [last]) = (ofFields fields).take last.1 last.2 := by
  simp [ofFields]

theorem get_ofFields (fields : List (Bytes × Datum)) (f : AnswerField) :
    (ofFields fields).get f = (f.said? fields).getD [] := by
  induction fields using List.reverseRecOn with
  | nil => cases f <;> rfl
  | append_singleton fields last ih =>
      rw [ofFields_append, get_take, ih, said?, said?, List.reverse_append, List.reverse_singleton,
        List.singleton_append, List.findSome?_cons]
      generalize (if ofName? last.1 = some f then last.2.text? else none) = here
      cases here <;> rfl

theorem mismatch_ofFields (fields : List (Bytes × Datum)) :
    (ofFields fields).mismatch = none ↔ ∀ f ∈ fields, Takes f.1 f.2 := by
  induction fields using List.reverseRecOn with
  | nil => simp [ofFields]
  | append_singleton fields last ih =>
      rw [ofFields_append, mismatch_take, ih, List.forall_mem_append, List.forall_mem_singleton]

variable {output text : Bytes} {fields : List (Bytes × Datum)} {a : CommandAnswer}

theorem decode_eq_ok_iff : decode output = .ok a ↔ Json.fault? output = none ∧
    ((∃ fields, Json.parse? output = some (.record fields) ∧ (∀ f ∈ fields, Takes f.1 f.2) ∧ a = ofFields fields) ∨
      (Json.parse? output = none ∨ Json.parse? output = some .null) ∧ a = {}) := by
  rw [decode]
  cases Json.fault? output with
  | some fault => simp
  | none =>
      cases Json.parse? output with
      | none => simp [eq_comm]
      | some d =>
          cases d with
          | record fields =>
              simp only [← mismatch_ofFields]
              cases hmismatch : (ofFields fields).mismatch <;> simp [hmismatch, eq_comm]
          | _ => simp [eq_comm]

end CommandAnswer

namespace CommandRun

open AnswerField

variable {output text : Bytes} {program : String} {r : CommandRun}

theorem accept_eq_ok_iff : accept program output = .ok text ↔ ∃ fields, IsAnswer output fields text := by
  constructor
  · intro h
    rw [accept] at h
    split at h
    · cases h
    split at h
    · cases h
    rename_i a ha
    split at h
    · cases h
    rename_i hversion
    split at h
    · cases h
    rename_i herror
    rw [not_not] at hversion
    cases h
    obtain ⟨hfault, ⟨fields, hparse, htaken, rfl⟩ | ⟨-, rfl⟩⟩ := decode_eq_ok_iff.mp ha
    · have hget := get_ofFields fields
      refine ⟨fields, hfault, hparse, htaken, ?_, ?_, (hget .text).symm⟩
      · obtain hsaid | ⟨-, hnone⟩ := Option.getD_eq_iff.mp ((hget .version).symm.trans hversion)
        · exact hsaid
        · exact absurd hnone (by decide)
      · have hnone : (ofFields fields).error = [] := by simpa using herror
        exact (hget .error).symm.trans hnone
    · exact absurd hversion (by decide)
  · rintro ⟨fields, h⟩
    obtain ⟨b, hmem, hb⟩ := Json.exists_visible h.faultless
    have hdecode := decode_eq_ok_iff.mpr ⟨h.faultless, .inl ⟨fields, h.parsed, h.taken, rfl⟩⟩
    have hversion : (ofFields fields).version = utf8 CommandRequest.schemaVersion := by
      have hget := get_ofFields fields .version
      rwa [h.version] at hget
    have herror : (ofFields fields).error = [] := (get_ofFields fields .error).trans h.errorless
    have htext : (ofFields fields).text = text := (get_ofFields fields .text).trans h.text
    simp [accept, Bytes.isBlank_of_visible hmem hb, hdecode, hversion, herror, htext]

/-- A run that brings this text: the request was still wanted, the command ended well, what went through its streams
went through whole and below the limit, and its output is a well-formed answer. -/
structure Answers (r : CommandRun) (text : Bytes) : Prop where
  live : r.request = none
  exited : r.status = 0
  written : r.unwritten = none
  read : r.unread = none
  fits : r.output.length < maxOutput
  wellFormed : ∃ fields, IsAnswer r.output fields text

theorem accept_fault {e : CommandError} (h : accept program output = .error e) :
    ∃ detail, e = .fault detail .badOutput := by
  rw [accept] at h
  split at h
  · exact ⟨_, (Except.error.inj h).symm⟩
  split at h
  · exact ⟨_, (Except.error.inj h).symm⟩
  split at h
  · exact ⟨_, (Except.error.inj h).symm⟩
  split at h
  · exact ⟨_, (Except.error.inj h).symm⟩
  · cases h

theorem readFault?_eq_none_iff : r.readFault? = none ↔ r.unread = none ∧ r.output.length < maxOutput := by
  rw [readFault?, Option.or_eq_none_iff, ite_eq_right_iff]
  simp

theorem judge_eq_ok_iff : r.judge program = .ok text ↔ r.Answers text := by
  constructor
  · intro h
    rw [judge] at h
    split at h
    · cases h
    · cases h
    rename_i hlive
    split at h
    · cases h
    rename_i hexited
    split at h
    · cases h
    · cases h
    rename_i hwritten hread
    obtain ⟨hread, hfits⟩ := readFault?_eq_none_iff.mp hread
    exact ⟨hlive, not_not.mp hexited, hwritten, hread, hfits, accept_eq_ok_iff.mp h⟩
  · rintro ⟨hlive, hexited, hwritten, hread, hfits, hanswer⟩
    simp only [judge, hlive, hexited, hwritten, readFault?_eq_none_iff.mpr ⟨hread, hfits⟩]
    exact accept_eq_ok_iff.mpr hanswer

theorem judge_fault {e : CommandError} (hlive : r.request = none) (h : r.judge program = .error e) :
    ∃ detail cause, e = .fault detail cause ∧ cause ∈ [CommandFault.exited, .unspecific, .badOutput] := by
  simp only [judge, hlive] at h
  split at h
  · cases h
    exact ⟨_, .exited, rfl, by decide⟩
  split at h
  · cases h
    exact ⟨_, .unspecific, rfl, by decide⟩
  · cases h
    exact ⟨_, .badOutput, rfl, by decide⟩
  · obtain ⟨detail, rfl⟩ := accept_fault h
    exact ⟨detail, .badOutput, rfl, by decide⟩

end CommandRun

namespace CommandOutcome

def isCancelled : CommandOutcome → Bool
  | refused e => e = .cancelled
  | ran r => r.request = some .cancelled
  | _ => false

def isTimeout : CommandOutcome → Bool
  | ran r => r.request = some .deadline
  | _ => false

theorem judge_eq_ok_iff {o : CommandOutcome} {program : String} {text : Bytes} :
    o.judge program = .ok text ↔ ∃ r, o = .ran r ∧ r.Answers text := by
  cases o with
  | ran r => simp [judge, CommandRun.judge_eq_ok_iff]
  | _ => simp [judge]

theorem judge_fault {o : CommandOutcome} {program : String} {e : CommandError} (h : o.judge program = .error e) :
    ∃ detail cause, e = .fault detail cause ∧ (cause = .ended .cancelled ↔ o.isCancelled) ∧
      (cause = .timedOut ↔ o.isTimeout) := by
  cases o with
  | ran r =>
      cases hrequest : r.request with
      | some ending =>
          simp only [judge, CommandRun.judge, hrequest] at h
          cases ending <;> cases h <;> exact ⟨_, _, rfl, by simp [isCancelled, hrequest], by simp [isTimeout, hrequest]⟩
      | none =>
          obtain ⟨detail, cause, rfl, hcause⟩ := CommandRun.judge_fault hrequest h
          refine ⟨detail, cause, rfl, ?_, ?_⟩
          · simpa [isCancelled, hrequest] using ne_of_mem_of_not_mem hcause (by decide)
          · simpa [isTimeout, hrequest] using ne_of_mem_of_not_mem hcause (by decide)
  | _ =>
      cases h
      exact ⟨_, _, rfl, by simp [isCancelled], by simp [isTimeout]⟩

end CommandOutcome

namespace CommandRunner

def attempt? (launch : Launcher) (call : CallContext) (words : List String) (request : CommandRequest) :
    Option CommandOutcome :=
  if words.headD "" = "" then none else some (launch call words request.encode)

variable {launch : Launcher} {call : CallContext} {words : List String} {request : CommandRequest}

theorem ofLauncher_eq : ofLauncher launch call words request =
    match attempt? launch call words request with
    | none => .error (.fault "command cannot be empty" .unspecific)
    | some o => o.judge (words.headD "") := by
  unfold ofLauncher attempt?
  split
  · simp
  · simp
  · rename_i program rest hne
    have hprogram : program ≠ "" := fun h => hne h
    simp [hprogram]

theorem ofLauncher_eq_ok_iff {text : Bytes} : ofLauncher launch call words request = .ok text ↔
    ∃ r, attempt? launch call words request = some (.ran r) ∧ r.Answers text := by
  rw [ofLauncher_eq]
  cases attempt? launch call words request with
  | none => simp
  | some o => simp [CommandOutcome.judge_eq_ok_iff]

theorem ofLauncher_fault {e : CommandError} (h : ofLauncher launch call words request = .error e) :
    ∃ detail cause, e = .fault detail cause ∧
      (cause = .ended .cancelled ↔ (attempt? launch call words request).any (·.isCancelled)) ∧
      (cause = .timedOut ↔ (attempt? launch call words request).any (·.isTimeout)) := by
  rw [ofLauncher_eq] at h
  cases hattempt : attempt? launch call words request with
  | none =>
      rw [hattempt] at h
      cases h
      exact ⟨_, _, rfl, by simp, by simp⟩
  | some o =>
      rw [hattempt] at h
      exact CommandOutcome.judge_fault h

end CommandRunner

namespace Provider

open CommandRunner

variable {reach : Reach} {call : CallContext} {words : List String} {language : String} {prompt excerpt text : Bytes}

theorem ask_ok (h : reach.run call words ⟨prompt, excerpt, language⟩ = .ok text) :
    ask reach call language prompt excerpt (.command words) = .ok text := by
  simp only [ask, h]

theorem ask_fault {detail : String} {cause : CommandFault}
    (h : reach.run call words ⟨prompt, excerpt, language⟩ = .error (.fault detail cause))
    (hcancelled : cause = .ended .cancelled → call.context.ended? .generated = some .cancelled) :
    (ask reach call language prompt excerpt (.command words)).mapError CallError.toGeneratorError =
      .error (if cause = .ended .cancelled then .ended .cancelled
        else if cause = .timedOut then .timedOut (": " ++ (CommandError.fault detail cause).message)
        else .unavailable (": " ++ (CommandError.fault detail cause).message)) := by
  simp only [ask, h]
  cases cause with
  | ended ending =>
      cases ending with
      | cancelled =>
          rw [hcancelled rfl]
          rfl
      | deadline => rfl
  | _ => rfl

/-- A text comes of the command exactly if a run brought it. Everything else is a fault of the command, which becomes
the request's own error where the request was cancelled, a timeout where the command ran into the deadline, and
the command's being unavailable otherwise. -/
theorem ask_command (launch : Launcher) (web : Web) (call : CallContext) (words : List String) (language : String)
    (prompt excerpt : Bytes)
    (hcancelled : ∀ o ∈ attempt? launch call words ⟨prompt, excerpt, language⟩, o.isCancelled →
      call.context.ended? .generated = some .cancelled) :
    let came := attempt? launch call words ⟨prompt, excerpt, language⟩
    let response := ofLauncher launch call words ⟨prompt, excerpt, language⟩
    let generated := (ask ⟨ofLauncher launch, web⟩ call language prompt excerpt (.command words)).mapError
      CallError.toGeneratorError
    (∀ text, response = .ok text ↔ ∃ r, came = some (.ran r) ∧ r.Answers text) ∧
      (∀ text, generated = .ok text ↔ response = .ok text) ∧
      ∀ e, response = .error e → (∃ detail cause, e = .fault detail cause) ∧
        generated = .error (if came.any (·.isCancelled) then .ended .cancelled
          else if came.any (·.isTimeout) then .timedOut (": " ++ e.message)
          else .unavailable (": " ++ e.message)) := by
  intro came response generated
  have hfault (e : CommandError) (he : response = .error e) : (∃ detail cause, e = .fault detail cause) ∧
      generated = .error (if came.any (·.isCancelled) then .ended .cancelled
        else if came.any (·.isTimeout) then .timedOut (": " ++ e.message)
        else .unavailable (": " ++ e.message)) := by
    obtain ⟨detail, cause, rfl, hcancels, htimes⟩ := ofLauncher_fault he
    refine ⟨⟨detail, cause, rfl⟩, ?_⟩
    simp only [came, ← hcancels, ← htimes]
    refine ask_fault he fun hcause => ?_
    obtain ⟨o, ho, hcancel⟩ := (Option.any_eq_true _ _).mp (hcancels.mp hcause)
    exact hcancelled o ho hcancel
  refine ⟨fun text => ofLauncher_eq_ok_iff, fun text => ?_, hfault⟩
  cases hresponse : response with
  | ok said =>
      have hsaid : ask ⟨ofLauncher launch, web⟩ call language prompt excerpt (.command words) = .ok said :=
        ask_ok hresponse
      simp [generated, hsaid, Except.mapError]
  | error e => simp [(hfault e hresponse).2]

def goodAnswer : String := "\x7b\"$schemaVersion\":\"1\",\"text\":\"ok\"\x7d"

def goodFields : List (Bytes × Datum) := [(utf8 "$schemaVersion", .text (utf8 "1")), (utf8 "text", .text (utf8 "ok"))]

def goodOutput : Bytes := utf8 (goodAnswer ++ "\n")

theorem isAnswer_good : IsAnswer goodOutput goodFields (utf8 "ok") where
  faultless := by decide +kernel
  parsed := by cbv
  taken := by
    simp only [goodFields, List.forall_mem_cons]
    exact ⟨fun _ => .inr ⟨_, rfl⟩, fun _ => .inr ⟨_, rfl⟩, by simp⟩
  version := by decide +kernel
  errorless := by decide +kernel
  text := by decide +kernel

def echo : Launcher := fun call words _ =>
  match call.context.ended? .begun with
  | some ending => .refused ending
  | none => .ran { output := utf8 (" ".intercalate words.tail ++ "\n") }

theorem ask_command_echo :
    (ask ⟨ofLauncher echo, fun _ _ => .error (.unreachable "")⟩ {} "Go" [] [] (.command ["echo", goodAnswer])).mapError
        CallError.toGeneratorError = .ok (utf8 "ok") ∧
      (ask ⟨ofLauncher echo, fun _ _ => .error (.unreachable "")⟩ ⟨.cancelled, none⟩ "Go" [] []
        (.command ["echo", goodAnswer])).mapError CallError.toGeneratorError = .error (.ended .cancelled) := by
  constructor
  · obtain ⟨hresponse, hgenerated, -⟩ := ask_command echo (fun _ _ => .error (.unreachable "")) {}
      ["echo", goodAnswer] "Go" [] [] (by simp [attempt?, echo, CommandOutcome.isCancelled])
    rw [hgenerated, hresponse]
    refine ⟨{ output := goodOutput }, rfl, rfl, rfl, rfl, rfl, ?_, goodFields, isAnswer_good⟩
    decide +kernel
  · obtain ⟨-, -, hfault⟩ := ask_command echo (fun _ _ => .error (.unreachable "")) ⟨.cancelled, none⟩
      ["echo", goodAnswer] "Go" [] [] (fun _ _ _ => rfl)
    exact (hfault _ rfl).2

def fullOutput : Bytes := List.replicate (CommandRun.maxOutput - goodOutput.length) 32 ++ goodOutput

theorem length_fullOutput : fullOutput.length = CommandRun.maxOutput := by
  have hlength : goodOutput.length ≤ CommandRun.maxOutput := by decide +kernel
  rw [fullOutput, List.length_append, List.length_replicate, Nat.sub_add_cancel hlength]

/-- An answer that goes up to the limit is refused, although it does not exceed it. -/
theorem full_answer_refused : ¬∀ (r : CommandRun) (text : Bytes), r.request = none → r.status = 0 → r.unwritten = none →
    r.unread = none → r.output.length ≤ CommandRun.maxOutput → (∃ fields, IsAnswer r.output fields text) →
      ofLauncher (fun _ _ _ => .ran r) {} ["answer"] ⟨[], [], ""⟩ = .ok text := by
  intro h
  have hanswer : IsAnswer fullOutput goodFields (utf8 "ok") :=
    isAnswer_good.blank fun b hb => by rw [List.eq_of_mem_replicate hb]; rfl
  have hok := h { output := fullOutput } (utf8 "ok") rfl rfl rfl rfl (Nat.le_of_eq length_fullOutput) ⟨_, hanswer⟩
  obtain ⟨r, hr, hbrings⟩ := ofLauncher_eq_ok_iff.mp hok
  obtain rfl : { output := fullOutput } = r := CommandOutcome.ran.inj (Option.some.inj hr)
  exact absurd hbrings.fits (by rw [length_fullOutput]; exact Nat.lt_irrefl _)

end Provider

end SourceSurvey
