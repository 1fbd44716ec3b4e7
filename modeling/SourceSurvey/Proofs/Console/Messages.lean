import SourceSurvey.Proofs.Console.Monitor

namespace SourceSurvey

def MonitorMessage.standing (path : String) (before : Option String) : MonitorMessage → Option String
  | .discovered p => if p = path then some (before.getD FileStatus.pending.name) else before
  | .status u => if u.path = path then some u.status else before
  | _ => before

namespace Monitor

variable {m : Monitor} {x : MonitorMessage} {xs : List MonitorMessage}

/-- Whether two views hold the same of the files. -/
def Agrees (m m' : Monitor) : Prop := m'.items = m.items ∧ m'.index = m.index ∧ m'.counts = m.counts

theorem Agrees.statusOf {m' : Monitor} (h : m.Agrees m') (path : String) : m'.statusOf path = m.statusOf path := by
  rw [Monitor.statusOf, Monitor.statusOf, h.1]

theorem Agrees.tallied {m' : Monitor} (h : m.Agrees m') (hm : m.Tallied) : m'.Tallied := by
  obtain ⟨hitems, hindex, hcounts⟩ := h
  refine ⟨?_, fun path i => ?_, ?_, fun c hc => ?_⟩
  · rw [hitems]
    exact hm.unique
  · rw [position?, hindex, hitems]
    exact hm.indexed path i
  · rw [hcounts, hitems]
    exact hm.discovered
  · rw [hitems, hcounts]
    exact hm.counted c hc

theorem agrees_refreshSoon (m : Monitor) : m.Agrees m.refreshSoon.1 := by
  rw [refreshSoon]
  split <;> exact ⟨rfl, rfl, rfl⟩

theorem agrees_move (m : Monitor) (key : String) : m.Agrees (m.move key) := by
  unfold move
  split <;> exact ⟨rfl, rfl, rfl⟩

theorem update_discovered (m : Monitor) (path : String) : (m.meet path).Agrees (m.update (.discovered path)).1 := by
  rw [update, meet]
  dsimp only
  split
  · exact ⟨rfl, rfl, rfl⟩
  · exact agrees_refreshSoon _

theorem update_status (m : Monitor) (u : StatusUpdate) : (m.setStatus u).Agrees (m.update (.status u)).1 :=
  agrees_refreshSoon _

theorem Tallied.update (hm : m.Tallied) (hx : ∀ r, x ≠ .complete r) :
    (m.update x).1.Tallied ∧ ∀ path, (m.update x).1.statusOf path = x.standing path (m.statusOf path) := by
  have hidle : m.Agrees (m.update x).1 → (∀ path before, x.standing path before = before) →
      (m.update x).1.Tallied ∧ ∀ path, (m.update x).1.statusOf path = x.standing path (m.statusOf path) := by
    intro hagrees hstanding
    exact ⟨hagrees.tallied hm, fun path => by rw [hagrees.statusOf, hstanding]⟩
  cases x with
  | resized | tick | refresh => exact hidle ⟨rfl, rfl, rfl⟩ fun _ _ => rfl
  | key k =>
      refine hidle ?_ fun _ _ => rfl
      rw [Monitor.update]
      split
      · exact ⟨rfl, rfl, rfl⟩
      split
      · exact ⟨rfl, rfl, rfl⟩
      · exact agrees_move m k
  | discovered path =>
      have hagrees := update_discovered m path
      refine ⟨hagrees.tallied (hm.meet path), fun q => ?_⟩
      rw [hagrees.statusOf, hm.statusOf_meet, MonitorMessage.standing]
      simp only [eq_comm]
  | status u =>
      have hagrees := update_status m u
      refine ⟨hagrees.tallied (hm.setStatus u), fun q => ?_⟩
      rw [hagrees.statusOf, hm.statusOf_setStatus, MonitorMessage.standing]
      simp only [eq_comm]
  | complete r => exact absurd rfl (hx r)

def after (m : Monitor) (xs : List MonitorMessage) : Monitor := xs.foldl (fun m x => (m.update x).1) m

theorem Tallied.after (hm : m.Tallied) (hxs : ∀ x ∈ xs, ∀ r, x ≠ .complete r) :
    (m.after xs).Tallied ∧
      ∀ path, (m.after xs).statusOf path = xs.foldl (fun before x => x.standing path before) (m.statusOf path) := by
  induction xs generalizing m with
  | nil => exact ⟨hm, fun _ => rfl⟩
  | cons x xs ih =>
      obtain ⟨hupdate, hstatus⟩ := hm.update (hxs x List.mem_cons_self)
      obtain ⟨hafter, hstanding⟩ := ih hupdate fun y hy => hxs y (List.mem_cons_of_mem x hy)
      refine ⟨hafter, fun path => ?_⟩
      rw [Monitor.after, List.foldl_cons, List.foldl_cons, ← hstatus]
      exact hstanding path

/-- Until the report arrives, the counts of a view are those of its items, one for each file that it was
told of, in the last state it was told. -/
theorem counts_items (version : String) (hxs : ∀ x ∈ xs, ∀ r, x ≠ .complete r) :
    let m := (ofVersion version).after xs
    (m.items.map (·.path)).Nodup ∧
      (∀ path position, m.index.lookup path = some position ↔ ∃ i, m.items[position]? = some i ∧ i.path = path) ∧
      (∀ path status, (∃ i ∈ m.items, i.path = path ∧ i.status = status) ↔
        xs.foldl (fun before x => x.standing path before) none = some status) ∧
      m.counts.discovered = m.items.length ∧
      m.counts.processed = m.items.countP (fun i => i.status = FileStatus.success.name || i.status = FileStatus.cached.name) ∧
      m.counts.cached = m.items.countP (·.status = FileStatus.cached.name) ∧
      m.counts.skipped = m.items.countP (·.status = FileStatus.skipped.name) ∧
      m.counts.failed = m.items.countP (·.status = FileStatus.failed.name) := by
  intro m
  obtain ⟨hm, hstatus⟩ := (tallied_ofVersion version).after hxs
  have hcounted := hm.counted
  simp only [counters, List.forall_mem_cons] at hcounted
  refine ⟨hm.unique, fun path position => ?_, fun path status => ?_, hm.discovered, hcounted.1, hcounted.2.1,
    hcounted.2.2.1, hcounted.2.2.2.1⟩
  · have hindexed := hm.indexed path position
    rwa [List.getElem?_map, Option.map_eq_some_iff] at hindexed
  · have hnone : (ofVersion version).statusOf path = none := rfl
    rw [← hnone, ← hstatus path, ← hm.mem_items_iff]
    simp [m]

def secondThoughts : List MonitorMessage :=
  [.discovered "a.py", .status ⟨"a.py", "success", "", 3⟩, .key "q", .status ⟨"b.go", "skipped", "hidden", 0⟩,
    .discovered "b.go", .tick, .status ⟨"a.py", "failed", "", 4⟩, .refresh]

theorem counts_items_secondThoughts :
    (∀ x ∈ secondThoughts, ∀ r, x ≠ .complete r) ∧
      let m := (ofVersion "1.0").after secondThoughts
      m.items.map (fun i => (i.path, i.status)) = [("a.py", "failed"), ("b.go", "skipped")] ∧
      m.counts.discovered = 2 ∧ m.counts.processed = 0 ∧ m.counts.skipped = 1 ∧ m.counts.failed = 1 := by
  have hxs : ∀ x ∈ secondThoughts, ∀ r, x ≠ .complete r := by simp [secondThoughts]
  obtain ⟨-, -, -, hdiscovered, hprocessed, -, hskipped, hfailed⟩ := counts_items "1.0" hxs
  have hitems : ((ofVersion "1.0").after secondThoughts).items =
      [⟨"a.py", "failed", "", 4⟩, ⟨"b.go", "skipped", "hidden", 0⟩] := by decide
  rw [hitems] at hdiscovered hprocessed hskipped hfailed
  refine ⟨hxs, by rw [hitems]; rfl, hdiscovered, ?_, ?_, ?_⟩
  · exact hprocessed.trans (by decide)
  · exact hskipped.trans (by decide)
  · exact hfailed.trans (by decide)

end Monitor

end SourceSurvey
