import Mathlib.Data.List.Nodup
import SourceSurvey.Console.Monitor
import SourceSurvey.Proofs.Keyed

namespace SourceSurvey

/-- A count that the progress view and a report keep of the same files. -/
structure Counter where
  ofCounts : MonitorCounts → Int
  ofSummary : ReportSummary → Int
  takes : String → Bool

namespace Monitor

def counters : List Counter :=
  [⟨(·.processed), (·.processed), fun s => s = FileStatus.success.name || s = FileStatus.cached.name⟩,
    ⟨(·.cached), (·.cached), (· = FileStatus.cached.name)⟩,
    ⟨(·.skipped), (·.skipped), (· = FileStatus.skipped.name)⟩,
    ⟨(·.failed), (·.failed), (· = FileStatus.failed.name)⟩]

theorem ofCounts_count {c : Counter} (hc : c ∈ counters) (counts : MonitorCounts) (status : String) (delta : Int) :
    c.ofCounts (count counts status delta) = c.ofCounts counts + if c.takes status then delta else 0 := by
  simp only [counters, List.mem_cons, List.not_mem_nil, or_false] at hc
  rw [count]
  obtain rfl | rfl | rfl | rfl := hc
  all_goals
    repeat' split
    all_goals simp_all [FileStatus.name]

theorem isFinal_of_takes {c : Counter} (hc : c ∈ counters) {status : String} (h : c.takes status) : isFinal status := by
  simp only [counters, List.mem_cons, List.not_mem_nil, or_false] at hc
  obtain rfl | rfl | rfl | rfl := hc
  · obtain rfl | rfl : status = FileStatus.success.name ∨ status = FileStatus.cached.name := by simpa using h
    · decide
    · decide
  all_goals
    obtain rfl := of_decide_eq_true h
    decide

theorem countP_replace {items : List MonitorItem} (hpaths : (items.map (·.path)).Nodup) {i : MonitorItem} (hi : i ∈ items)
    (p : MonitorItem → Bool) (f : MonitorItem → MonitorItem) :
    ((items.map fun j => if j.path = i.path then f j else j).countP p : Int) =
      items.countP p - (if p i then 1 else 0) + (if p (f i) then 1 else 0) := by
  obtain ⟨before, after, rfl⟩ := List.append_of_mem hi
  rw [List.map_append, List.map_cons, List.nodup_middle, List.nodup_cons, ← List.map_append] at hpaths
  have hothers : ∀ js ⊆ before ++ after, js.map (fun j => if j.path = i.path then f j else j) = js := by
    intro js hjs
    refine (List.map_congr_left fun j hj => if_neg fun hpath => hpaths.1 ?_).trans js.map_id
    exact hpath ▸ List.mem_map_of_mem (hjs hj)
  rw [List.map_append, List.map_cons, hothers before (by simp), hothers after (by simp), if_pos rfl, List.countP_append,
    List.countP_append, List.countP_cons, List.countP_cons]
  split <;> split <;> simp <;> omega

theorem set_eq_map {items : List MonitorItem} (hpaths : (items.map (·.path)).Nodup) {position : Nat} {i : MonitorItem}
    (hi : items[position]? = some i) (f : MonitorItem → MonitorItem) :
    items.set position (f i) = items.map fun j => if j.path = i.path then f j else j := by
  refine List.ext_getElem? fun n => ?_
  rw [List.getElem?_map]
  by_cases hn : n = position
  · subst hn
    have hlt : n < items.length := (List.getElem?_eq_some_iff.mp hi).1
    simp [List.getElem?_set_self hlt, hi]
  · rw [List.getElem?_set_ne (Ne.symm hn)]
    cases hj : items[n]? with
    | none => rfl
    | some j =>
        have hother : j.path ≠ i.path := by
          intro hpath
          have hlt : n < (items.map (·.path)).length := by
            rw [List.length_map]
            exact (List.getElem?_eq_some_iff.mp hj).1
          exact hn ((List.getElem?_inj hlt hpaths).mp (by simp [hi, hj, hpath]))
        rw [Option.map_some, if_neg hother]

def statusOf (m : Monitor) (path : String) : Option String := (m.items.find? (·.path = path)).map (·.status)

/-- One item a file, which the index finds, and the counts are those of the items. -/
structure Tallied (m : Monitor) : Prop where
  unique : (m.items.map (·.path)).Nodup
  indexed : ∀ path i, m.position? path = some i ↔ (m.items.map (·.path))[i]? = some path
  discovered : m.counts.discovered = m.items.length
  counted : ∀ c ∈ counters, c.ofCounts m.counts = m.items.countP fun i => c.takes i.status

theorem tallied_ofVersion (v : String) : (ofVersion v).Tallied where
  unique := by simp [ofVersion]
  indexed := by simp [ofVersion, position?]
  discovered := rfl
  counted := by simp [ofVersion, counters]

variable {m : Monitor}

theorem Tallied.isSome_position?_iff (hm : m.Tallied) {path : String} :
    (m.position? path).isSome ↔ path ∈ m.items.map (·.path) := by
  rw [Option.isSome_iff_exists, List.mem_iff_getElem?]
  simp only [hm.indexed]

def meet (m : Monitor) (path : String) : Monitor := if (m.position? path).isSome then m else m.add path

theorem Tallied.meet (hm : m.Tallied) (path : String) : (m.meet path).Tallied := by
  rw [Monitor.meet]
  split
  · exact hm
  · rename_i hnew
    rw [hm.isSome_position?_iff] at hnew
    refine ⟨?_, fun q i => ?_, ?_, fun c hc => ?_⟩
    · rw [add, List.map_append, List.nodup_append]
      refine ⟨hm.unique, by simp, fun p hp q hq heq => hnew ?_⟩
      obtain rfl : q = path := by simpa using hq
      exact heq ▸ hp
    · have hlength : (m.items.map (·.path)).length = m.items.length := List.length_map _
      rw [position?, add, Keyed.lookup_cons, List.map_append, List.map_singleton, List.getElem?_append]
      by_cases hq : q = path
      · subst hq
        have habsent : (m.items.map (·.path))[i]? ≠ some q := fun h => hnew (List.mem_of_getElem? h)
        simp only [if_true, Option.some.injEq, hlength, List.getElem?_singleton]
        split <;> grind
      · have hindexed := hm.indexed q i
        rw [position?] at hindexed
        rw [if_neg hq, hindexed]
        split <;> grind
    · simp [add, hm.discovered]
    · have hpending : c.takes FileStatus.pending.name = false :=
        Bool.eq_false_iff.mpr fun h => absurd (isFinal_of_takes hc h) (by decide)
      have hcounts : c.ofCounts (m.add path).counts = c.ofCounts m.counts := by
        simp only [counters, List.mem_cons, List.not_mem_nil, or_false] at hc
        obtain rfl | rfl | rfl | rfl := hc <;> rfl
      rw [hcounts, hm.counted c hc, add, List.countP_append]
      simp [hpending]

theorem statusOf_eq_none {path : String} : m.statusOf path = none ↔ path ∉ m.items.map (·.path) := by
  simp [statusOf, List.find?_eq_none]

theorem Tallied.statusOf_meet (hm : m.Tallied) (path q : String) :
    (m.meet path).statusOf q = if q = path then some ((m.statusOf q).getD FileStatus.pending.name) else m.statusOf q := by
  rw [Monitor.meet]
  split
  · rename_i hknown
    by_cases hq : q = path
    · have hsome : m.statusOf q ≠ none := by
        rw [ne_eq, statusOf_eq_none, not_not, hq]
        exact hm.isSome_position?_iff.mp hknown
      obtain ⟨status, hstatus⟩ := Option.ne_none_iff_exists'.mp hsome
      rw [if_pos hq, hstatus, Option.getD_some]
    · rw [if_neg hq]
  · rename_i hnew
    by_cases hq : q = path
    · have hnone : m.statusOf q = none := by rwa [statusOf_eq_none, hq, ← hm.isSome_position?_iff]
      have hfind : m.items.find? (·.path = q) = none := Option.map_eq_none_iff.mp hnone
      rw [if_pos hq, hnone, statusOf, add, List.find?_append, hfind]
      simp [hq]
    · rw [if_neg hq, statusOf, statusOf, add, List.find?_append]
      simp [Ne.symm hq]

theorem Tallied.exists_position (hm : m.Tallied) (u : StatusUpdate) : ∃ position i,
    (m.meet u.path).items[position]? = some i ∧ i.path = u.path ∧
    m.setStatus u =
      let counts := if isFinal i.status then count (m.meet u.path).counts i.status (-1) else (m.meet u.path).counts
      { m.meet u.path with
        items := (m.meet u.path).items.set position (MonitorItem.update i u)
        counts := if isFinal u.status then count counts u.status 1 else counts } := by
  rw [setStatus, Monitor.meet]
  cases hposition : m.position? u.path with
  | none =>
      have hi : (m.add u.path).items[m.items.length]? = some { path := u.path } := by simp [add]
      exact ⟨m.items.length, { path := u.path }, hi, rfl, by simp [hi]⟩
  | some position =>
      have hpath := (hm.indexed u.path position).mp hposition
      rw [List.getElem?_map, Option.map_eq_some_iff] at hpath
      obtain ⟨i, hi, hpath⟩ := hpath
      exact ⟨position, i, hi, hpath, by simp [hi]⟩

theorem Tallied.setStatus_eq (hm : m.Tallied) (u : StatusUpdate) : ∃ i ∈ (m.meet u.path).items, i.path = u.path ∧
    (m.setStatus u).items = (m.meet u.path).items.map (fun j => if j.path = i.path then MonitorItem.update j u else j) ∧
    (m.setStatus u).index = (m.meet u.path).index ∧
    (m.setStatus u).counts =
      let counts := if isFinal i.status then count (m.meet u.path).counts i.status (-1) else (m.meet u.path).counts
      if isFinal u.status then count counts u.status 1 else counts := by
  obtain ⟨position, i, hi, hpath, hset⟩ := hm.exists_position u
  refine ⟨i, List.mem_of_getElem? hi, hpath, ?_, by rw [hset], by rw [hset]⟩
  rw [hset]
  exact set_eq_map (hm.meet u.path).unique hi (MonitorItem.update · u)

theorem discovered_count (counts : MonitorCounts) (status : String) (delta : Int) :
    (count counts status delta).discovered = counts.discovered := by
  rw [count]
  repeat' split
  all_goals rfl

theorem Tallied.setStatus (hm : m.Tallied) (u : StatusUpdate) : (m.setStatus u).Tallied := by
  obtain ⟨i, hi, -, hitems, hindex, hcounts⟩ := hm.setStatus_eq u
  have hmet := hm.meet u.path
  have hpaths : (m.setStatus u).items.map (·.path) = (m.meet u.path).items.map (·.path) := by
    rw [hitems, List.map_map]
    refine List.map_congr_left fun j _ => ?_
    rw [Function.comp_apply]
    split <;> rfl
  constructor
  · rw [hpaths]
    exact hmet.unique
  · intro path position
    rw [hpaths, position?, hindex]
    exact hmet.indexed path position
  · have hlength : (m.setStatus u).items.length = (m.meet u.path).items.length := by rw [hitems, List.length_map]
    rw [hlength, ← hmet.discovered, hcounts]
    dsimp only
    split <;> split <;> simp only [discovered_count]
  · intro c hc
    have hdrop : ∀ counts status (delta : Int), c.ofCounts (if isFinal status then count counts status delta else counts) =
        c.ofCounts counts + if c.takes status then delta else 0 := by
      intro counts status delta
      split
      · exact ofCounts_count hc counts status delta
      · rename_i hfinal
        rw [if_neg fun h => hfinal (isFinal_of_takes hc h), Int.add_zero]
    rw [hcounts, hdrop, hdrop, hmet.counted c hc, hitems,
      countP_replace hmet.unique hi (fun j => c.takes j.status) (MonitorItem.update · u)]
    have hminus : (if c.takes i.status then -1 else 0 : Int) = -(if c.takes i.status then 1 else 0) := by
      split <;> rfl
    rw [hminus, ← Int.sub_eq_add_neg]
    rfl

theorem Tallied.statusOf_setStatus (hm : m.Tallied) (u : StatusUpdate) (q : String) :
    (m.setStatus u).statusOf q = if q = u.path then some u.status else m.statusOf q := by
  obtain ⟨i, hi, hpath, hitems, -⟩ := hm.setStatus_eq u
  have hsame : ∀ j : MonitorItem, (if j.path = u.path then MonitorItem.update j u else j).path = j.path := by
    intro j
    split <;> rfl
  rw [statusOf, hitems, hpath, List.find?_map]
  simp only [Function.comp_def, hsame]
  by_cases hq : q = u.path
  · have hfound : ((m.meet u.path).items.find? (·.path = u.path)).isSome := by
      simpa [List.find?_isSome] using ⟨i, hi, hpath⟩
    obtain ⟨j, hj⟩ := Option.isSome_iff_exists.mp hfound
    have hjpath : j.path = u.path := by simpa using List.find?_some hj
    simp [hq, hj, hjpath, MonitorItem.update]
  · have hother := hm.statusOf_meet u.path q
    rw [if_neg hq, statusOf] at hother
    rw [if_neg hq, ← hother, Option.map_map]
    refine Option.map_congr fun j hj => ?_
    have hjpath : j.path = q := by simpa using List.find?_some hj
    rw [Function.comp_apply, if_neg (hjpath ▸ hq)]

theorem Tallied.mem_items_iff (hm : m.Tallied) (path status : String) :
    (path, status) ∈ m.items.map (fun i => (i.path, i.status)) ↔ m.statusOf path = some status := by
  rw [statusOf, Option.map_eq_some_iff]
  constructor
  · intro h
    obtain ⟨i, hi, heq⟩ := List.mem_map.mp h
    obtain ⟨rfl, rfl⟩ := Prod.mk.inj heq
    have hfound : (m.items.find? (·.path = i.path)).isSome := List.find?_isSome.mpr ⟨i, hi, decide_eq_true rfl⟩
    obtain ⟨j, hj⟩ := Option.isSome_iff_exists.mp hfound
    have hpath : j.path = i.path := by simpa using List.find?_some hj
    have hsame := List.inj_on_of_nodup_map hm.unique (List.mem_of_find?_eq_some hj) hi hpath
    exact ⟨j, hj, by rw [hsame]⟩
  · rintro ⟨i, hi, rfl⟩
    have hpath : i.path = path := by simpa using List.find?_some hi
    exact List.mem_map.mpr ⟨i, List.mem_of_find?_eq_some hi, by rw [hpath]⟩

/-- A view that has just the files of a list, each in its state, counts the files of the list. -/
theorem Tallied.ofCounts_eq (hm : m.Tallied) {α : Type} {files : List α} {path status : α → String}
    (hfiles : (files.map path).Nodup)
    (hstatus : ∀ p s, m.statusOf p = some s ↔ ∃ f ∈ files, path f = p ∧ status f = s) {c : Counter} (hc : c ∈ counters) :
    c.ofCounts m.counts = files.countP fun f => c.takes (status f) := by
  have hperm : (m.items.map fun i => (i.path, i.status)).Perm (files.map fun f => (path f, status f)) := by
    rw [List.perm_ext_iff_of_nodup]
    · rintro ⟨p, s⟩
      rw [hm.mem_items_iff, hstatus, List.mem_map]
      simp only [Prod.mk.injEq]
    · exact .of_map Prod.fst (by simpa [Function.comp_def] using hm.unique)
    · exact .of_map Prod.fst (by simpa [Function.comp_def] using hfiles)
  have hcount := hperm.countP_eq fun x => c.takes x.2
  rw [List.countP_map, List.countP_map] at hcount
  rw [hm.counted c hc]
  exact congrArg Nat.cast hcount

end Monitor

end SourceSurvey
