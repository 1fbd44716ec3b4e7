import Mathlib.Logic.Basic
import SourceSurvey.Scan.File

namespace SourceSurvey.FileScan

inductive Ended.IsOf (path : String) : Ended → Prop
  | processed {f : ProcessedFile} {cached : Bool} (hpath : f.path = path)
      (hcached : cached ↔ f.cache = CacheStatus.hit.name) : IsOf path (.processed f cached)
  | skipped {reason : SkipReason} {details : String} : IsOf path (.skipped reason details)
  | failed {f : Failure} : IsOf path (.failed f)

variable (s : Setting)

theorem isOf_store (w : World) (path : String) (modified : Instant) (content : Bytes) (a : Analysis) :
    (store s w path modified content a).2.IsOf path := by
  have hcache : (if s.plan.cache then CacheStatus.miss else .disabled).name ≠ CacheStatus.hit.name := by
    split <;> decide
  unfold store
  dsimp only
  split
  · exact .failed
  split
  · split
    · exact .failed
    · exact .processed rfl (by simpa using hcache)
  · exact .processed rfl (by simpa using hcache)

/-- An analysis that fails leaves the world as it was, and no file is processed. -/
theorem conclude_error (w : World) (path : String) (modified : Instant) (content : Bytes) (e : AnalysisError) :
    ∃ ended, conclude s w path modified content (.error e) = (w, ended) ∧ ∀ f cached, ended ≠ .processed f cached := by
  rw [conclude]
  split
  · exact ⟨_, rfl, by simp⟩
  split
  · exact ⟨_, rfl, by simp⟩
  · exact ⟨_, rfl, by simp⟩

theorem isOf_conclude (w : World) (path : String) (modified : Instant) (content : Bytes)
    (result : Except AnalysisError Analysis) : (conclude s w path modified content result).2.IsOf path := by
  rw [conclude.eq_def]
  split
  · split
    · exact .skipped
    split
    · exact .skipped
    · exact .failed
  split
  · exact .failed
  split
  · exact .skipped
  · exact isOf_store s w path modified content _

theorem isOf_process (w : World) (path : String) : (process s w path).2.IsOf path := by
  rw [process]
  split
  · exact .failed
  · split
    · exact .skipped
    split
    · exact .processed rfl (by simp)
    · exact isOf_conclude s w path _ _ _
  · exact .failed

theorem Ended.IsOf.outcome_path {path : String} {e : Ended} (h : e.IsOf path) (fatal : Bool) :
    (e.outcome path fatal).path = path := by
  cases h with
  | processed hpath _ => exact hpath
  | skipped | failed => rfl

end SourceSurvey.FileScan
