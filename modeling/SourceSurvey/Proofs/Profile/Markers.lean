import SourceSurvey.Profile.Registry
import SourceSurvey.Proofs.Text.Glyphs

namespace SourceSurvey.Profile

open Bytes

/-- A marker that, with a space after it, begins a comment line and no block comment. -/
def IsLineMarker (p : Profile) (m : Bytes) : Prop :=
  m ∈ p.lineComments ∧ m.head?.any isVisible ∧ newline ∉ m ∧
    ∀ b ∈ p.blockComments, (m ++ [space]).startsWith b.opener = false ∧ b.opener.startsWith (m ++ [space]) = false

/-- What annotation needs of a profile: if it finds constructs, it has a line marker of its own to
write comments with, and its strings open within a line. -/
def Annotatable (p : Profile) : Prop :=
  (p.hasConstructs → ∃ m, p.commentMarker? = some ⟨m, []⟩ ∧ p.IsLineMarker m) ∧
    ∀ f ∈ p.fences, newline ∉ f

def doublesQuote (q : UInt8) : Bytes → Bool
  | a :: b :: m => (a != q || b == q) && doublesQuote q (b :: m)
  | _ => true

def markers (p : Profile) : List Bytes := p.lineComments ++ p.blockComments.map (·.opener) ++ p.fences

variable {p : Profile}

theorem lineComment_mem_markers {m : Bytes} (h : m ∈ p.lineComments) : m ∈ p.markers := by
  simp [markers, h]

theorem opener_mem_markers {b : BlockComment} (h : b ∈ p.blockComments) : b.opener ∈ p.markers := by
  simp [markers, List.mem_map_of_mem h]

theorem fence_mem_markers {f : Bytes} (h : f ∈ p.fences) : f ∈ p.markers := List.mem_append_right _ h

/-- A quote that no marker of the profile can be mistaken for: a marker that holds it is longer
and doubles it. -/
def IsQuote (p : Profile) (q : UInt8) : Prop :=
  isVisible q ∧ q ≠ 92 ∧ ∀ m ∈ p.markers, m ≠ [] ∧ m ≠ [q] ∧ doublesQuote q m

instance (p : Profile) (m : Bytes) : Decidable (p.IsLineMarker m) := inferInstanceAs (Decidable (_ ∧ _))

instance (p : Profile) (q : UInt8) : Decidable (p.IsQuote q) := inferInstanceAs (Decidable (_ ∧ _))

theorem annotatable_empty (id : String) : (empty id).Annotatable :=
  ⟨fun h => absurd h (by simp [empty, hasConstructs]), by simp [empty]⟩

theorem isLineMarker_of_mem : ∀ p ∈ Registry.profiles,
    ∀ m ∈ p.commentMarker?, m.closer = [] ∧ p.IsLineMarker m.opener := by
  decide +kernel

theorem commentMarker?_isSome_of_mem : ∀ p ∈ Registry.profiles, p.commentMarker?.isSome := by
  decide +kernel

theorem newline_notMem_fence_of_mem : ∀ p ∈ Registry.profiles, ∀ f ∈ p.fences, newline ∉ f := by
  decide +kernel

theorem isQuote_of_mem : ∀ p ∈ Registry.profiles, ∀ q ∈ p.quotes, p.IsQuote q := by
  decide +kernel

theorem annotatable_of_mem (hp : p ∈ Registry.profiles) : p.Annotatable := by
  refine ⟨fun _ => ?_, newline_notMem_fence_of_mem p hp⟩
  obtain ⟨m, hm⟩ := Option.isSome_iff_exists.mp (commentMarker?_isSome_of_mem p hp)
  obtain ⟨hcloser, hopener⟩ := isLineMarker_of_mem p hp m hm
  exact ⟨m.opener, by rw [hm, ← hcloser], hopener⟩

end SourceSurvey.Profile
