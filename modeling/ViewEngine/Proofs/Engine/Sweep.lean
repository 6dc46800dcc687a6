import Mathlib
import ViewEngine.Engine.Access

/-! Releasing mount points: the sweep behind a release takes out exactly the mount points reached
from its work list through kids lists, given enough fuel, and the fuel it is given is enough. -/

namespace ViewEngine

/-- A mount point id is reached from a work list when it is on the list, or is a kid of a mount
point among `points` whose id is reached. -/
inductive Reached (points : List MountPoint) (ids : List Nat) : Nat → Prop where
  | root {i : Nat} : i ∈ ids → Reached points ids i
  | kid {i : Nat} {p : MountPoint} : p ∈ points → Reached points ids p.id → i ∈ p.kids →
      Reached points ids i

namespace Reached

variable {points : List MountPoint} {ids : List Nat}

/-- Reaching through fewer mount points from fewer roots reaches less. -/
theorem mono {points' : List MountPoint} {ids' : List Nat} (sub : ∀ p ∈ points, p ∈ points')
    (roots : ∀ i ∈ ids, Reached points' ids' i) {i : Nat} (h : Reached points ids i) :
    Reached points' ids' i := by
  induction h with
  | root mem => exact roots _ mem
  | kid mem _ kid ih => exact .kid (sub _ mem) ih kid

/-- A root with no mount point adds nothing to what the rest of the work list reaches. -/
theorem of_cons_absent {id : Nat} {rest : List Nat} (absent : ∀ q ∈ points, q.id ≠ id)
    {i : Nat} (h : Reached points (id :: rest) i) (present : ∃ q ∈ points, q.id = i) :
    Reached points rest i := by
  induction h with
  | root mem =>
    rcases List.mem_cons.1 mem with rfl | mem
    · obtain ⟨q, hq, rfl⟩ := present
      exact absurd rfl (absent q hq)
    · exact .root mem
  | kid mem _ kid ih => exact .kid mem (ih ⟨_, mem, rfl⟩) kid

/-- Taking out the mount point of the first root and putting its kids in front of the work list
keeps what is reached, apart from that root. -/
theorem of_cons_taken {p : MountPoint} {rest : List Nat} (hp : p ∈ points)
    (nodup : (points.map (·.id)).Nodup) {i : Nat} (h : Reached points (p.id :: rest) i)
    (present : ∃ q ∈ points, q.id = i ∧ q.id ≠ p.id) :
    Reached (points.filter (fun q => q.id != p.id)) (p.kids.reverse ++ rest) i := by
  induction h with
  | root mem =>
    rcases List.mem_cons.1 mem with rfl | mem
    · obtain ⟨q, _, same, ne⟩ := present
      exact absurd same ne
    · exact .root (List.mem_append_right _ mem)
  | @kid i q mem _ kid ih =>
    by_cases top : q.id = p.id
    · -- Ids are distinct, so the mount point of the first root is `p` itself.
      have : q = p := List.inj_on_of_nodup_map nodup mem hp top
      subst this
      exact .root (List.mem_append_left _ (List.mem_reverse.2 kid))
    · exact .kid (List.mem_filter.2 ⟨mem, by simpa using top⟩) (ih ⟨q, mem, rfl, top⟩) kid

end Reached

namespace Run

/-- The kids the mount points of a list have between them. -/
def kidCount (points : List MountPoint) : Nat := points.foldl (fun n p => n + p.kids.length) 0

theorem kidCount_eq (points : List MountPoint) : kidCount points = (points.map (·.kids.length)).sum := by
  unfold kidCount
  rw [← List.foldl_map, List.sum_eq_foldl]

/-- With distinct ids, taking out the mount points of one id takes out that one mount point. -/
theorem filter_id_ne {points : List MountPoint} {p : MountPoint} (hp : p ∈ points)
    (nodup : (points.map (·.id)).Nodup) :
    ∃ before after, points = before ++ p :: after ∧
      points.filter (fun q => q.id != p.id) = before ++ after := by
  obtain ⟨before, after, rfl⟩ := List.append_of_mem hp
  refine ⟨before, after, rfl, ?_⟩
  have other : ∀ q ∈ before ++ after, q.id ≠ p.id := by
    intro q hq same
    simp only [List.map_append, List.map_cons, List.nodup_append, List.nodup_cons] at nodup
    rcases List.mem_append.1 hq with hq | hq
    · exact nodup.2.2 q.id (List.mem_map_of_mem hq) p.id (List.mem_cons_self) same
    · exact nodup.2.1.1 (same ▸ List.mem_map_of_mem hq)
  rw [List.filter_append, List.filter_cons_of_neg (by simp),
    List.filter_eq_self.2 (fun q hq => by simpa using other q (List.mem_append_left _ hq)),
    List.filter_eq_self.2 (fun q hq => by simpa using other q (List.mem_append_right _ hq))]

theorem kidCount_filter_id {points : List MountPoint} {p : MountPoint} (hp : p ∈ points)
    (nodup : (points.map (·.id)).Nodup) :
    kidCount (points.filter (fun q => q.id != p.id)) + p.kids.length = kidCount points := by
  obtain ⟨before, after, rfl, eq⟩ := filter_id_ne hp nodup
  rw [eq]
  simp only [kidCount_eq, List.map_append, List.map_cons, List.sum_append, List.sum_cons]
  omega

theorem length_filter_id {points : List MountPoint} {p : MountPoint} (hp : p ∈ points)
    (nodup : (points.map (·.id)).Nodup) :
    (points.filter (fun q => q.id != p.id)).length + 1 = points.length := by
  obtain ⟨before, after, rfl, eq⟩ := filter_id_ne hp nodup
  rw [eq]
  simp only [List.length_append, List.length_cons]
  omega

/-- The sweep, given more fuel than its work list and the kids of its mount points, takes out
exactly the mount points reached from the work list, counting them. -/
theorem sweep_spec (fuel : Nat) (work : List Nat) (points : List MountPoint) (n : Nat)
    (nodup : (points.map (·.id)).Nodup) (enough : work.length + kidCount points < fuel) :
    (∀ q, q ∈ (dropPoints.sweep fuel work points n).1 ↔ q ∈ points ∧ ¬ Reached points work q.id) ∧
    (dropPoints.sweep fuel work points n).1.Sublist points ∧
    (dropPoints.sweep fuel work points n).2 + (dropPoints.sweep fuel work points n).1.length =
      n + points.length := by
  induction fuel generalizing work points n with
  | zero => omega
  | succ fuel ih =>
    cases work with
    | nil =>
      -- Nothing is left to take out, and nothing is reached from an empty list.
      refine ⟨fun q => ?_, List.Sublist.refl _, rfl⟩
      simp only [dropPoints.sweep]
      constructor
      · intro hq
        refine ⟨hq, fun h => ?_⟩
        have none : ∀ i, ¬ Reached points [] i := by
          intro i h
          induction h with
          | root mem => exact List.not_mem_nil mem
          | kid _ _ _ ih => exact ih
        exact none _ h
      · exact fun h => h.1
    | cons id rest =>
      simp only [dropPoints.sweep]
      split
      · -- The first root has no mount point: the rest of the work list reaches the same.
        rename_i absent
        have absent : ∀ q ∈ points, q.id ≠ id := by
          intro q hq same
          exact (List.find?_eq_none.1 absent) q hq (by simp [same])
        obtain ⟨mem, sub, count⟩ := ih rest points n nodup (by simp at enough; omega)
        refine ⟨fun q => ?_, sub, count⟩
        rw [mem]
        constructor
        · rintro ⟨hq, unreached⟩
          exact ⟨hq, fun h => unreached (h.of_cons_absent absent ⟨q, hq, rfl⟩)⟩
        · rintro ⟨hq, unreached⟩
          exact ⟨hq, fun h => unreached (h.mono (fun _ h => h)
            (fun i hi => .root (List.mem_cons_of_mem _ hi)))⟩
      · rename_i p found
        have hp : p ∈ points := List.mem_of_find?_eq_some found
        have same : p.id = id := by simpa using List.find?_some found
        subst same
        have sub₀ : (points.filter (fun q => q.id != p.id)).Sublist points := List.filter_sublist
        have kids := kidCount_filter_id hp nodup
        obtain ⟨mem, sub, count⟩ := ih (p.kids.reverse ++ rest) (points.filter (fun q => q.id != p.id))
          (n + 1) ((List.Sublist.map _ sub₀).nodup nodup)
          (by simp only [List.length_append, List.length_reverse, List.length_cons] at enough ⊢; omega)
        have dropped := length_filter_id hp nodup
        refine ⟨fun q => ?_, sub.trans sub₀, by omega⟩
        rw [mem, List.mem_filter]
        constructor
        · rintro ⟨⟨hq, ne⟩, unreached⟩
          refine ⟨hq, fun h => unreached ?_⟩
          exact h.of_cons_taken hp nodup ⟨q, hq, rfl, by simpa using ne⟩
        · rintro ⟨hq, unreached⟩
          have ne : q.id ≠ p.id := fun h => unreached (.root (by simp [h]))
          refine ⟨⟨hq, by simpa using ne⟩, fun h => unreached ?_⟩
          -- Whatever the kids reach was reached through `p`.
          refine h.mono (fun _ h => (List.mem_filter.1 h).1) (fun i hi => ?_)
          rcases List.mem_append.1 hi with kid | later
          · exact .kid hp (.root (List.mem_cons_self)) (List.mem_reverse.1 kid)
          · exact .root (List.mem_cons_of_mem _ later)

end Run

end ViewEngine

namespace ViewEngine

/-- The mount points of a renderer. -/
def World.points (w : World) (r : Nat) : List MountPoint := (w.renderers.getD r Renderer.default).points

namespace Run

/-- Dropping mount points of a renderer with distinct ids keeps exactly those not reached from the
dropped ids, in their order, and returns how many it took out. -/
theorem dropPoints_spec (r : Nat) (ids : List Nat) (w : World)
    (nodup : ((w.points r).map (·.id)).Nodup) :
    ∃ kept n, (dropPoints r ids).run w =
        .ok n { w with renderers := w.renderers.modify r (fun rd => { rd with points := kept }) } ∧
      (∀ q, q ∈ kept ↔ q ∈ w.points r ∧ ¬ Reached (w.points r) ids q.id) ∧
      kept.Sublist (w.points r) ∧ n + kept.length = (w.points r).length := by
  -- The fuel is one more than the work list and all kids lists together.
  obtain ⟨mem, sub, count⟩ := sweep_spec (ids.length + kidCount (w.points r) + 1) ids
    (w.points r) 0 nodup (by omega)
  rw [Nat.zero_add] at count
  exact ⟨_, _, rfl, mem, sub, count⟩

end Run

end ViewEngine
