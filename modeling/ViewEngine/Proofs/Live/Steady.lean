import Mathlib
import ViewEngine.Proofs.Live.Backends
import ViewEngine.Proofs.Live.Arena
import ViewEngine.Proofs.Host.Drawn
import ViewEngine.Proofs.Props.Style

/-! Mounting steady content. Content is steady when its mount adds the same markup and the same
number of mount points from every world running the program: texts, host nodes and fragments, the
bundled greeting, and quiet scripts whose first output, for whatever instance they set up, is
steady again (`Steady`). Mounting it into an element, as kids of a live owner, fills the element
with children that draw that markup, keeps every other element's face and every element's
properties, and spawns that many mount points, each reached from the owner through kids lists
(`Run.steadyMounting`). Under a mount point that had no kids, a release sweep then takes out exactly
the mount point and what it spawned (`Spawned.sweep_count`). -/

namespace ViewEngine

open Host Markup

/-! ## Mount points spawned under an owner -/

namespace Reached

variable {points : List MountPoint}

/-- Reaching through mount points whose kids grow, each still there, reaches at least as much. -/
theorem grow {points' : List MountPoint} {ids : List Nat}
    (grows : ∀ p ∈ points, ∃ p' ∈ points', p'.id = p.id ∧ ∀ k ∈ p.kids, k ∈ p'.kids) {i : Nat}
    (h : Reached points ids i) : Reached points' ids i := by
  induction h with
  | root mem => exact .root mem
  | kid mem _ kid ih =>
    obtain ⟨p', mem', same, more⟩ := grows _ mem
    exact .kid mem' (same ▸ ih) (more _ kid)

/-- What a reached mount point reaches is reached. -/
theorem trans {a b c : Nat} (h₁ : Reached points [a] b) (h₂ : Reached points [b] c) : Reached points [a] c := by
  induction h₂ with
  | root mem =>
    rw [List.mem_singleton] at mem
    exact mem ▸ h₁
  | kid mem _ kid ih => exact .kid mem ih kid

end Reached

/-- The mount points of a renderer after a mount under an owner, against those before: each one
before is kept, in order, and gains as kids only new ones, and none unless it is the owner; `k` new
ones follow, numbered above `base`, each with only new kids and reached from the owner. -/
def Spawned (owner base : Nat) (ps ps' : List MountPoint) (k : Nat) : Prop :=
  ∃ g : MountPoint → MountPoint, ∃ new : List MountPoint,
    ps' = ps.map g ++ new ∧ new.length = k ∧
    (∀ p ∈ ps, p.Kept (g p) ∧ ∃ added, (g p).kids = p.kids ++ added ∧ (p.id ≠ owner → added = []) ∧
      ∀ a ∈ added, a ∈ new.map (·.id)) ∧
    ∀ q ∈ new, base < q.id ∧ (∀ a ∈ q.kids, a ∈ new.map (·.id)) ∧ Reached ps' [owner] q.id

namespace Spawned

variable {owner base : Nat} {ps ps₁ ps₂ : List MountPoint} {k k₁ k₂ : Nat}

/-- A change of mount points that keeps each one, with its kids, spawns nothing. -/
theorem map {g : MountPoint → MountPoint} (kept : ∀ p ∈ ps, p.Kept (g p) ∧ (g p).kids = p.kids) :
    Spawned owner base ps (ps.map g) 0 :=
  ⟨g, [], by simp, rfl, fun p hp => ⟨(kept p hp).1, [], by simp [(kept p hp).2], fun _ => rfl, by simp⟩,
    by simp⟩

theorem refl (ps : List MountPoint) : Spawned owner base ps ps 0 := by
  simpa using @map owner base ps id fun p _ => ⟨.refl p, rfl⟩

/-- Spawning under one owner in two runs. -/
theorem trans (owned : owner ≤ base) (h₁ : Spawned owner base ps ps₁ k₁) (h₂ : Spawned owner base ps₁ ps₂ k₂) :
    Spawned owner base ps ps₂ (k₁ + k₂) := by
  obtain ⟨g₁, new₁, rfl, length₁, kept₁, fresh₁⟩ := h₁
  obtain ⟨g₂, new₂, rfl, length₂, kept₂, fresh₂⟩ := h₂
  have old₂ : ∀ p ∈ ps.map g₁ ++ new₁, p.Kept (g₂ p) ∧ ∃ added, (g₂ p).kids = p.kids ++ added ∧
      (p.id ≠ owner → added = []) ∧ ∀ a ∈ added, a ∈ new₂.map (·.id) := kept₂
  -- The second run keeps the first one's new mount points, none of them the owner, with their kids.
  have ids₂ : ∀ q ∈ new₁, (g₂ q).id = q.id ∧ (g₂ q).kids = q.kids := by
    intro q hq
    obtain ⟨kept, added, kids, other, -⟩ := old₂ q (List.mem_append_right _ hq)
    rw [other (by have := (fresh₁ q hq).1; omega), List.append_nil] at kids
    exact ⟨kept.id, kids⟩
  have grows : ∀ p ∈ ps.map g₁ ++ new₁, ∃ p' ∈ (ps.map g₁ ++ new₁).map g₂ ++ new₂, p'.id = p.id ∧
      ∀ k ∈ p.kids, k ∈ p'.kids := by
    intro p hp
    obtain ⟨kept, added, kids, -⟩ := old₂ p hp
    exact ⟨g₂ p, List.mem_append_left _ (List.mem_map_of_mem hp), kept.id, fun k hk => by simp [kids, hk]⟩
  have newIds : (new₁.map g₂).map (·.id) = new₁.map (·.id) := by
    rw [List.map_map]
    exact List.map_congr_left fun q hq => (ids₂ q hq).1
  refine ⟨g₂ ∘ g₁, new₁.map g₂ ++ new₂, by simp, by simp [length₁, length₂], fun p hp => ?_, fun q hq => ?_⟩
  · obtain ⟨kept, added, kids, other, fresh⟩ := kept₁ p hp
    obtain ⟨kept', added', kids', other', fresh'⟩ := old₂ (g₁ p) (List.mem_append_left _ (List.mem_map_of_mem hp))
    refine ⟨kept.trans kept', added ++ added', by simp [kids', kids], fun ne => ?_, fun a ha => ?_⟩
    · rw [other ne, other' (kept.id ▸ ne)]
      rfl
    · rw [List.map_append, newIds, List.mem_append]
      rcases List.mem_append.1 ha with first | second
      · exact .inl (fresh a first)
      · exact .inr (fresh' a second)
  · rw [List.mem_append] at hq
    rcases hq with first | second
    · obtain ⟨q, hq, rfl⟩ := List.mem_map.1 first
      obtain ⟨above, kids, reached⟩ := fresh₁ q hq
      refine ⟨(ids₂ q hq).1 ▸ above, fun a ha => ?_, (ids₂ q hq).1 ▸ reached.grow grows⟩
      rw [List.map_append, newIds]
      exact List.mem_append_left _ (kids a ((ids₂ q hq).2 ▸ ha))
    · obtain ⟨above, kids, reached⟩ := fresh₂ q second
      refine ⟨above, fun a ha => ?_, by simpa using reached⟩
      rw [List.map_append]
      exact List.mem_append_right _ (kids a ha)

theorem mono_base {base' : Nat} (le : base ≤ base') (h : Spawned owner base' ps ps₁ k) : Spawned owner base ps ps₁ k := by
  obtain ⟨g, new, eq, length, kept, fresh⟩ := h
  exact ⟨g, new, eq, length, kept, fun q hq => ⟨by have := (fresh q hq).1; omega, (fresh q hq).2⟩⟩

/-- A new mount point registered last under the owner, and then what its own first render phase
spawns under it: the mount point and all it spawned are new under the owner. -/
theorem nest {P : MountPoint} {h : MountPoint → MountPoint} (old : ∀ p ∈ ps, p.id ≤ base) (above : base < P.id)
    (bare : P.kids = []) (present : ∃ o ∈ ps, o.id = owner)
    (adopt : ∀ p ∈ ps, p.Kept (h p) ∧ (h p).kids = p.kids ++ if p.id = owner then [P.id] else [])
    (inner : Spawned P.id P.id (ps.map h ++ [P]) ps₂ k) : Spawned owner base ps ps₂ (k + 1) := by
  obtain ⟨g, new, rfl, length, kept, fresh⟩ := inner
  -- The old mount points are numbered below the new one, so its own spawning adds them no kids.
  have oldKids : ∀ p ∈ ps, (g (h p)).kids = (h p).kids ∧ (h p).Kept (g (h p)) := by
    intro p hp
    obtain ⟨keep, added, kids, other, -⟩ := kept (h p) (List.mem_append_left _ (List.mem_map_of_mem hp))
    have below : (h p).id ≠ P.id := by
      rw [(adopt p hp).1.id]
      have := old p hp
      omega
    rw [other below, List.append_nil] at kids
    exact ⟨kids, keep⟩
  obtain ⟨keepP, addedP, kidsP, -, freshP⟩ := kept P (List.mem_append_right _ List.mem_cons_self)
  have idP : (g P).id = P.id := keepP.id
  have ps₂ : (ps.map h ++ [P]).map g ++ new = ps.map (g ∘ h) ++ (g P :: new) := by simp
  obtain ⟨o, ho, rfl⟩ := present
  -- The owner lists the new mount point among its kids.
  have reachedP : Reached ((ps.map h ++ [P]).map g ++ new) [o.id] (g P).id := by
    refine .kid (p := g (h o)) (List.mem_append_left _ (List.mem_map_of_mem (List.mem_append_left _
      (List.mem_map_of_mem ho)))) ?_ ?_
    · rw [(oldKids o ho).2.id, (adopt o ho).1.id]
      exact .root List.mem_cons_self
    · rw [(oldKids o ho).1, (adopt o ho).2, if_pos rfl, idP]
      simp
  refine ⟨g ∘ h, g P :: new, ps₂, by simp [length], fun p hp => ?_, fun q hq => ?_⟩
  · obtain ⟨keep, kids⟩ := adopt p hp
    refine ⟨keep.trans (oldKids p hp).2, if p.id = o.id then [P.id] else [], by simp [(oldKids p hp).1, kids],
      fun ne => by simp [ne], fun a ha => ?_⟩
    split at ha
    · rw [List.mem_singleton] at ha
      simp [ha, idP]
    · cases ha
  · rcases List.mem_cons.1 hq with rfl | later
    · refine ⟨idP ▸ above, fun a ha => ?_, reachedP⟩
      rw [kidsP, bare, List.nil_append] at ha
      exact List.mem_cons_of_mem _ (freshP a ha)
    · obtain ⟨past, kids, reached⟩ := fresh q later
      refine ⟨by omega, fun a ha => List.mem_cons_of_mem _ (kids a ha), ?_⟩
      exact reachedP.trans (idP ▸ reached)

/-- Flagging a mount point spawns nothing. -/
theorem flag (owner base id : Nat) (b : Bool) (ps : List MountPoint) :
    Spawned owner base ps (ps.map fun q => if q.id == id then { q with rendering := b } else q) 0 :=
  Spawned.map fun q _ => by
    split
    · exact ⟨.rendering q b, rfl⟩
    · exact ⟨.refl q, rfl⟩

/-- A mount point present under a number stays present, kept, through spawning. -/
theorem present {x : Nat} (h : Spawned owner base ps ps₁ k)
    (hx : ∃ o ∈ ps, o.id = x) : ∃ o ∈ ps₁, o.id = x := by
  obtain ⟨g, new, rfl, -, kept, -⟩ := h
  obtain ⟨o, ho, rfl⟩ := hx
  exact ⟨g o, List.mem_append_left _ (List.mem_map_of_mem ho), (kept o ho).1.id⟩

/-- A new mount point registered under a number reserved after every live one, as the last kid of a
live owner, then mounted into by its first render phase: it and all its phase spawns are new under the
owner. -/
theorem registered {P : MountPoint}
    (old : ∀ p ∈ ps, p.id ≤ base) (above : base < P.id) (bare : P.kids = []) (present : ∃ o ∈ ps, o.id = owner)
    (owned : owner ≤ base)
    (inner : Spawned P.id P.id
      ((ps ++ [P]).map fun p => if p.id == owner then { p with kids := p.kids ++ [P.id] } else p) ps₂ k) :
    Spawned owner base ps ps₂ (k + 1) := by
  have notOwner : (P.id == owner) = false := by simp only [beq_eq_false_iff_ne]; omega
  rw [List.map_append, List.map_singleton, notOwner, if_neg Bool.false_ne_true] at inner
  refine nest old above bare present (fun p _ => ?_) inner
  by_cases hit : p.id = owner
  · rw [if_pos (beq_iff_eq.2 hit), if_pos hit]
    exact ⟨⟨rfl, fun _ h => h, rfl, rfl, rfl, rfl⟩, rfl⟩
  · rw [if_neg (by simpa using hit), if_neg hit, List.append_nil]
    exact ⟨.refl p, rfl⟩

/-- Under a mount point with no kids before, what was spawned is all it reaches, besides itself:
of the mount points before, it reaches its own image alone, and it reaches every new one. -/
theorem reached_iff {K : MountPoint} (h : Spawned K.id base ps ps₁ k) (mem : K ∈ ps) (bare : K.kids = [])
    (old : ∀ p ∈ ps, p.id ≤ base) (nodup : (ps₁.map (·.id)).Nodup) :
    ∃ g new, ps₁ = ps.map g ++ new ∧ new.length = k ∧
      (∀ p ∈ ps, Reached ps₁ [K.id] (g p).id ↔ p = K) ∧ ∀ q ∈ new, Reached ps₁ [K.id] q.id := by
  obtain ⟨g, new, rfl, length, kept, fresh⟩ := h
  have ids : ∀ p ∈ ps, (g p).id = p.id := fun p hp => (kept p hp).1.id
  have oldIds : ((ps.map g).map (·.id)) = ps.map (·.id) := by
    rw [List.map_map]
    exact List.map_congr_left ids
  have distinct : (ps.map (·.id)).Nodup := by
    rw [List.map_append, oldIds] at nodup
    exact nodup.of_append_left
  -- An old mount point's number is no new one's.
  have notNew : ∀ p ∈ ps, p.id ∉ new.map (·.id) := by
    intro p hp newId
    obtain ⟨q, hq, same⟩ := List.mem_map.1 newId
    have := (fresh q hq).1
    have := old p hp
    omega
  -- Whatever the mount point reaches is itself or new: old kids lists gain only new ids, the mount
  -- point's own had none, and new mount points have new kids only.
  have within : ∀ x, Reached (ps.map g ++ new) [K.id] x → x = K.id ∨ x ∈ new.map (·.id) := by
    intro x reached
    induction reached with
    | root here => exact .inl (List.mem_singleton.1 here)
    | @kid x p hp _ kid ih =>
      rcases List.mem_append.1 hp with oldP | newP
      · obtain ⟨p₀, hp₀, rfl⟩ := List.mem_map.1 oldP
        obtain ⟨-, added, kids, -, addedNew⟩ := kept p₀ hp₀
        rcases ih with same | newId
        · -- The only old mount point numbered as the root is the root itself.
          have : p₀ = K := List.inj_on_of_nodup_map distinct hp₀ mem ((ids p₀ hp₀).symm.trans same)
          subst this
          rw [kids, bare, List.nil_append] at kid
          exact .inr (addedNew x kid)
        · exact absurd (ids p₀ hp₀ ▸ newId) (notNew p₀ hp₀)
      · exact .inr ((fresh p newP).2.1 x kid)
  refine ⟨g, new, rfl, length, fun p hp => ⟨fun reached => ?_, fun same => ?_⟩, fun q hq => (fresh q hq).2.2⟩
  · rcases within _ reached with same | newId
    · exact List.inj_on_of_nodup_map distinct hp mem ((ids p hp).symm.trans same)
    · exact absurd (ids p hp ▸ newId) (notNew p hp)
  · subst same
    exact .root (by simp [ids p hp])

/-- Under a mount point with no kids before, a sweep from it takes out itself and every mount point
spawned under it. -/
theorem sweep_count {K : MountPoint} (h : Spawned K.id base ps ps₁ k) (mem : K ∈ ps) (bare : K.kids = [])
    (old : ∀ p ∈ ps, p.id ≤ base) (nodup : (ps₁.map (·.id)).Nodup) :
    (Run.dropPoints.sweep (Run.kidCount ps₁ + 2) [K.id] ps₁ 0).2 = k + 1 := by
  classical
  obtain ⟨g, new, rfl, length, oldReached, newReached⟩ := h.reached_iff mem bare old nodup
  let R : MountPoint → Bool := fun q => decide (Reached (ps.map g ++ new) [K.id] q.id)
  obtain ⟨kept, sub, count⟩ := Run.sweep_spec (Run.kidCount (ps.map g ++ new) + 2) [K.id] (ps.map g ++ new) 0
    nodup (by simp only [List.length_singleton]; omega)
  have distinct : (ps.map g ++ new).Nodup := List.Nodup.of_map _ nodup
  -- The sweep keeps, without repeats, exactly the mount points it does not reach.
  have keptCount : (Run.dropPoints.sweep (Run.kidCount (ps.map g ++ new) + 2) [K.id] (ps.map g ++ new) 0).1.length =
      ((ps.map g ++ new).filter (fun q => !R q)).length := by
    refine List.Perm.length_eq ((List.perm_ext_iff_of_nodup (sub.nodup distinct) (distinct.filter _)).2 fun q => ?_)
    rw [kept, List.mem_filter]
    simp [R, -List.mem_append]
  -- Of the old mount points it reaches the image of the root alone, and it reaches every new one.
  have oldCount : (ps.map g).countP R = 1 := by
    rw [List.countP_map, List.countP_congr (q := (· == K)) (fun p hp => by simp [R, oldReached p hp])]
    exact List.count_eq_one_of_mem (distinct.of_append_left.of_map g) mem
  have newCount : new.countP R = new.length := List.countP_eq_length.2 fun q hq => by simpa [R] using newReached q hq
  have total := List.length_eq_length_filter_add (l := ps.map g ++ new) R
  rw [← List.countP_eq_length_filter, List.countP_append, oldCount, newCount] at total
  rw [keptCount, Nat.zero_add] at count
  omega

end Spawned

/-! ## Steady content -/

mutual
/-- Content whose mount adds the same markup and the same number of mount points from every world
running the program: a value that is no node adds its text; a host node or fragment adds what the
placing of its rebuild adds, and its own mount point; the bundled greeting and a quiet script add
what the placing of their first output adds, whatever instance the script sets up, and their own
mount point. -/
inductive Steady (prog : Program) : Value → List Node → Nat → Prop where
  | text {v : Value} : v.asNode? = none → Steady prog v [.text v.text] 0
  | host {v : Value} {items : List Value} {parts : Parts} {s : String} {ms : List Node} {k : Nat} :
      v.asNode? = some items → split items = some parts → parts.tag = .str s →
      SteadyOutput prog (.node (hostItems s parts.props parts.children)) ms k → Steady prog v ms (k + 1)
  | greeting {v : Value} {items : List Value} {parts : Parts} {form : ComponentForm} {ms : List Node} {k : Nat} :
      v.asNode? = some items → split items = some parts → parts.tag = .component (.demo .godspeedYou) form →
      SteadyOutput prog (.node [.str "b", .str ("Godspeed you, " ++ (parts.props.get "who").show ++ "!")]) ms k →
      Steady prog v ms (k + 1)
  | script {v : Value} {items : List Value} {parts : Parts} {s : Nat} {form : ComponentForm} {ms : List Node}
      {k : Nat} :
      v.asNode? = some items → split items = some parts → parts.tag = .component (.script s) form →
      (prog.scripts.getD s default).Quiet →
      (∀ i, SteadyOutput prog ((prog.scripts.getD s default).firstOutput parts.props parts.children i) ms k) →
      Steady prog v ms (k + 1)

/-- A render output whose placing adds the same markup and the same number of mount points from every
world running the program: a fragment's children, in the container; a component node, mounted; or
one element of the output's tag, with the style its props leave on a fresh element, holding what
its children add. -/
inductive SteadyOutput (prog : Program) : Value → List Node → Nat → Prop where
  | fragment {c : Value} {parts : Parts} {ms : List Node} {k : Nat} :
      c.asNode?.bind split = some parts → parts.tag = .str fragmentTag → SteadyAll prog parts.children ms k →
      SteadyOutput prog c ms k
  | component {c : Value} {parts : Parts} {comp : Component} {form : ComponentForm} {ms : List Node} {k : Nat} :
      c.asNode?.bind split = some parts → parts.tag.component? = some (comp, form) → Steady prog c ms k →
      SteadyOutput prog c ms k
  | element {c : Value} {parts : Parts} {s : String} {ms : List Node} {k : Nat} :
      c.asNode?.bind split = some parts → parts.tag = .str s → s ≠ fragmentTag → SteadyAll prog parts.children ms k →
      SteadyOutput prog c
        [.element s (markupPairs (parts.props.style .fresh).classes (parts.props.style .fresh).attrs) ms] k

/-- Steady values mounted one after another as children. -/
inductive SteadyAll (prog : Program) : List Value → List Node → Nat → Prop where
  | nil : SteadyAll prog [] [] 0
  | cons {v : Value} {vs : List Value} {ms ns : List Node} {k j : Nat} :
      Steady prog v ms k → SteadyAll prog vs ns j → SteadyAll prog (v :: vs) (ms ++ ns) (k + j)
end

/-- A node's parts are rebuilt as they are, unless absent props are followed by a mapping child,
which the rebuild takes for props. -/
theorem split_hostItems_of_rebuilt {s : String} {parts : Parts}
    (rebuilt : parts.props = none → parts.children.head?.bind Value.asProps? = none) :
    split (hostItems s parts.props parts.children) = some ⟨.str s, parts.props, parts.children⟩ := by
  rcases hp : parts.props with _ | p
  · have first := rebuilt hp
    rcases hc : parts.children with _ | ⟨c, cs⟩
    · rfl
    · rw [hc] at first
      simp only [List.head?_cons, Option.bind_some] at first
      simp only [hostItems, List.nil_append, split, first]
  · rfl

/-- A node value splits one way. -/
theorem Value.parts_eq {v : Value} {items items' : List Value} {parts parts' : Parts}
    (hv : v.asNode? = some items) (hs : split items = some parts) (hv' : v.asNode? = some items')
    (hs' : split items' = some parts') : parts' = parts := by
  rw [hv, Option.some.injEq] at hv'
  subst hv'
  rw [hs, Option.some.injEq] at hs'
  exact hs'.symm

/-- A steady component node, with the greeting or a quiet script for its tag, adds one mount point
and what its first output adds: whatever its setup and first render call return from a world running
the program, the output is steady with the same markup and count. -/
theorem Steady.output {prog : Program} {v : Value} {items : List Value} {parts : Parts} {c : Component}
    {form : ComponentForm} {ms : List Node} {k : Nat} (steady : Steady prog v ms k) (hv : v.asNode? = some items)
    (hs : split items = some parts) (ht : parts.tag.component? = some (c, form)) :
    ∃ j, k = j + 1 ∧ c.Quiet prog ∧
      ∀ {n m : Nat} {name : String} {caps : Nat} {w₀ w₁ w₂ w₃ : World} {fn : RenderFn} {expr : Value},
        w₀.program = prog → (Run.instantiate n c name parts.props caps).run w₀ = .ok fn w₁ →
        w₂.instances = w₁.instances → w₂.program = w₁.program →
        (Run.callRender m fn parts.props parts.children).run w₂ = .ok expr w₃ → SteadyOutput prog expr ms j := by
  cases steady with
  | text notNode => simp [hv] at notNode
  | host hv' hs' ht' =>
    obtain rfl := Value.parts_eq hv' hs' hv hs
    rw [ht'] at ht
    cases ht
  | @greeting _ _ _ _ _ j hv' hs' ht' output =>
    obtain rfl := Value.parts_eq hv' hs' hv hs
    rw [ht', Value.component?, Option.some.injEq, Prod.mk.injEq] at ht
    obtain ⟨rfl, rfl⟩ := ht
    refine ⟨j, rfl, trivial, ?_⟩
    intro n m name caps w₀ w₁ w₂ w₃ fn expr _ setup _ _ rendered
    -- The greeting's setup returns its render function, which renders a bold text.
    cases n with
    | zero =>
      rw [Run.instantiate] at setup
      cases setup
    | succ n =>
      rw [Run.instantiate] at setup
      cases setup
      cases m with
      | zero =>
        rw [Run.callRender] at rendered
        cases rendered
      | succ m =>
        cases rendered
        exact output
  | @script _ _ parts s _ _ j hv' hs' ht' quiet outputs =>
    obtain rfl := Value.parts_eq hv' hs' hv hs
    rw [ht', Value.component?, Option.some.injEq, Prod.mk.injEq] at ht
    obtain ⟨rfl, rfl⟩ := ht
    refine ⟨j, rfl, quiet, ?_⟩
    intro n m name caps w₀ w₁ w₂ w₃ fn expr program setup instances programs rendered
    cases n with
    | zero =>
      rw [Run.instantiate] at setup
      cases setup
    | succ n =>
      cases m with
      | zero =>
        rw [Run.callRender] at rendered
        cases rendered
      | succ m =>
        -- The setup makes a fresh instance, which the first render call reads untouched.
        have kept : w₁.program = w₀.program :=
          ((Run.instantiate_confined (n + 1) (c := .script s) quiet _ _ _).program_of_ok program setup).trans
            program.symm
        rw [← program] at quiet
        obtain ⟨rfl, made⟩ := Run.instantiate_quiet_script quiet setup
        have fresh : w₂.instances.getD w₀.instances.size default =
            ⟨s, (w₀.program.scripts.getD s default).name, caps, none, parts.props, 0, #[]⟩ := by
          rw [instances, made]
          simp
        rw [Run.callRender_fresh_script fresh rendered, programs, kept, program]
        exact outputs _

/-! ## Steps of a mount -/

namespace Host.Element

variable {L : Type}

/-- A restyled element with its listeners replaced, restyled again with its listeners replaced again,
is the element restyled the second time with the second listeners. -/
@[simp] theorem withStyle_listeners_withStyle (e : Element L) (st st' : Style) (lis lis' : Dict (List L)) :
    { ({ e.withStyle st with listeners := lis } : Element L).withStyle st' with listeners := lis' } =
      { e.withStyle st' with listeners := lis' } := rfl

@[simp] theorem style_listeners (e : Element L) (lis : Dict (List L)) : ({ e with listeners := lis } : Element L).style = e.style :=
  rfl

end Host.Element

namespace Host.Document

variable {L : Type}

/-- A new element made with a tag, appended to a container and then changed: the new place holds the
changed fresh element, whose parent is the container; the container has it last among its
children; every other place is as it was. -/
theorem get?_attached (d : Document L) (tag : String) {container : Nat} (inside : container < d.elements.size)
    (f : Element L → Element L) (x : Nat) :
    (((d.create tag).1.appendChild container d.elements.size).modify d.elements.size f).get? x =
      if x = d.elements.size then some (f { Element.fresh tag with parent := some container })
      else if x = container then (d.get? x).map (fun e => { e with children := e.children ++ [.element d.elements.size] })
      else d.get? x := by
  have apart : container ≠ d.elements.size := Nat.ne_of_lt inside
  by_cases new : x = d.elements.size
  · subst new
    simp [appendChild, get?_create, apart]
  · by_cases here : x = container
    · subst here
      simp [appendChild, get?_create, apart, apart.symm]
    · simp [appendChild, get?_create, new, here, Ne.symm new, Ne.symm here]

end Host.Document

namespace Run

/-- An applied prop that finished restyled its element by its marks and at most gave it a listener,
and changed nothing else. -/
theorem applyProp_restyles {r id el : Nat} {first : Bool} {p : Attr} {w w' : World}
    (classified : p.isClass = (p.name == "class")) (run : (applyProp r id el first p).run w = .ok () w') :
    ∃ lis : Element Listener → Dict (List Listener),
      w' = { w with doc := w.doc.modify el (fun e => { e.withStyle (p.restyle e.style) with listeners := lis e }) } := by
  unfold applyProp at run
  obtain ⟨_, w₁, marked, run⟩ := bind_ok run
  rw [modifyDoc_run, Attr.mark_eq_modify classified] at marked
  cases marked
  -- An event prop on a first render adds its handler's listener; anything else adds none.
  split at run
  · split at run
    · split at run
      · rename_i _ event _ _ _ h _
        rw [modifyDoc_run] at run
        cases run
        refine ⟨fun e => e.listeners.insert event ((e.listeners.get? event).getD [] ++ [.mounted r id h]), ?_⟩
        simp only [Document.addListener, Document.modify_modify]
        rfl
      · split at run
        · rw [fail_run] at run
          cases run
        · cases run
          exact ⟨fun e => e.listeners, rfl⟩
    · cases run
      exact ⟨fun e => e.listeners, rfl⟩
  · cases run
    exact ⟨fun e => e.listeners, rfl⟩

/-- Props applied in turn restyle their element by their marks in turn and at most give it listeners,
and change nothing else. -/
theorem applyProps_restyles {r id el : Nat} {first : Bool} {ps : List Attr} {w w' : World}
    (classified : ∀ p ∈ ps, p.isClass = (p.name == "class")) (run : (applyProps r id el ps first).run w = .ok () w') :
    ∃ lis : Element Listener → Dict (List Listener),
      w' = { w with doc := w.doc.modify el (fun e =>
        { e.withStyle (ps.foldl (fun st p => p.restyle st) e.style) with listeners := lis e }) } := by
  induction ps generalizing w with
  | nil =>
    cases run
    refine ⟨fun e => e.listeners, ?_⟩
    -- Restyling by no props and keeping the listeners keeps the element.
    have same : ∀ d : Document Listener, d.modify el (fun e =>
        { e.withStyle (([] : List Attr).foldl (fun st p => p.restyle st) e.style) with listeners := e.listeners }) = d := by
      intro d
      refine Document.ext_get? fun x => ?_
      by_cases hx : el = x <;> simp only [Document.get?_modify, hx, if_true, if_false]
      cases d.get? x <;> rfl
    rw [same]
  | cons p rest ih =>
    simp only [applyProps, List.forIn_cons, bind_assoc, pure_bind] at run
    obtain ⟨_, w₁, first, run⟩ := bind_ok run
    obtain ⟨lis₁, rfl⟩ := applyProp_restyles (classified p List.mem_cons_self) first
    obtain ⟨lis₂, rfl⟩ := ih (fun q hq => classified q (List.mem_cons_of_mem p hq)) run
    refine ⟨fun e => lis₂ { e.withStyle (p.restyle e.style) with listeners := lis₁ e }, ?_⟩
    simp only [Document.modify_modify]
    rfl

/-- Counting hands out no number. -/
theorem next_leaves_count (r r' : Nat) (f : Metrics → Metrics) (w : World) :
    ((count r f).leaves w).scene.next r' = w.scene.next r' := by
  show (⟨w.doc, w.renderers.modify r (fun rd => { rd with metrics := rd.metrics.map f })⟩ : Scene).next r' = _
  rw [Scene.next_modify]
  split <;> rfl

/-- Changing mount points hands out no number. -/
theorem next_leaves_modifyPoint (r id r' : Nat) (f : MountPoint → MountPoint) (w : World) :
    ((modifyPoint r id f).leaves w).scene.next r' = w.scene.next r' := by
  show (⟨w.doc, w.renderers.modify r
    (fun rd => { rd with points := rd.points.map (fun p => if p.id == id then f p else p) })⟩ : Scene).next r' = _
  rw [Scene.next_modify]
  split <;> rfl

/-- Reserving a number of a present renderer hands out the next one. -/
theorem next_reserved (w : World) {r : Nat} (present : r < w.renderers.size) :
    ({ w with renderers := w.renderers.modify r (fun rd => { rd with next := rd.next + 1 }) } : World).scene.next r =
      w.scene.next r + 1 := by
  show (⟨w.doc, w.renderers.modify r (fun rd => { rd with next := rd.next + 1 })⟩ : Scene).next r = _
  rw [Scene.next_modify, if_pos ⟨rfl, present⟩]
  rfl

theorem points_reserved (w : World) (r r' : Nat) :
    ({ w with renderers := w.renderers.modify r (fun rd => { rd with next := rd.next + 1 }) } : World).scene.points r' =
      w.scene.points r' := by
  show (⟨w.doc, w.renderers.modify r (fun rd => { rd with next := rd.next + 1 })⟩ : Scene).points r' = _
  rw [Scene.points_modify]
  split <;> rfl

/-- Registering a mount point with an owner adds it last, counted, and lists it last among the
owner's kids; no number is handed out. -/
theorem register_some_leaves (r o : Nat) (P : MountPoint) (w : World) (present : r < w.renderers.size) :
    ((register r P (some o)).leaves w).scene.points r =
        (w.scene.points r ++ [P]).map (fun p => if p.id == o then { p with kids := p.kids ++ [P.id] } else p) ∧
      ((register r P (some o)).leaves w).scene.next r = w.scene.next r := by
  let added : World := { w with renderers := w.renderers.modify r (fun rd => { rd with points := rd.points ++ [P] }) }
  have step : (register r P (some o)).leaves w = (modifyPoint r o (fun q => { q with kids := q.kids ++ [P.id] })).leaves
      ((count r (fun m => { m with mountPoints := m.mountPoints + 1 })).leaves added) := rfl
  have points : added.scene.points r = w.scene.points r ++ [P] := by
    show (⟨w.doc, w.renderers.modify r _⟩ : Scene).points r = _
    rw [Scene.points_modify, if_pos ⟨rfl, present⟩]
    rfl
  have next : added.scene.next r = w.scene.next r := by
    show (⟨w.doc, w.renderers.modify r _⟩ : Scene).next r = _
    rw [Scene.next_modify, if_pos ⟨rfl, present⟩]
    rfl
  rw [step]
  refine ⟨?_, by rw [next_leaves_modifyPoint, next_leaves_count, next]⟩
  change World.points _ r = _
  rw [points_modifyPoint]
  change (((count r _).leaves added).scene.points r).map _ = _
  rw [points_leaves_count, points]

/-- A mount point registered under a number above every live one, as the last kid of an owner
numbered below it, is found by its number as it was registered. -/
theorem find?_registered {ps : List MountPoint} {P : MountPoint} {owner base : Nat}
    (old : ∀ p ∈ ps, p.id ≤ base) (above : base < P.id) (owned : owner ≤ base) :
    ((ps ++ [P]).map fun p => if p.id == owner then { p with kids := p.kids ++ [P.id] } else p).find?
      (·.id == P.id) = some P := by
  have notOwner : P.id ≠ owner := by omega
  rw [List.map_append, List.find?_append, List.find?_eq_none.2 fun q hq => ?_]
  · simp [notOwner]
  · -- Every live mount point, its kids grown or not, is numbered below the new one.
    obtain ⟨q₀, hq₀, rfl⟩ := List.mem_map.1 hq
    have := old q₀ hq₀
    split <;> simp only [beq_iff_eq] <;> omega

@[simp] theorem program_leaves_register (r : Nat) (p : MountPoint) (owner : Option Nat) (w : World) :
    ((register r p owner).leaves w).program = w.program := by
  cases owner <;> rfl

@[simp] theorem instances_leaves_register (r : Nat) (p : MountPoint) (owner : Option Nat) (w : World) :
    ((register r p owner).leaves w).instances = w.instances := by
  cases owner <;> rfl

/-- A render phase that finished, step by step: its render call returned an output from the world the
phase started in, and the output was placed from a later world with the same document and program,
the mount point flagged, every other mount point as it was and no number handed out; the flag was
cleared last. -/
theorem renderPhase_placed {n r id : Nat} {first : Bool} {p : MountPoint} {w w' : World}
    (found : (w.scene.points r).find? (·.id == id) = some p) (numbered : w.scene.Numbered)
    (run : (renderPhase (n + 1) r id first).run w = .ok () w') :
    ∃ c w₂ w₅ w₆, (callRender n p.render p.props p.children).run w = .ok c w₂ ∧ w.scene.Later w₅.scene ∧
      w₅.doc = w.doc ∧ w₅.program = w.program ∧ w₅.options = w.options ∧ w₅.scene.next r = w.scene.next r ∧
      w₅.scene.points r = (w.scene.points r).map (fun q => if q.id == id then { q with rendering := true } else q) ∧
      (placeOutput n r id { p with rendering := true } first c).run w₅ = .ok () w₆ ∧
      w' = (modifyPoint r id (fun p => { p with rendering := false })).leaves w₆ := by
  rw [renderPhase_run_of_found found, andFinally_run _ (modifyPoint_run r id _)] at run
  split at run
  case h_2 => cases run
  rename_i w₆ body
  cases run
  let w₁ := (modifyPoint r id (fun q => { q with rendering := true })).leaves w
  obtain ⟨c, w₄, rendered, body⟩ := bind_ok body
  obtain ⟨_, w₅, counted, body⟩ := bind_ok body
  obtain ⟨w₂, renders, scene₄⟩ := callRender_flagged (show w₁ = { w with renderers := w₁.renderers } from rfl) rendered
  rw [count_run] at counted
  cases counted
  -- The render call keeps the flagged scene and the program; counting keeps every mount point.
  have later₁ : w.scene.Later w₁.scene :=
    ok_of_noThrow (modifyPoint_later w.scene r id (fun q => { q with rendering := true }) (fun _ => rfl))
      (.refl numbered) (modifyPoint_run r id _ w)
  have program₄ : w₄.program = w.program :=
    (@callRender_confined w.program n _ _ _).program_of_ok (show w₁.program = w.program from rfl) rendered
  have options₄ : w₄.options = w.options := by
    unfold World.options
    rw [show w₄.renderers = w₁.renderers from congrArg Scene.renderers scene₄]
    exact options_leaves_modifyPoint r id _ w
  let w₅ := (count r (fun m => { m with renders := m.renders.bump "dom" })).leaves w₄
  refine ⟨c, w₂, w₅, w₆, renders, ?_, congrArg Scene.doc scene₄, program₄, ?_, ?_, ?_, body, rfl⟩
  · exact ok_of_noThrow (count_later w.scene r _) (scene₄ ▸ later₁) (count_run r _ w₄)
  · exact (options_leaves_count r _ w₄).trans options₄
  · rw [next_leaves_count, scene₄, next_leaves_modifyPoint]
  · rw [points_leaves_count, scene₄]
    exact points_modifyPoint r id _ w

end Run

/-- A live mount point's number has been handed out. -/
theorem Scene.Numbered.le_next {s : Scene} (numbered : s.Numbered) {r x : Nat} (hx : ∃ o ∈ s.points r, o.id = x) :
    x ≤ s.next r := by
  obtain ⟨o, ho, rfl⟩ := hx
  exact numbered r o ho

/-! ## What a mount leaves -/

/-- What a run that mounts into an element, as kids of an owner, leaves against the world it started
from: the program is kept; the element holds its old children and then new ones that draw the
markup `ms`, every other element that was there keeps its face, and every one its properties; and
the renderer spawned `k` mount points under the owner, numbered after the last number handed out. -/
structure Mounted (r into owner : Nat) (w w' : World) (ms : List Node) (k : Nat) : Prop where
  program : w'.program = w.program
  fills : w.doc.Fills w'.doc into ms
  spawned : Spawned owner (w.scene.next r) (w.scene.points r) (w'.scene.points r) k

namespace Mounted

variable {r into owner : Nat} {w w₁ w₂ : World} {ms ms' : List Node} {k k' : Nat}

theorem refl (r into owner : Nat) (w : World) : Mounted r into owner w w [] 0 :=
  ⟨rfl, .refl _ _, .refl _⟩

/-- Mounting in two runs, the second starting where the first stopped handing out numbers. -/
theorem trans (inside : into < w.doc.elements.size) (owned : owner ≤ w.scene.next r)
    (later : w.scene.next r ≤ w₁.scene.next r) (h₁ : Mounted r into owner w w₁ ms k)
    (h₂ : Mounted r into owner w₁ w₂ ms' k') : Mounted r into owner w w₂ (ms ++ ms') (k + k') :=
  ⟨h₂.program.trans h₁.program, h₁.fills.trans inside h₂.fills, h₁.spawned.trans owned (h₂.spawned.mono_base later)⟩

/-- Appending a text adds it and no mount point. -/
theorem text (r into owner : Nat) (w : World) (data : String) :
    Mounted r into owner w { w with doc := w.doc.appendText into data } [.text data] 0 :=
  ⟨rfl, .text _ _ _, .refl _⟩

/-- A render phase's placing, seen from the world before the phase: flagging the mount point,
counting the render call and clearing the flag last keep the document and every mount point with
its kids. -/
theorem unflagged {r into id : Nat} {w w₅ w₆ : World} {ms : List Node} {k : Nat}
    (doc : w₅.doc = w.doc) (program : w₅.program = w.program) (next : w₅.scene.next r = w.scene.next r)
    (points : w₅.scene.points r = (w.scene.points r).map (fun q => if q.id == id then { q with rendering := true } else q))
    (owned : id ≤ w.scene.next r) (h : Mounted r into id w₅ w₆ ms k) :
    Mounted r into id w ((Run.modifyPoint r id (fun p => { p with rendering := false })).leaves w₆) ms k := by
  have placed : Spawned id (w.scene.next r) (w.scene.points r) (w₆.scene.points r) k := by
    simpa using (Spawned.flag id _ id true (w.scene.points r)).trans owned (points ▸ next ▸ h.spawned)
  have unflag := Spawned.flag id (w.scene.next r) id false (w₆.scene.points r)
  have cleared : ((Run.modifyPoint r id (fun p => { p with rendering := false })).leaves w₆).scene.points r =
      (w₆.scene.points r).map (fun q => if q.id == id then { q with rendering := false } else q) :=
    Run.points_modifyPoint r id _ w₆
  refine ⟨h.program.trans program, doc ▸ h.fills, ?_⟩
  rw [cleared]
  simpa using placed.trans owned unflag

end Mounted

/-! ## Mounting steady content -/

namespace Run

/-- The world after a first pass placed a host output's element, before the output's children are
mounted into it: the element, made last, is appended to the container with a tag and the style
`st`; every other element that was there keeps its face, and every one its properties; the mount
points of the number have the element, and no number is handed out. -/
structure Attached (r id container : Nat) (tag : String) (st : Style) (w w' : World) : Prop where
  program : w'.program = w.program
  size : w'.doc.elements.size = w.doc.elements.size + 1
  grown : w'.doc.face container =
    (w.doc.face container).map fun f => { f with children := f.children ++ [.element w.doc.elements.size] }
  made : w'.doc.face w.doc.elements.size = some ⟨tag, st.classes, st.attrs, []⟩
  styled : w'.doc.propsAt w.doc.elements.size = some st.props
  others : ∀ e < w.doc.elements.size, e ≠ container → w'.doc.face e = w.doc.face e
  props : ∀ e < w.doc.elements.size, w'.doc.propsAt e = w.doc.propsAt e
  points : w'.scene.points r =
    (w.scene.points r).map fun q => if q.id == id then { q with element := some w.doc.elements.size } else q
  next : w'.scene.next r = w.scene.next r
  ready : Ready r w.doc.elements.size w'

/-- Placing a host output on a first pass attaches its element, styled by its props, and then mounts
its children into it. -/
theorem placeElement_attached (r id : Nat) (p : MountPoint) {n : Nat} {c : Value} {parts : Parts} {s : String}
    {w₅ w₆ : World} (hp : c.asNode?.bind split = some parts) (ht : parts.tag = .str s) (other : s ≠ fragmentTag)
    (fresh : p.element = none) (ready : Ready r p.container w₅)
    (run : (placeOutput n r id p true c).run w₅ = .ok () w₆) :
    ∃ w₈, Attached r id p.container s (parts.props.style .fresh) w₅ w₈ ∧
      (mountChildren n r parts.children w₅.doc.elements.size id).run w₈ = .ok () w₆ := by
  rw [placeOutput_str_eq hp ht other, bind_run, hostElement_attach_run r id p s fresh] at run
  dsimp only at run
  obtain ⟨_, w₈, applied, run⟩ := bind_ok run
  obtain ⟨lis, rfl⟩ := applyProps_restyles (fun q hq => (classified_of_mem_classify hq).1) applied
  have later₇ := (ok_of_noThrow (hostElement_later w₅.scene r id p s) (.refl ready.numbered)
    (hostElement_attach_run r id p s fresh w₅)).1
  have get₈ := Host.Document.get?_attached w₅.doc s ready.into
    (fun e => { e.withStyle ((classify parts.props).foldl (fun st p => p.restyle st) e.style) with listeners := lis e })
  let w₇ := (modifyPoint r id (fun q => { q with element := some w₅.doc.elements.size })).leaves
    { w₅ with doc := (w₅.doc.create s).1.appendChild p.container w₅.doc.elements.size }
  let w₈ : World := { w₇ with doc := w₇.doc.modify w₅.doc.elements.size fun e =>
      { e.withStyle ((classify parts.props).foldl (fun st p => p.restyle st) e.style) with listeners := lis e } }
  have doc₈ : w₈.doc = ((w₅.doc.create s).1.appendChild p.container w₅.doc.elements.size).modify w₅.doc.elements.size
      fun e => { e.withStyle ((classify parts.props).foldl (fun st p => p.restyle st) e.style) with listeners := lis e } :=
    rfl
  refine ⟨w₈, ⟨rfl, by rw [doc₈]; simp, ?_, ?_, ?_, fun e he ne => ?_, fun e he => ?_, points_modifyPoint r id _ _,
    next_leaves_modifyPoint r id r _ _, ?_⟩, run⟩
  · simp only [doc₈, Host.Document.face, get₈, if_neg (Nat.ne_of_lt ready.into), if_true, Option.map_map]
    rfl
  · simp only [doc₈, Host.Document.face, get₈, if_true]
    rfl
  · simp only [doc₈, Host.Document.propsAt, get₈, if_true]
    rfl
  · simp only [doc₈, Host.Document.face, get₈, if_neg (Nat.ne_of_lt he), if_neg ne]
  · simp only [doc₈, Host.Document.propsAt, get₈, if_neg (Nat.ne_of_lt he)]
    split
    · rw [Option.map_map]
      rfl
    · rfl
  · refine ⟨Scene.numbered_of_renderers (w := w₇) rfl later₇.numbered, later₇.size ▸ ready.renderer, ?_⟩
    show _ < (((w₅.doc.create s).1.appendChild p.container w₅.doc.elements.size).modify _ _).elements.size
    simp

/-- An attached element filled by a mount of the output's children: the container gains the element,
which draws its tag, its style's markup pairs and what the children drew; the element went to mount
points of the number only, which had none. -/
theorem Attached.mounted {r id container : Nat} {tag : String} {st : Style} {w w₈ w₆ : World} {gs : List Node}
    {k : Nat} (att : Attached r id container tag st w w₈) (ready : Ready r container w)
    (empty : w.scene.Unplaced r id) (present : ∃ o ∈ w.scene.points r, o.id = id)
    (inner : Mounted r w.doc.elements.size id w₈ w₆ gs k) :
    Mounted r container id w w₆ [.element tag (markupPairs st.classes st.attrs) gs] k := by
  have attached : Spawned id (w.scene.next r) (w.scene.points r) (w₈.scene.points r) 0 := by
    rw [att.points]
    exact Spawned.map fun q hq => by
      split
      · rename_i same
        refine ⟨⟨rfl, fun _ h => ?_, rfl, rfl, rfl, rfl⟩, rfl⟩
        rw [empty q hq (by simpa using same)] at h
        cases h
      · exact ⟨.refl q, rfl⟩
  refine ⟨inner.program.trans att.program,
    .element ready.into att.size att.grown att.made att.others att.props inner.fills, ?_⟩
  simpa using attached.trans (ready.numbered.le_next present) (att.next ▸ inner.spawned)

/-- Mounting steady content, at one fuel: what mounting a value as a kid of a live owner, the first
render phase of a mount point whose outputs are steady, and mounting children add, when they
finish. -/
structure SteadyMounting (prog : Program) (n : Nat) : Prop where
  mount : ∀ r v into owner ms k (w w' : World), w.program = prog → Steady prog v ms k → Ready r into w →
    (∃ o ∈ w.scene.points r, o.id = owner) → (Run.mount n r v into (some owner)).run w = .ok () w' →
    Mounted r into owner w w' ms k
  renderPhase : ∀ r id (p : MountPoint) ms k (w w' : World), w.program = prog →
    (w.scene.points r).find? (·.id == id) = some p → w.scene.Unplaced r id →
    (∀ m c w₂, (Run.callRender m p.render p.props p.children).run w = .ok c w₂ → SteadyOutput prog c ms k) →
    Ready r p.container w → (Run.renderPhase n r id true).run w = .ok () w' → Mounted r p.container id w w' ms k
  mountChildren : ∀ r cs into owner ms k (w w' : World), w.program = prog → SteadyAll prog cs ms k →
    Ready r into w → (∃ o ∈ w.scene.points r, o.id = owner) →
    (Run.mountChildren n r cs into owner).run w = .ok () w' → Mounted r into owner w w' ms k

section Steadily

variable {prog : Program} {n : Nat} (ih : SteadyMounting prog n)
include ih

/-- Placing a host output on a first pass: a new element, made last and appended to the container,
takes the style the output's props leave on a fresh element, and the output's children are mounted
into it. -/
theorem placeElement_mounted (r id : Nat) (p : MountPoint) {c : Value} {parts : Parts} {s : String}
    {gs : List Node} {k : Nat} {w₅ w₆ : World} (hp : c.asNode?.bind split = some parts) (ht : parts.tag = .str s)
    (other : s ≠ fragmentTag) (all : SteadyAll prog parts.children gs k) (program : w₅.program = prog)
    (fresh : p.element = none) (empty : w₅.scene.Unplaced r id) (present : ∃ o ∈ w₅.scene.points r, o.id = id)
    (ready : Ready r p.container w₅) (run : (placeOutput n r id p true c).run w₅ = .ok () w₆) :
    Mounted r p.container id w₅ w₆
      [.element s (markupPairs (parts.props.style .fresh).classes (parts.props.style .fresh).attrs) gs] k := by
  obtain ⟨w₈, att, run⟩ := placeElement_attached r id p hp ht other fresh ready run
  -- The mount point is still there, with the element, to own what the children spawn.
  have present₈ : ∃ o ∈ w₈.scene.points r, o.id = id := by
    obtain ⟨o, ho, rfl⟩ := present
    refine ⟨_, att.points ▸ List.mem_map_of_mem ho, ?_⟩
    split <;> rfl
  exact att.mounted ready empty present
    (ih.mountChildren r parts.children _ id gs k w₈ w₆ (att.program.trans program) all att.ready present₈ run)

/-- The first render phase of a mount point with no element, when it finishes: what its steady output
adds goes into the container, and the mount points it spawns are its kids. -/
theorem firstPhase_mounted (r id : Nat) (p : MountPoint) {ms : List Node} {k : Nat} {w w' : World}
    (program : w.program = prog) (found : (w.scene.points r).find? (·.id == id) = some p)
    (empty : w.scene.Unplaced r id)
    (outputs : ∀ m c w₂, (callRender m p.render p.props p.children).run w = .ok c w₂ → SteadyOutput prog c ms k)
    (ready : Ready r p.container w) (run : (renderPhase (n + 1) r id true).run w = .ok () w') :
    Mounted r p.container id w w' ms k := by
  obtain ⟨c, w₂, w₅, w₆, renders, later, doc, program₅, -, next, points, body, rfl⟩ :=
    renderPhase_placed found ready.numbered run
  have pid : p.id = id := by simpa using List.find?_some found
  have mem : p ∈ w.scene.points r := List.mem_of_find?_eq_some found
  have ready₅ : Ready r p.container w₅ := ready.of_later later
  have prog₅ : w₅.program = prog := program₅.trans program
  -- The mount point is still there, flagged, to own what the placing spawns.
  have present₅ : ∃ o ∈ w₅.scene.points r, o.id = id :=
    ⟨{ p with rendering := true }, by rw [points]; exact List.mem_map.2 ⟨p, mem, by simp [pid]⟩, pid⟩
  refine Mounted.unflagged doc program₅ next points (pid ▸ ready.numbered r p mem) ?_
  cases outputs n c w₂ renders with
  | fragment hp ht all =>
    rw [placeOutput_fragment_eq hp ht] at body
    exact ih.mountChildren r _ _ id ms k w₅ w₆ prog₅ all ready₅ present₅ body
  | component hp ht steady =>
    rw [placeOutput_component_eq hp ht] at body
    exact ih.mount r c _ id ms k w₅ w₆ prog₅ steady ready₅ present₅ body
  | element hp ht other all =>
    -- Flagging keeps every mount point of the number without an element.
    have unplaced₅ : w₅.scene.Unplaced r id := by
      intro q hq same
      rw [points] at hq
      obtain ⟨q₀, hq₀, rfl⟩ := List.mem_map.1 hq
      by_cases hit : q₀.id = id
      · simp only [hit, beq_self_eq_true, if_true]
        exact empty q₀ hq₀ hit
      · -- A mount point of another number is not flagged, and is not of this number.
        simp [hit] at same
    exact placeElement_mounted ih r id _ hp ht other all prog₅ (empty p mem pid) unplaced₅ present₅ ready₅ body

/-- Mounting a host node or fragment under a live owner: its number is reserved, its mount point
registered as the owner's last kid, and its first render phase places the node's rebuild. -/
theorem mountHost_mounted (r : Nat) {v : Value} {into owner : Nat} {items : List Value} {parts : Parts}
    {s : String} {ms : List Node} {k : Nat} {w w' : World} (program : w.program = prog) (hv : v.asNode? = some items)
    (hs : split items = some parts) (ht : parts.tag = .str s)
    (output : SteadyOutput prog (.node (hostItems s parts.props parts.children)) ms k) (ready : Ready r into w)
    (present : ∃ o ∈ w.scene.points r, o.id = owner)
    (run : (mount (n + 1) r v into (some owner)).run w = .ok () w') : Mounted r into owner w w' ms (k + 1) := by
  rw [mount_str_eq hv hs ht] at run
  obtain ⟨id, w₁, reserved, run⟩ := bind_ok run
  obtain ⟨later₁, after, vacant⟩ := ok_of_noThrow (reserve_later w.scene r) (.refl ready.numbered) reserved
  rw [reserve_run] at reserved
  cases reserved
  obtain ⟨_, w₂, registered, run⟩ := bind_ok run
  let P : MountPoint := ⟨w.scene.next r + 1, s, into, none, .host s, parts.props, parts.children, false, []⟩
  obtain ⟨later₂, awaits₂⟩ := ok_of_noThrow (register_later w.scene r P (some owner) after rfl) ⟨later₁, vacant⟩
    registered
  rw [register_run_leaves] at registered
  cases registered
  have present₁ : r < w.renderers.size := ready.renderer
  let w₁ : World := { w with renderers := w.renderers.modify r fun rd => { rd with next := rd.next + 1 } }
  obtain ⟨points₂, next₂⟩ := register_some_leaves r owner P w₁ (by simpa [w₁] using present₁)
  rw [points_reserved] at points₂
  rw [next_reserved w present₁] at next₂
  have owned : owner ≤ w.scene.next r := ready.numbered.le_next present
  -- The new mount point is found last, as it was registered: every live one is numbered below it.
  have found : (((register r P (some owner)).leaves w₁).scene.points r).find? (·.id == P.id) = some P := by
    rw [points₂]
    exact find?_registered (fun p hp => ready.numbered r p hp) (Nat.lt_succ_self _) owned
  -- Its host render function rebuilds the node from its parts, at any fuel that runs it.
  have outputs : ∀ m c w₃, (callRender m P.render P.props P.children).run ((register r P (some owner)).leaves w₁) =
      .ok c w₃ → SteadyOutput prog c ms k := by
    intro m c w₃ rendered
    cases m with
    | zero =>
      rw [callRender] at rendered
      cases rendered
    | succ m =>
      rw [callRender_host] at rendered
      cases rendered
      exact output
  have phase := ih.renderPhase r P.id P ms k ((register r P (some owner)).leaves w₁) w'
    ((program_leaves_register r P _ w₁).trans program) found awaits₂.2 outputs (ready.of_later later₂) run
  refine ⟨phase.program.trans (program_leaves_register r P _ w₁), doc_leaves_register r P _ w₁ ▸ phase.fills, ?_⟩
  have inner := phase.spawned
  rw [points₂, next₂] at inner
  exact Spawned.registered (fun p hp => ready.numbered r p hp) (Nat.lt_succ_self _) rfl present owned inner

/-- Mounting a steady component node under a live owner: its number is reserved, capabilities are
composed for it and its quiet setup run, which touch neither the document nor the renderers; then
its mount point is registered as the owner's last kid, and its first render phase places its first
output. -/
theorem mountComponent_mounted (r : Nat) {v : Value} {into owner : Nat} {items : List Value} {parts : Parts}
    {c : Component} {form : ComponentForm} {ms : List Node} {k : Nat} {w w' : World} (program : w.program = prog)
    (steady : Steady prog v ms k) (hv : v.asNode? = some items) (hs : split items = some parts)
    (ht : parts.tag.component? = some (c, form)) (ready : Ready r into w)
    (present : ∃ o ∈ w.scene.points r, o.id = owner)
    (run : (mount (n + 1) r v into (some owner)).run w = .ok () w') : Mounted r into owner w w' ms k := by
  obtain ⟨j, rfl, quiet, outputs⟩ := steady.output hv hs ht
  rw [mount_component_eq hv hs ht] at run
  obtain ⟨id, w₁, reserved, run⟩ := bind_ok run
  obtain ⟨later₁, after, vacant⟩ := ok_of_noThrow (reserve_later w.scene r) (.refl ready.numbered) reserved
  rw [reserve_run] at reserved
  cases reserved
  let w₁ : World := { w with renderers := w.renderers.modify r fun rd => { rd with next := rd.next + 1 } }
  obtain ⟨_, _, looked, run⟩ := bind_ok run
  rw [renderer_run] at looked
  cases looked
  obtain ⟨_, _, composed, run⟩ := bind_ok run
  rw [compose_run] at composed
  cases composed
  let w₂ : World := { w₁.afterPlugins (.mountPoint r (w.scene.next r + 1)) (w₁.renderers.getD r Renderer.default).plugins
    with capsets := w₁.capsets.push (Plugin.composed (.mountPoint r (w.scene.next r + 1)) w₁.timers.size
      (w₁.renderers.getD r Renderer.default).plugins) }
  obtain ⟨fn, w₃, setup, run⟩ := bind_ok run
  -- The quiet setup changes the core alone, so the scene is the reserved one.
  have confined := (instantiate_confined n quiet (c.name form) parts.props w.capsets.size).self (w := w₂) program
  rw [setup, onto_ok, EStateM.Result.ok.injEq] at confined
  have scene₃ : w₃.scene = w₁.scene := by
    rw [confined.2, World.scene_graft]
    rfl
  have program₃ : w₃.program = prog := by rw [confined.2, World.program_graft]; exact program
  obtain ⟨_, w₄, counted, run⟩ := bind_ok run
  rw [count_run] at counted
  cases counted
  let w₄ := (count r fun m => { m with setups := m.setups + 1 }).leaves w₃
  have later₃ : w₁.scene.Later w₃.scene := by
    rw [scene₃]
    exact .refl later₁.numbered
  have later₄ : w₁.scene.Later w₄.scene := later₃.count r _
  obtain ⟨_, w₅, registered, run⟩ := bind_ok run
  let P : MountPoint := ⟨w.scene.next r + 1, c.name form, into, none, fn, parts.props, parts.children, false, []⟩
  obtain ⟨later₅, awaits₅⟩ := ok_of_noThrow (register_later w.scene r P (some owner) after rfl)
    ⟨later₁.trans later₄, later₄.vacant vacant⟩ registered
  rw [register_run_leaves] at registered
  cases registered
  have present₄ : r < w₄.renderers.size := (later₁.trans later₄).size ▸ ready.renderer
  obtain ⟨points₅, next₅⟩ := register_some_leaves r owner P w₄ present₄
  rw [points_leaves_count, scene₃, points_reserved] at points₅
  rw [next_leaves_count, scene₃, next_reserved w ready.renderer] at next₅
  have owned : owner ≤ w.scene.next r := ready.numbered.le_next present
  -- The new mount point is found last, as it was registered: every live one is numbered below it.
  have found : (((register r P (some owner)).leaves w₄).scene.points r).find? (·.id == P.id) = some P := by
    rw [points₅]
    exact find?_registered (fun p hp => ready.numbered r p hp) (Nat.lt_succ_self _) owned
  -- Its first render call reads the instance the setup made, untouched since.
  have rendered : ∀ m out w₆, (callRender m P.render P.props P.children).run ((register r P (some owner)).leaves w₄) =
      .ok out w₆ → SteadyOutput prog out ms j :=
    fun m out w₆ call => outputs (show w₂.program = prog from program) setup (instances_leaves_register r P _ w₄)
      (program_leaves_register r P _ w₄) call
  have phase := ih.renderPhase r P.id P ms j ((register r P (some owner)).leaves w₄) w'
    ((program_leaves_register r P _ w₄).trans program₃) found awaits₅.2 rendered
    (ready.of_later later₅) run
  have doc₅ : ((register r P (some owner)).leaves w₄).doc = w.doc := by
    rw [doc_leaves_register]
    exact congrArg Scene.doc scene₃
  refine ⟨(phase.program.trans (program_leaves_register r P _ w₄)).trans (program₃.trans program.symm),
    doc₅ ▸ phase.fills, ?_⟩
  have inner := phase.spawned
  rw [points₅, next₅] at inner
  exact Spawned.registered (fun p hp => ready.numbered r p hp) (Nat.lt_succ_self _) rfl present owned inner

/-- Mounting steady content under a live owner, one level up: a host node or fragment, or a
component node; a value that is no node does not mount. -/
theorem mount_mounted (r : Nat) (v : Value) (into owner : Nat) {ms : List Node} {k : Nat} {w w' : World}
    (program : w.program = prog) (steady : Steady prog v ms k) (ready : Ready r into w)
    (present : ∃ o ∈ w.scene.points r, o.id = owner)
    (run : (mount (n + 1) r v into (some owner)).run w = .ok () w') : Mounted r into owner w w' ms k := by
  cases h : steady with
  | text notNode =>
    rw [mount] at run
    simp only [notNode] at run
    rw [fail_run] at run
    cases run
  | host hv hs ht output => exact mountHost_mounted ih r program hv hs ht output ready present run
  | greeting hv hs ht =>
    exact mountComponent_mounted ih r program steady hv hs (by rw [ht, Value.component?]) ready present run
  | script hv hs ht =>
    exact mountComponent_mounted ih r program steady hv hs (by rw [ht, Value.component?]) ready present run

/-- Mounting steady children, one level up: each node child is mounted and each other value's text
appended, after what the earlier children added. -/
theorem mountChildren_mounted (r : Nat) (cs : List Value) (into owner : Nat) {ms : List Node} {k : Nat}
    {w w' : World} (program : w.program = prog) (all : SteadyAll prog cs ms k) (ready : Ready r into w)
    (present : ∃ o ∈ w.scene.points r, o.id = owner)
    (run : (mountChildren (n + 1) r cs into owner).run w = .ok () w') : Mounted r into owner w w' ms k := by
  cases all with
  | nil =>
    rw [mountChildren] at run
    cases run
    exact .refl r into owner _
  | cons first rest =>
    rename_i c cs ms₁ ns k₁ j
    rw [mountChildren] at run
    -- A node child is mounted, any other value's text appended; the rest follow.
    have step : ∃ w₁, Mounted r into owner w w₁ ms₁ k₁ ∧ Ready r into w₁ ∧ w.scene.next r ≤ w₁.scene.next r ∧
        (mountChildren n r cs into owner).run w₁ = .ok () w' := by
      split at run
      · obtain ⟨_, w₁, head, run⟩ := bind_ok run
        have later := ok_of_triple ((listenersKept n).mount w.scene r c into (some owner)) (.refl ready.numbered) head
        exact ⟨w₁, ih.mount r c into owner ms₁ k₁ w w₁ program first ready present head, ready.of_later later,
          later.next_le r, run⟩
      · rename_i notNode
        obtain ⟨_, w₁, head, run⟩ := bind_ok run
        rw [modifyDoc_run] at head
        cases head
        cases first with
        | text _ =>
          exact ⟨_, .text r into owner w c.text, ready.mono ready.numbered rfl (by simp [Document.appendText]),
            Nat.le_refl _, run⟩
        | host hv => simp [hv] at notNode
        | greeting hv => simp [hv] at notNode
        | script hv => simp [hv] at notNode
    obtain ⟨w₁, head, ready₁, later, run⟩ := step
    exact head.trans ready.into (ready.numbered.le_next present) later
      (ih.mountChildren r cs into owner ns j w₁ w' (head.program.trans program) rest ready₁
        (head.spawned.present present) run)

omit ih in
theorem SteadyMounting.zero (prog : Program) : SteadyMounting prog 0 where
  mount _ _ _ _ _ _ _ _ _ _ _ _ run := by
    rw [Run.mount] at run
    cases run
  renderPhase _ _ _ _ _ _ _ _ _ _ _ _ run := by
    rw [Run.renderPhase] at run
    cases run
  mountChildren _ _ _ _ _ _ _ _ _ _ _ _ run := by
    rw [Run.mountChildren] at run
    cases run

theorem SteadyMounting.succ : SteadyMounting prog (n + 1) where
  mount r v into owner _ _ _ _ program steady ready present run :=
    mount_mounted ih r v into owner program steady ready present run
  renderPhase r id p _ _ _ _ program found empty outputs ready run :=
    firstPhase_mounted ih r id p program found empty outputs ready run
  mountChildren r cs into owner _ _ _ _ program all ready present run :=
    mountChildren_mounted ih r cs into owner program all ready present run

end Steadily

/-- Steady content mounts as its markup, at every fuel. -/
theorem steadyMounting (prog : Program) : ∀ n, SteadyMounting prog n
  | 0 => .zero prog
  | n + 1 => (steadyMounting prog n).succ

end Run

end ViewEngine
