import Mathlib.Tactic.NormNum
import ViewEngine.Engine.Run
import ViewEngine.Props.Decode

/-!
Integers kept in 64 bits. Wrapping an integer into the signed 64-bit range takes it modulo 2^64
into [-2^63, 2^63): wrapping twice wraps once, and adding one to a wrapped integer wraps like
adding one first. The weak decoder stores a prop decoded into an integer target wrapped into the
target's range, so the start count it gives a counter is a 64-bit integer already.
-/

namespace ViewEngine

namespace IntKind

/-- Wrapping into the signed 64-bit range, spelled out. -/
theorem int_wrap_eq (n : Int) :
    IntKind.int.wrap n =
      if n % 18446744073709551616 ≥ 9223372036854775808 then n % 18446744073709551616 - 18446744073709551616
      else n % 18446744073709551616 := by
  simp only [wrap, signed, bits, Nat.pow_eq]
  norm_num

theorem int_wrap_wrap (a : Int) : IntKind.int.wrap (IntKind.int.wrap a) = IntKind.int.wrap a := by
  rw [int_wrap_eq a]
  split_ifs <;> rw [int_wrap_eq] <;> split_ifs <;> omega

/-- Adding one after wrapping and wrapping again is adding one and wrapping: a 64-bit increment. -/
theorem int_wrap_add_one (a : Int) : IntKind.int.wrap (IntKind.int.wrap a + 1) = IntKind.int.wrap (a + 1) := by
  rw [int_wrap_eq a, int_wrap_eq (a + 1)]
  split_ifs <;> rw [int_wrap_eq] <;> split_ifs <;> omega

end IntKind

/-- A scalar decoded into an integer target is the number read, wrapped into the target's range. -/
theorem decodeScalar_int {name : String} {k : IntKind} {v : Value} {d : Decoded}
    (h : decodeScalar name (.int k) v = .ok d) : ∃ n, d = .int k (k.wrap n) := by
  unfold decodeScalar at h
  dsimp only at h
  repeat' split at h
  -- The readings that fail are errors; every one that succeeds stores the number it read wrapped.
  all_goals simp only [Except.ok.injEq, reduceCtorEq] at h
  all_goals exact ⟨_, h.symm⟩

/-- Decoding into a 64-bit integer target that holds a 64-bit integer leaves one there: the value
read when it decodes, the one held when it is absent or fails. -/
theorem decodeInto_int (fuel : Nat) (name : String) (v : Value) {c : Int} (hc : IntKind.int.wrap c = c) :
    ∃ s, (decodeInto fuel name (.int .int) v (.int .int c)).1 = .int .int s ∧ IntKind.int.wrap s = s := by
  cases fuel with
  | zero => exact ⟨c, by rw [decodeInto.eq_1], hc⟩
  | succ fuel =>
    by_cases absent : v = .null
    · subst absent
      exact ⟨c, by rw [decodeInto.eq_2], hc⟩
    · -- A scalar target reads the value whatever it is, as no record, list or mapping.
      rw [decodeInto.eq_11 _ _ _ _ _ absent (fun _ h => by cases h) (fun _ h => by cases h) (fun _ h => by cases h)
        (fun _ h => by cases h) (fun h => by cases h)]
      cases read : decodeScalar name (.int .int) v with
      | ok d =>
        obtain ⟨n, rfl⟩ := decodeScalar_int read
        exact ⟨_, rfl, IntKind.int_wrap_wrap n⟩
      | error message => exact ⟨c, rfl, hc⟩

/-- The start the weak decoder gives a counter is a 64-bit integer. -/
theorem counterStart_wrapped {props : Props} {k : IntKind} {s : Int}
    (h : (weakDecode counterShape props).1.field "start" = some (.int k s)) :
    k = .int ∧ IntKind.int.wrap s = s := by
  unfold weakDecode at h
  dsimp only at h
  rw [decodeInto.eq_def] at h
  simp only [counterShape, Shape.zero, Shape.zeroFields, Value.mapFields?] at h
  rw [decodeFields.eq_2] at h
  simp only [Option.getD_some, List.find?] at h
  -- The start is the first field; the label decodes after it and does not touch it.
  generalize decodeFields _ "" [("label", Shape.text)] _ _ = rest at h
  obtain ⟨ds, e2⟩ := rest
  cases hv : fieldInput? (props.getD []) "start" with
  | none =>
    simp [hv, Decoded.field] at h
    obtain ⟨rfl, rfl⟩ := h
    exact ⟨rfl, by decide⟩
  | some v =>
    simp only [hv, Decoded.field, List.find?, beq_self_eq_true, Option.map_some] at h
    generalize (Shape.record _).depth + _ = fuel at h
    obtain ⟨s', decoded, wrapped⟩ := decodeInto_int fuel (partName "" "start") v (c := 0) (by decide)
    rw [decoded] at h
    obtain ⟨rfl, rfl⟩ := Decoded.int.inj (Option.some.inj h).symm
    exact ⟨rfl, wrapped⟩

end ViewEngine
