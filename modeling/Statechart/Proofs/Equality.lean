import Statechart.Value.Same

/-!
# Equal values

Equal values have the same text (`Value.asText?_of_alike`), equal the same integers (`Value.alike_int_of_alike`) and
count as true alike (`Value.isTruthy_of_alike`), whatever they are made of: numbers of both kinds, truth values, texts
under any name, or parts.
-/

set_option autoImplicit false
set_option relaxedAutoImplicit false

namespace Statechart

/-! ### Numbers that are zero -/

namespace Double

variable {a b d : Double} {i : Int}

theorem eq_zero_iff_of_compareScaled {m p n q : Int} (h : compareScaled m p n q = .eq) : m = 0 ↔ n = 0 := by
  have hpower (k : Nat) : ((Nat.pow 2 k : Nat) : Int) ≠ 0 := Int.natCast_ne_zero.mpr (Nat.ne_of_gt (Nat.two_pow_pos k))
  have hsame := Int.compare_eq_eq.mp h
  constructor
  · rintro rfl
    rw [Int.zero_mul] at hsame
    exact (Int.mul_eq_zero.mp hsame.symm).resolve_right (hpower _)
  · rintro rfl
    rw [Int.zero_mul] at hsame
    exact (Int.mul_eq_zero.mp hsame).resolve_right (hpower _)

/-- A number is zero, of any sign. -/
def IsZero (d : Double) : Prop := ∃ p, d.scaled? = some (0, p)

/-- A number that equals an integer. -/
theorem scaled_of_compareInt (h : d.compareInt? i = some .eq) : ∃ m p, d.scaled? = some (m, p) ∧ (m = 0 ↔ i = 0) := by
  unfold compareInt? at h
  split at h
  · cases h
  · split at h
    · next m p hscaled => exact ⟨m, p, hscaled, eq_zero_iff_of_compareScaled (Option.some.inj h)⟩
    · split at h <;> cases h

theorem isZero_iff_of_compareInt (h : d.compareInt? i = some .eq) : d.IsZero ↔ i = 0 := by
  obtain ⟨m, p, hscaled, hzero⟩ := scaled_of_compareInt h
  simp [IsZero, hscaled, hzero]

theorem compareInt_zero : d.compareInt? 0 = some .eq ↔ d.IsZero := by
  constructor
  · intro h
    exact (isZero_iff_of_compareInt h).mpr rfl
  · rintro ⟨p, hscaled⟩
    have hnumber : d.isNaN = false := by
      unfold scaled? at hscaled
      split at hscaled
      · next hfinite => simp_all [isNaN, isFinite]
      · cases hscaled
    simp [compareInt?, hnumber, hscaled, compareScaled]

/-- Of two equal numbers both are zero or none is. -/
theorem isZero_iff_of_same (h : a.same b = true) : a.IsZero ↔ b.IsZero := by
  unfold same compare? at h
  split at h
  · cases h
  · split at h
    · next m p n q ha hb => simp [IsZero, ha, hb, eq_zero_iff_of_compareScaled (Option.some.inj (eq_of_beq h))]
    · split at h <;> cases h
    · split at h <;> cases h
    · next ha hb => simp [IsZero, ha, hb]

theorem isZero_iff_of_alike (h : a.alike b = true) : a.IsZero ↔ b.IsZero := by
  rcases Bool.or_eq_true_iff.mp h with hsame | hmark
  · exact isZero_iff_of_same hsame
  · rw [eq_of_beq (Bool.and_eq_true_iff.mp hmark).2]

end Double

/-! ### Equal values -/

namespace Value

variable {u v : Value} {s : String}

attribute [local simp] sameScalar

/-- What is compared with a value, by what this is made of. -/
theorem alike_eq (v u : Value) : v.alike u =
    match v.opened, u with
    | .list xs, .list ys => alikeItems xs ys
    | .tuple xs, .tuple ys => alikeItems xs ys
    | .set xs, .set ys => xs.length == ys.length && alikeMembers xs ys
    | .table xs, .table ys => xs.length == ys.length && alikeEntries xs ys
    | .event k xs, .event l ys => k.alike l && xs.length == ys.length && alikeEntries xs ys
    | .record n xs, .record m ys => n == m && alikeFields xs ys
    | .float x, .float y => x.alike y
    | _, .list _ => false
    | _, .tuple _ => false
    | _, .set _ => false
    | _, .table _ => false
    | _, .event _ _ => false
    | _, .record _ _ => false
    | w, .knot l inside => (match v with
      | .knot m _ => m == l
      | _ => false) || w.alike inside
    | w, u => sameScalar w u := alike.eq_def v u

theorem alike_text_iff : v.alike (.text s) = true ↔ v.opened.asText? = some s := by
  rw [alike_eq]
  generalize v.opened = w
  cases w <;> simp [asText?]

/-- A value that equals one with a text has this text. -/
theorem asText?_of_alike (h : v.alike u = true) (hu : u.asText? = some s) : v.opened.asText? = some s := by
  cases u with
  | text t =>
    cases hu
    exact alike_text_iff.mp h
  | symbol k t =>
    cases hu
    rw [alike_eq] at h
    generalize v.opened = w at h ⊢
    cases w <;> simp_all [asText?]
  | _ => cases hu

/-- A key that equals a value with a text has this text. -/
theorem asText?_of_isKey (h : v.alike u = true) (hkey : u.isKey = true) (hv : v.opened.asText? = some s) :
    u.asText? = some s := by
  rw [alike_eq] at h
  generalize v.opened = w at h hv
  cases w <;> cases hv
  all_goals cases u <;> simp_all [asText?, isKey]

/-- A key is opened. -/
theorem opened_of_isKey (h : v.isKey = true) : v.opened = v := by
  cases v <;> first | rfl | cases h

/-- A key equals a text exactly if this is its text. -/
theorem alike_text_of_isKey (h : v.isKey = true) : v.alike (.text s) = true ↔ v.asText? = some s := by
  rw [alike_text_iff, opened_of_isKey h]

/-- Values with the same text are equal. -/
theorem alike_of_asText? (hv : v.opened.asText? = some s) (hu : u.asText? = some s) : v.alike u = true := by
  rw [alike_eq]
  generalize v.opened = w at hv
  cases w <;> cases hv <;> cases u <;> cases hu <;> exact beq_self_eq_true _

/-- A value that equals an integer or a truth value equals its integer. -/
theorem alike_int_of_alike {n : Int} (h : v.alike u = true) (hu : u.asInt? = some n) : v.alike (.int n) = true := by
  cases u with
  | int i =>
    cases hu
    exact h
  | bool b =>
    cases hu
    rw [alike_eq] at h ⊢
    generalize v.opened = w at h ⊢
    cases w <;> simp_all
  | _ => cases hu

theorem isTruthy_float (d : Double) : (Value.float d).isTruthy = true ↔ ¬ d.IsZero := by
  rw [isTruthy, bne_iff_ne, ne_eq, Double.compareInt_zero]

/-- An integer or a truth value counts as true unless it is zero. -/
theorem isTruthy_of_asInt? {n : Int} (h : v.asInt? = some n) : v.isTruthy = true ↔ n ≠ 0 := by
  cases v with
  | int i =>
    cases h
    simp [isTruthy]
  | bool b =>
    cases h
    cases b <;> simp [isTruthy]
  | _ => cases h

/-- What equals an integer counts as true unless this is zero. -/
theorem isTruthy_of_alike_int {n : Int} (h : v.alike (.int n) = true) (hopened : v.opened = v) :
    v.isTruthy = true ↔ n ≠ 0 := by
  rw [alike_eq] at h
  rw [hopened] at h
  cases v with
  | float d => rw [isTruthy_float, Double.isZero_iff_of_compareInt (eq_of_beq h)]
  | int i =>
    rw [← eq_of_beq h]
    exact isTruthy_of_asInt? rfl
  | bool b =>
    rw [← eq_of_beq h]
    exact isTruthy_of_asInt? rfl
  | _ => cases h

/-- What equals a float counts as true unless this is zero. -/
theorem isTruthy_of_alike_float {d : Double} (h : v.alike (.float d) = true) (hopened : v.opened = v) :
    v.isTruthy = true ↔ ¬ d.IsZero := by
  rw [alike_eq] at h
  rw [hopened] at h
  cases v with
  | float d' => rw [isTruthy_float, Double.isZero_iff_of_alike h]
  | int i => rw [isTruthy_of_asInt? rfl, Double.isZero_iff_of_compareInt (eq_of_beq h)]
  | bool b => rw [isTruthy_of_asInt? rfl, Double.isZero_iff_of_compareInt (eq_of_beq h)]
  | _ => cases h

theorem isEmpty_of_alikeItems {xs ys : List Value} (h : alikeItems xs ys = true) : xs.isEmpty = ys.isEmpty := by
  cases xs <;> cases ys <;> first | rfl | cases h

theorem isEmpty_of_length {α : Type} {xs ys : List α} {b : Bool} (h : (xs.length == ys.length && b) = true) :
    xs.isEmpty = ys.isEmpty := by
  have hlength := eq_of_beq (Bool.and_eq_true_iff.mp h).1
  rw [Bool.eq_iff_iff, List.isEmpty_iff_length_eq_zero, List.isEmpty_iff_length_eq_zero, hlength]

/-- Equal values count as true alike, unless one stands within itself. -/
theorem isTruthy_of_alike (h : v.alike u = true) (hv : ∀ label inside, v ≠ .knot label inside)
    (hu : ∀ label inside, u ≠ .knot label inside) : v.isTruthy = u.isTruthy := by
  have hopened : v.opened = v := by
    cases v <;> first | rfl | exact absurd rfl (hv _ _)
  -- numbers of all kinds are compared by being zero
  cases hnumber : u.asInt? with
  | some n =>
    rw [Bool.eq_iff_iff, isTruthy_of_asInt? hnumber]
    exact isTruthy_of_alike_int (alike_int_of_alike h hnumber) hopened
  | none =>
    have hsame := h
    rw [alike_eq] at hsame
    rw [hopened] at hsame
    cases u with
    | float d =>
      rw [Bool.eq_iff_iff, isTruthy_float]
      exact isTruthy_of_alike_float h hopened
    | int i | bool b => cases hnumber
    | knot label inside => exact absurd rfl (hu _ _)
    | list ys | tuple ys => cases v <;> first | exact congrArg not (isEmpty_of_alikeItems hsame) | cases hsame
    | set ys | table ys => cases v <;> first | exact congrArg not (isEmpty_of_length hsame) | cases hsame
    | text s | symbol _ s | bytes s => cases v <;> first | rw [isTruthy, isTruthy, eq_of_beq hsame] | cases hsame
    | _ => cases v <;> first | rfl | cases hsame

end Value

end Statechart
