/-
# Chains of moves

From no rotation, moves lead on to other orientations: `Move.Admitted` says which moves are meant,
and `Orientation.Reachable` which orientations are reached, where the other orientation of a move
has itself been reached.  Every move has an answer, and the answer is a versor
(`Orientation.IsVersor.exists_move`); so are all that are reached, and no chain of moves divides by
zero on its way (`Orientation.follow_isVersor`).  For the latter the same moves are made over
`Checked` numbers.
-/
import GreatCircle.Proofs.Checked
import GreatCircle.Proofs.Sphere.PlaceVector
import GreatCircle.Proofs.Sphere.Versor
import GreatCircle.Sphere.Move

namespace GreatCircle

open Scalar

/-! ### Moves over checked numbers -/

/-- The vector in checked numbers. -/
def Vec3.checked (v : Vec3 ℝ) : Vec3 Checked := ⟨.of v.x, .of v.y, .of v.z⟩

/-- The orientation in checked numbers. -/
def Orientation.checked (q : Orientation ℝ) : Orientation Checked :=
  ⟨.of q.w, .of q.x, .of q.y, .of q.z⟩

/-- The place in checked numbers. -/
noncomputable def GeoPoint.checked (p : GeoPoint ℝ) : GeoPoint Checked where
  lat := .of p.lat
  lon := .of p.lon
  le_lat := Checked.of_le.2 p.le_lat
  lat_le := Checked.of_le.2 p.lat_le
  le_lon := Checked.of_le.2 p.le_lon
  lon_le := Checked.of_le.2 p.lon_le

/-- The move in checked numbers. -/
noncomputable def Move.checked : Move ℝ → Move Checked
  | .set q => .set q.checked
  | .aboutAxis axis angle => .aboutAxis axis.checked (.of angle)
  | .between a b => .between a.checked b.checked
  | .place p => .place p.checked
  | .compose q => .compose q.checked
  | .precompose q => .precompose q.checked
  | .inverse => .inverse
  | .relativeTo q => .relativeTo q.checked
  | .interpolate t => .interpolate (.of t)

namespace Orientation

lemma checked_compose (p q : Orientation ℝ) :
    p.checked.compose q.checked = (p.compose q).checked := rfl

lemma checked_inverse (q : Orientation ℝ) : q.checked.inverse = q.inverse.checked := rfl

/-- A turn about an axis divides by the length of the axis. -/
lemma checked_turn {axis : Vec3 ℝ} (h : axis.norm ≠ 0) (θ : ℝ) :
    turn axis.checked (.of θ) = (turn axis θ).checked := by
  have hhalf : Checked.of θ / 2.0 = .of (θ / 2.0) := Checked.of_div (by norm_num)
  have hsin : sin (Checked.of (θ / 2.0)) / axis.checked.norm = .of (sin (θ / 2.0) / axis.norm) :=
    Checked.of_div h
  simp only [turn, hhalf, hsin]
  rfl

lemma checked_orientation (p : GeoPoint ℝ) : p.checked.orientation = p.orientation.checked := by
  have hlat : -radians p.checked.lat = .of (-radians p.lat) :=
    congrArg (-·) (Checked.radians_of p.lat)
  have hlon : radians p.checked.lon = .of (radians p.lon) := Checked.radians_of p.lon
  rw [GeoPoint.orientation, hlat, hlon]
  exact congrArg₂ compose (checked_turn norm_polarAxis_ne_zero _)
    (checked_turn norm_eastWestAxis_ne_zero _)

/-- The length of a quaternion. -/
def length {α : Type} [Scalar α] (q : Orientation α) : α :=
  sqrt (q.w * q.w + q.x * q.x + q.y * q.y + q.z * q.z)

lemma normalized_of_length {α : Type} [Scalar α] {q : Orientation α}
    (h : ¬ (q.length == 0.0) = true) :
    q.normalized = .ok ⟨q.w / q.length, q.x / q.length, q.y / q.length, q.z / q.length⟩ :=
  if_neg h

lemma length_mul_self (q : Orientation ℝ) :
    q.length * q.length = q.w * q.w + q.x * q.x + q.y * q.y + q.z * q.z :=
  Real.mul_self_sqrt (add_nonneg (add_nonneg (add_nonneg (mul_self_nonneg _) (mul_self_nonneg _))
    (mul_self_nonneg _)) (mul_self_nonneg _))

/-- A quaternion that is not zero is normalized to a versor. -/
lemma exists_normalized {q : Orientation ℝ} (hq : q.toQuaternion ≠ 0) :
    ∃ p, q.normalized = .ok p ∧ p.IsVersor ∧ q.checked.normalized = .ok p.checked := by
  have hlength : q.length ≠ 0 := by
    intro hzero
    have hsum := q.length_mul_self
    rw [hzero, mul_zero] at hsum
    refine hq (Quaternion.normSq_eq_zero.1 ?_)
    rw [Quaternion.normSq_def']
    simp only [toQuaternion, sq]
    exact hsum.symm
  refine ⟨_, normalized_of_length (mt beq_zero_real.1 hlength), ?_, ?_⟩
  · have hsum := q.length_mul_self
    rw [IsVersor]
    field_simp
    linarith
  · rw [normalized_of_length (mt Checked.of_beq_zero.1 hlength)]
    have hdiv (x : ℝ) : Checked.of x / q.checked.length = .of (x / q.length) :=
      Checked.of_div hlength
    exact congrArg Except.ok (Orientation.ext (hdiv _) (hdiv _) (hdiv _) (hdiv _))

/-- Between any two vectors there is a versor: neither axis of the half turn between opposite
vectors is ever zero. -/
lemma exists_between (a b : Vec3 ℝ) :
    ∃ q, between a b = .ok q ∧ q.IsVersor ∧ between a.checked b.checked = .ok q.checked := by
  have hopposite : a.checked.dot b.checked + 1.0 < oppositeTolerance ↔
      a.dot b + 1.0 < oppositeTolerance := Checked.of_lt
  have hlarger : magnitude a.checked.z < magnitude a.checked.x ↔ magnitude a.z < magnitude a.x :=
    Checked.of_lt
  simp only [between, hopposite, hlarger]
  split_ifs with hopp hlt
  · refine exists_normalized (q := ⟨0.0, -a.y, a.x, 0.0⟩) fun hzero => ?_
    have hx : a.x = 0 := congrArg QuaternionAlgebra.imJ hzero
    rw [hx, magnitude_real, magnitude_real, abs_zero] at hlt
    exact hlt.not_ge (abs_nonneg _)
  · refine exists_normalized (q := ⟨0.0, 0.0, -a.z, a.y⟩) fun hzero => ?_
    have hz : -a.z = 0 := congrArg QuaternionAlgebra.imJ hzero
    have hy : a.y = 0 := congrArg QuaternionAlgebra.imK hzero
    -- then the first coordinate is zero as well, and a zero vector is opposite to none
    have hx : a.x = 0 := by
      rw [magnitude_real, magnitude_real, neg_eq_zero.1 hz, abs_zero, not_lt] at hlt
      exact abs_nonpos_iff.1 hlt
    rw [Vec3.dot_def, hx, hy, neg_eq_zero.1 hz] at hopp
    norm_num [oppositeTolerance] at hopp
  · refine exists_normalized (q := ⟨a.dot b + 1.0, (a.cross b).x, (a.cross b).y, (a.cross b).z⟩)
      fun hzero => hopp ?_
    have hr : a.dot b + 1.0 = 0 := congrArg QuaternionAlgebra.re hzero
    rw [hr]
    norm_num [oppositeTolerance]

lemma isVersor_turn {axis : Vec3 ℝ} (h : axis.norm ≠ 0) (θ : ℝ) : (turn axis θ).IsVersor := by
  have hsum : axis.norm * axis.norm = axis.x * axis.x + axis.y * axis.y + axis.z * axis.z :=
    Real.mul_self_sqrt axis.dot_self_nonneg
  have htrig := Real.sin_sq_add_cos_sq (θ / 2.0)
  -- the imaginary part is the axis, brought to the length of the sine
  have hs : Real.sin (θ / 2.0) / axis.norm * axis.norm = Real.sin (θ / 2.0) :=
    div_mul_cancel₀ _ h
  simp only [IsVersor, turn, sin_real, cos_real]
  linear_combination htrig - (Real.sin (θ / 2.0) / axis.norm) ^ 2 * hsum +
    (Real.sin (θ / 2.0) / axis.norm * axis.norm + Real.sin (θ / 2.0)) * hs

lemma isVersor_orientation (p : GeoPoint ℝ) : p.orientation.IsVersor :=
  (isVersor_turn norm_polarAxis_ne_zero _).compose (isVersor_turn norm_eastWestAxis_ne_zero _)

lemma IsVersor.neg {q : Orientation ℝ} (hq : q.IsVersor) : (-q).IsVersor := by
  rw [IsVersor] at hq ⊢
  change -q.w * -q.w + -q.x * -q.x + -q.y * -q.y + -q.z * -q.z = 1
  linear_combination hq

section Part

variable {α : Type} [Scalar α]

/-- Of the two quaternions of a rotation the one with the smaller angle. -/
def shorter (q : Orientation α) : Orientation α := if q.w < 0.0 then -q else q

/-- The part of a rotation that is done at a time strictly between start and end. -/
def part (q : Orientation α) (t : α) : Orientation α :=
  if q.axis.norm == 0.0 then identity
  else
    let half := atan2 q.axis.norm q.w
    let s := sin (t * half) / q.axis.norm
    ⟨cos (t * half), q.x * s, q.y * s, q.z * s⟩

lemma slerp_eq_part (q : Orientation α) (t : α) :
    q.slerp t =
      if t == 0.0 then identity else if t == 1.0 then q else q.shorter.part t := rfl

end Part

lemma checked_shorter (q : Orientation ℝ) : q.checked.shorter = q.shorter.checked := by
  have hneg : q.checked.w < 0.0 ↔ q.w < 0.0 := Checked.of_lt
  simp only [shorter, hneg]
  split <;> rfl

/-- A part is a turn about the imaginary part, unless that is zero. -/
lemma isVersor_part (q : Orientation ℝ) (t : ℝ) :
    (q.part t).IsVersor ∧ q.checked.part (.of t) = (q.part t).checked := by
  have hchecked : (q.checked.axis.norm == 0.0) = true ↔ q.axis.norm = 0 := Checked.of_beq_zero
  by_cases hzero : q.axis.norm = 0
  · rw [part, part, if_pos (beq_zero_real.2 hzero), if_pos (hchecked.2 hzero)]
    exact ⟨isVersor_identity, rfl⟩
  · rw [part, part, if_neg (mt beq_zero_real.1 hzero), if_neg (mt hchecked.1 hzero)]
    have hs : Checked.of (sin (t * atan2 q.axis.norm q.w)) / .of q.axis.norm =
        .of (sin (t * atan2 q.axis.norm q.w) / q.axis.norm) := Checked.of_div hzero
    constructor
    · have hturn := isVersor_turn hzero (2 * (t * atan2 q.axis.norm q.w))
      rwa [turn, show (2 * (t * atan2 q.axis.norm q.w)) / 2.0 = t * atan2 q.axis.norm q.w by
        norm_num] at hturn
    · refine Orientation.ext rfl ?_ ?_ ?_
      · exact congrArg (Checked.of q.x * ·) hs
      · exact congrArg (Checked.of q.y * ·) hs
      · exact congrArg (Checked.of q.z * ·) hs

/-- What is done of a versor at any time is a versor. -/
lemma IsVersor.slerp {q : Orientation ℝ} (hq : q.IsVersor) (t : ℝ) :
    (q.slerp t).IsVersor ∧ q.checked.slerp (.of t) = (q.slerp t).checked := by
  have hstart : (Checked.of t == 0.0) = true ↔ (t == 0.0) = true :=
    Checked.of_beq_zero.trans beq_zero_real.symm
  have hend : (Checked.of t == 1.0) = true ↔ (t == 1.0) = true :=
    Checked.of_beq.trans beq_iff_eq.symm
  simp only [slerp_eq_part, hstart, hend]
  split_ifs
  · exact ⟨isVersor_identity, rfl⟩
  · exact ⟨hq, rfl⟩
  · rw [checked_shorter]
    exact q.shorter.isVersor_part t

lemma IsVersor.checked_interpolate {q : Orientation ℝ} (hq : q.IsVersor) {t : ℝ}
    (ht : 0.0 ≤ t ∧ t ≤ 1.0) : q.checked.interpolate (.of t) = .ok (q.slerp t).checked := by
  rw [← (hq.slerp t).2]
  exact interpolate_eq_ok ⟨Checked.of_le.2 ht.1, Checked.of_le.2 ht.2⟩

/-! ### Moves -/

end Orientation

/-- The other orientations that a move works with. -/
def Move.operands : Move ℝ → List (Orientation ℝ)
  | .set q | .compose q | .precompose q | .relativeTo q => [q]
  | .aboutAxis .. | .between .. | .place _ | .inverse | .interpolate _ => []

/-- What a move asks for: an axis is not zero, and a time lies between 0 and 1. -/
def Move.Admitted : Move ℝ → Prop
  | .aboutAxis axis _ => axis ≠ ⟨0, 0, 0⟩
  | .interpolate t => 0 ≤ t ∧ t ≤ 1
  | .set _ | .between .. | .place _ | .compose _ | .precompose _ | .inverse | .relativeTo _ => True

namespace Orientation

/-- An orientation is reached when a chain of moves leads to it from no rotation, and every other
orientation that the moves work with is reached as well. -/
inductive Reachable : Orientation ℝ → Prop
  | follow {moves : List (Move ℝ)} {q : Orientation ℝ}
      (admitted : ∀ m ∈ moves, m.Admitted)
      (operands : ∀ m ∈ moves, ∀ p ∈ m.operands, Reachable p)
      (ends : identity.follow moves = .ok q) : Reachable q

/-- **One move.**  From a versor, with versors to work with, a move has an answer, the answer is a
versor, and finding it divides by zero nowhere. -/
lemma IsVersor.exists_move {q : Orientation ℝ} (hq : q.IsVersor) {m : Move ℝ} (hm : m.Admitted)
    (hoperands : ∀ p ∈ m.operands, p.IsVersor) :
    ∃ r, q.move m = .ok r ∧ r.IsVersor ∧ q.checked.move m.checked = .ok r.checked := by
  cases m with
  | set p => exact ⟨p, rfl, hoperands p (by simp [Move.operands]), rfl⟩
  | aboutAxis axis angle =>
    have hnorm : axis.norm ≠ 0 := by
      intro hzero
      rw [Vec3.norm_eq_sqrt, Real.sqrt_eq_zero axis.dot_self_nonneg] at hzero
      exact hm (Vec3.eq_zero_of_dot_self hzero)
    refine ⟨turn axis angle, ?_, isVersor_turn hnorm angle, ?_⟩
    · rw [move, aboutAxis, if_neg (mt beq_zero_real.1 hnorm)]
      rfl
    · rw [← checked_turn hnorm]
      exact if_neg (mt Checked.of_beq_zero.1 hnorm)
  | between a b => exact exists_between a b
  | place p =>
    exact ⟨p.orientation, rfl, isVersor_orientation p, congrArg Except.ok (checked_orientation p)⟩
  | compose p =>
    have hp := hoperands p (by simp [Move.operands])
    exact ⟨_, rfl, hq.compose hp, congrArg Except.ok (checked_compose q p)⟩
  | precompose p =>
    have hp := hoperands p (by simp [Move.operands])
    exact ⟨_, rfl, hp.compose hq, congrArg Except.ok (checked_compose p q)⟩
  | inverse => exact ⟨_, rfl, hq.inverse, congrArg Except.ok (checked_inverse q)⟩
  | relativeTo p =>
    have hp := hoperands p (by simp [Move.operands])
    refine ⟨_, rfl, hq.compose hp.inverse, congrArg Except.ok ?_⟩
    exact (congrArg q.checked.compose (checked_inverse p)).trans (checked_compose q p.inverse)
  | interpolate t =>
    have hrange : (0.0 : ℝ) ≤ t ∧ t ≤ 1.0 := by
      norm_num
      exact hm
    exact ⟨q.slerp t, interpolate_eq_ok hrange, (hq.slerp t).1, hq.checked_interpolate hrange⟩

/-- **A chain of moves.**  The induction is on the chain, with the versor it starts from. -/
lemma IsVersor.exists_follow {q : Orientation ℝ} (hq : q.IsVersor) {moves : List (Move ℝ)}
    (h : ∀ m ∈ moves, m.Admitted ∧ ∀ p ∈ m.operands, p.IsVersor) :
    ∃ r, q.follow moves = .ok r ∧ r.IsVersor ∧
      q.checked.follow (moves.map Move.checked) = .ok r.checked := by
  induction moves generalizing q with
  | nil => exact ⟨q, rfl, hq, rfl⟩
  | cons m moves ih =>
    obtain ⟨hm, hoperands⟩ := h m (by simp)
    obtain ⟨next, hnext, hversor, hchecked⟩ := hq.exists_move hm hoperands
    obtain ⟨r, hr, hrest⟩ := ih hversor fun m' hm' => h m' (by simp [hm'])
    refine ⟨r, ?_, hrest.1, ?_⟩
    · rw [follow, List.foldlM_cons, hnext]
      exact hr
    · rw [follow, List.map_cons, List.foldlM_cons, hchecked]
      exact hrest.2

/-- Every orientation that is reached is a versor. -/
lemma Reachable.isVersor {q : Orientation ℝ} (hq : Reachable q) : q.IsVersor := by
  induction hq with
  | follow admitted _ ends ih =>
    obtain ⟨r, hr, hversor, -⟩ := isVersor_identity.exists_follow fun m hm =>
      ⟨admitted m hm, ih m hm⟩
    rw [ends] at hr
    rwa [Except.ok.inj hr]

/-- **Rotations stay rotations.**  Every orientation that is reached from no rotation is a versor.
Whatever the chain of moves, it leads to an orientation, and no formula on the way divides by zero:
over numbers in which that has no answer, the same chain ends at the same orientation. -/
theorem follow_isVersor :
    (∀ q, Reachable q → q.IsVersor) ∧
    ∀ moves : List (Move ℝ), (∀ m ∈ moves, m.Admitted ∧ ∀ p ∈ m.operands, Reachable p) →
      ∃ q, identity.follow moves = .ok q ∧ Reachable q ∧
        identity.follow (moves.map Move.checked) = .ok q.checked := by
  refine ⟨fun q hq => hq.isVersor, fun moves h => ?_⟩
  obtain ⟨q, hq, -, hchecked⟩ := isVersor_identity.exists_follow fun m hm =>
    ⟨(h m hm).1, fun p hp => ((h m hm).2 p hp).isVersor⟩
  exact ⟨q, hq, .follow (fun m hm => (h m hm).1) (fun m hm => (h m hm).2) hq, hchecked⟩

/-- Half a turn between two opposite vectors of length two, a third of it, and what has to follow
that to stand still again. -/
theorem follow_isVersor_from_opposite :
    let moves : List (Move ℝ) :=
      [.between ⟨0, 2, 0⟩ ⟨0, -2, 0⟩, .interpolate (1 / 3), .relativeTo identity, .inverse]
    (∀ m ∈ moves, m.Admitted ∧ ∀ p ∈ m.operands, Reachable p) ∧
      ∃ q, identity.follow moves = .ok q ∧ q.IsVersor ∧
        identity.follow (moves.map Move.checked) = .ok q.checked := by
  intro moves
  have hstill : ∀ m ∈ ([] : List (Move ℝ)), m.Admitted := by simp
  have hidentity : Reachable identity := .follow hstill (by simp) rfl
  have hmoves : ∀ m ∈ moves, m.Admitted ∧ ∀ p ∈ m.operands, Reachable p := by
    simp only [moves, List.forall_mem_cons, Move.Admitted, Move.operands]
    refine ⟨⟨trivial, by simp⟩, ⟨by norm_num, by simp⟩, ⟨trivial, ?_⟩, ⟨trivial, by simp⟩, by simp⟩
    simpa using hidentity
  obtain ⟨q, hq, hreached, hchecked⟩ := follow_isVersor.2 moves hmoves
  exact ⟨hmoves, q, hq, follow_isVersor.1 q hreached, hchecked⟩

end Orientation

end GreatCircle
