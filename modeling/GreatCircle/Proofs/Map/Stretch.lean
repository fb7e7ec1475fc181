/-
# Stretches of a line between its cuts

A line of `n` points that is cut after some of its positions falls into stretches of
neighbouring positions.  This file describes the stretches position by position: which of them
begin and end where (`IsPiece`), that they cover the line in order (`exists_mem_stretchesFrom`,
`pairwise_stretchesFrom`), and which positions are left when the stretches of a single position
are dropped: those that are not isolated (`IsPiece.isIsolated_iff`).

The main results are

* `segmentsFrom_eq_slices`: the pieces of a list are the slices of its stretches;
* `forall_notMem_drawnStretches_iff`: a position is in no drawn stretch exactly when it is
  isolated;
* `sum_length_drawnStretches`: the drawn stretches hold all positions but the isolated ones.
-/
import Mathlib.Algebra.GroupWithZero.Nat
import Mathlib.Data.List.Nodup
import Mathlib.Data.List.Range
import Mathlib.Tactic.Lemma
import GreatCircle.Map.Polyline

namespace GreatCircle

/-- The positions from `first` up to, and not including, `stop`. -/
structure Stretch where
  /-- The first position. -/
  first : ℕ
  /-- The position after the last one. -/
  stop : ℕ
deriving DecidableEq, Repr

namespace Stretch

instance instMembership : Membership ℕ Stretch := ⟨fun s k => s.first ≤ k ∧ k < s.stop⟩

lemma mem_iff {s : Stretch} {k : ℕ} : k ∈ s ↔ s.first ≤ k ∧ k < s.stop := Iff.rfl

/-- How many positions there are in a stretch. -/
def length (s : Stretch) : ℕ := s.stop - s.first

/-- The entries of a list at the positions of a stretch. -/
def slice {β : Type} (items : List β) (s : Stretch) : List β := items.extract s.first s.stop

lemma length_slice {β : Type} {items : List β} {s : Stretch} (h : s.stop ≤ items.length) :
    (s.slice items).length = s.length := by
  simp only [slice, length, List.extract_eq_take_drop, List.length_take, List.length_drop]
  omega

/-- The positions of a stretch, in order. -/
def positions (s : Stretch) : List ℕ := List.range' s.first s.length

lemma mem_positions {s : Stretch} {k : ℕ} : k ∈ s.positions ↔ k ∈ s := by
  simp only [positions, length, List.mem_range'_1, mem_iff]
  omega

end Stretch

/-- Cuts of a line of `n` points, looked at from position `start` on: they increase, and each
comes after a point that has a successor. -/
structure Cuts (start n : ℕ) (cuts : List ℕ) : Prop where
  sorted : cuts.Pairwise (· < ·)
  start_le : ∀ c ∈ cuts, start ≤ c
  succ_lt : ∀ c ∈ cuts, c + 1 < n

namespace Cuts

variable {start n : ℕ}

lemma nil : Cuts start n [] := ⟨List.Pairwise.nil, by simp, by simp⟩

lemma cons {cut : ℕ} {cuts : List ℕ} (hstart : start ≤ cut) (hcut : cut + 1 < n)
    (h : Cuts (cut + 1) n cuts) : Cuts start n (cut :: cuts) := by
  refine ⟨List.pairwise_cons.2 ⟨fun c hc => h.start_le c hc, h.sorted⟩, ?_, ?_⟩
  · rintro c (_ | ⟨_, hc⟩)
    · exact hstart
    · have := h.start_le c hc
      omega
  · rintro c (_ | ⟨_, hc⟩)
    · exact hcut
    · exact h.succ_lt c hc

lemma mono {start' : ℕ} {cuts : List ℕ} (hstart : start' ≤ start) (h : Cuts start n cuts) :
    Cuts start' n cuts :=
  ⟨h.sorted, fun c hc => hstart.trans (h.start_le c hc), h.succ_lt⟩

lemma tail {cut : ℕ} {cuts : List ℕ} (h : Cuts start n (cut :: cuts)) :
    Cuts (cut + 1) n cuts := by
  obtain ⟨hlt, hsorted⟩ := List.pairwise_cons.1 h.sorted
  exact ⟨hsorted, fun c hc => hlt c hc, fun c hc => h.succ_lt c (List.mem_cons_of_mem _ hc)⟩

lemma sublist {cuts cuts' : List ℕ} (h : Cuts start n cuts) (hsub : cuts'.Sublist cuts) :
    Cuts start n cuts' :=
  ⟨h.sorted.sublist hsub, fun c hc => h.start_le c (hsub.subset hc),
    fun c hc => h.succ_lt c (hsub.subset hc)⟩

end Cuts

/-- The stretches of a line of `n` points between its cuts, from a position on. -/
def stretchesFrom (n : ℕ) : ℕ → List ℕ → List Stretch
  | start, [] => [⟨start, n⟩]
  | start, cut :: cuts => ⟨start, cut + 1⟩ :: stretchesFrom n (cut + 1) cuts

/-- Cutting a list gives the slices of its stretches. -/
theorem segmentsFrom_eq_slices {β : Type} (items : List β) {cuts : List ℕ} :
    ∀ {start : ℕ}, Cuts start items.length cuts →
      segmentsFrom start (items.drop start) cuts =
        (stretchesFrom items.length start cuts).map (Stretch.slice items) := by
  induction cuts with
  | nil =>
    intro start _
    have htake : (items.drop start).take (items.length - start) = items.drop start :=
      List.take_of_length_le (by simp)
    simp [segmentsFrom, stretchesFrom, Stretch.slice, htake]
  | cons cut cuts ih =>
    intro start h
    have hle : start ≤ cut := h.start_le cut (by simp)
    have hdrop : (items.drop start).drop (cut + 1 - start) = items.drop (cut + 1) := by
      rw [List.drop_drop]
      congr 1
      omega
    rw [segmentsFrom, hdrop, ih h.tail]
    simp [stretchesFrom, Stretch.slice]

/-! ### What a stretch between cuts is -/

/-- A stretch that reaches from one cut, or the position `start`, to the next one, or the end
of the line. -/
structure IsPiece (start n : ℕ) (cuts : List ℕ) (s : Stretch) : Prop where
  start_le : start ≤ s.first
  stop_le : s.stop ≤ n
  /-- Nothing but a cut is on its left side. -/
  left : s.first = start ∨ s.first - 1 ∈ cuts
  /-- Nothing but a cut is on its right side. -/
  right : s.stop = n ∨ s.stop - 1 ∈ cuts
  /-- No cut is inside of it. -/
  uncut : ∀ c ∈ cuts, c ∈ s → c + 1 = s.stop

lemma isPiece_of_mem_stretchesFrom {n : ℕ} {cuts : List ℕ} {s : Stretch} :
    ∀ {start : ℕ}, start ≤ n → Cuts start n cuts → s ∈ stretchesFrom n start cuts →
      IsPiece start n cuts s := by
  induction cuts with
  | nil =>
    intro start hstart _ hs
    obtain rfl : s = ⟨start, n⟩ := by simpa [stretchesFrom] using hs
    exact ⟨le_rfl, le_rfl, Or.inl rfl, Or.inl rfl, by simp⟩
  | cons cut cuts ih =>
    intro start _ h hs
    have hle : start ≤ cut := h.start_le cut (by simp)
    have hlt : cut + 1 < n := h.succ_lt cut (by simp)
    rcases List.mem_cons.1 hs with rfl | hs
    · refine ⟨le_rfl, hlt.le, Or.inl rfl, Or.inr (by simp), fun c hc hmem => ?_⟩
      -- the cuts after this one are not in the stretch
      rcases List.mem_cons.1 hc with rfl | hc
      · rfl
      · have := h.tail.start_le c hc
        have := hmem.2
        simp only at this
        omega
    · have hp := ih hlt.le h.tail hs
      have hfirst := hp.start_le
      refine ⟨by omega, hp.stop_le, ?_, ?_, fun c hc hmem => ?_⟩
      · rcases hp.left with hl | hl
        · exact Or.inr (by simp [hl])
        · exact Or.inr (List.mem_cons_of_mem _ hl)
      · exact hp.right.imp_right (List.mem_cons_of_mem _)
      · rcases List.mem_cons.1 hc with rfl | hc
        · have := hmem.1
          omega
        · exact hp.uncut c hc hmem

/-- The stretches come in order and do not overlap. -/
lemma pairwise_stretchesFrom {n : ℕ} {cuts : List ℕ} :
    ∀ {start : ℕ}, start ≤ n → Cuts start n cuts →
      (stretchesFrom n start cuts).Pairwise fun s t => s.stop ≤ t.first := by
  induction cuts with
  | nil =>
    intro start _ _
    simp [stretchesFrom]
  | cons cut cuts ih =>
    intro start _ h
    have hlt : cut + 1 < n := h.succ_lt cut (by simp)
    refine List.pairwise_cons.2 ⟨fun t ht => ?_, ih hlt.le h.tail⟩
    exact (isPiece_of_mem_stretchesFrom hlt.le h.tail ht).start_le

/-- The stretches cover the line. -/
lemma exists_mem_stretchesFrom {n k : ℕ} (hk : k < n) {cuts : List ℕ} :
    ∀ {start : ℕ}, start ≤ k → ∃ s ∈ stretchesFrom n start cuts, k ∈ s := by
  induction cuts with
  | nil =>
    intro start hstart
    exact ⟨⟨start, n⟩, by simp [stretchesFrom], hstart, hk⟩
  | cons cut cuts ih =>
    intro start hstart
    rcases Nat.lt_or_ge k (cut + 1) with hcut | hcut
    · exact ⟨⟨start, cut + 1⟩, by simp [stretchesFrom], hstart, hcut⟩
    · obtain ⟨s, hs, hmem⟩ := ih hcut
      exact ⟨s, List.mem_cons_of_mem _ hs, hmem⟩

/-! ### Isolated positions -/

/-- Both sides of position `k` of a line of `n` points are ends: the line begins there or is
cut just before, and it ends there or is cut just after. -/
def IsIsolated (n : ℕ) (cuts : List ℕ) (k : ℕ) : Prop :=
  (k = 0 ∨ k - 1 ∈ cuts) ∧ (k + 1 = n ∨ k ∈ cuts)

instance instDecidableIsIsolated (n : ℕ) (cuts : List ℕ) (k : ℕ) :
    Decidable (IsIsolated n cuts k) :=
  inferInstanceAs (Decidable (_ ∧ _))

/-- A position is isolated when its piece has no other. -/
lemma IsPiece.isIsolated_iff {n k : ℕ} {cuts : List ℕ} {s : Stretch}
    (h : IsPiece 0 n cuts s) (hk : k ∈ s) : IsIsolated n cuts k ↔ s.length = 1 := by
  obtain ⟨hfirst, hstop⟩ := hk
  have hn := h.stop_le
  simp only [Stretch.length]
  constructor
  · rintro ⟨hleft, hright⟩
    -- a cut beside `k` that is inside of the piece ends it there
    have hk₁ : s.first = k := by
      rcases hleft with rfl | hcut
      · omega
      · by_contra hne
        have := h.uncut (k - 1) hcut ⟨by omega, by omega⟩
        omega
    have hk₂ : k + 1 = s.stop := by
      rcases hright with hlast | hcut
      · omega
      · exact h.uncut k hcut ⟨hfirst, hstop⟩
    omega
  · intro hlen
    obtain rfl : k = s.first := by omega
    refine ⟨h.left, ?_⟩
    rcases h.right with hr | hr
    · exact Or.inl (by omega)
    · exact Or.inr (by rwa [show s.stop - 1 = s.first by omega] at hr)

/-- The stretches that can be drawn: those of two positions or more. -/
def drawnStretches (n : ℕ) (cuts : List ℕ) : List Stretch :=
  (stretchesFrom n 0 cuts).filter fun s => decide (2 ≤ s.length)

section Drawn

variable {n : ℕ} {cuts : List ℕ} (h : Cuts 0 n cuts)
include h

lemma isPiece_of_mem_drawnStretches {s : Stretch} (hs : s ∈ drawnStretches n cuts) :
    IsPiece 0 n cuts s :=
  isPiece_of_mem_stretchesFrom n.zero_le h (List.mem_of_mem_filter hs)

lemma pairwise_drawnStretches :
    (drawnStretches n cuts).Pairwise fun s t => s.stop ≤ t.first :=
  (pairwise_stretchesFrom n.zero_le h).filter _

/-- Dropping the short stretches loses the isolated positions and no other. -/
theorem forall_notMem_drawnStretches_iff {k : ℕ} (hk : k < n) :
    (∀ s ∈ drawnStretches n cuts, k ∉ s) ↔ IsIsolated n cuts k := by
  constructor
  · intro hno
    obtain ⟨s, hs, hmem⟩ : ∃ s ∈ stretchesFrom n 0 cuts, k ∈ s :=
      exists_mem_stretchesFrom hk k.zero_le
    have hp := isPiece_of_mem_stretchesFrom n.zero_le h hs
    rw [hp.isIsolated_iff hmem]
    have hshort : ¬ 2 ≤ s.length := fun hlen =>
      hno s (List.mem_filter.2 ⟨hs, by simpa using hlen⟩) hmem
    have := Stretch.mem_iff.1 hmem
    simp only [Stretch.length] at hshort ⊢
    omega
  · intro hiso s hs hmem
    have hone := ((isPiece_of_mem_drawnStretches h hs).isIsolated_iff hmem).1 hiso
    have htwo : 2 ≤ s.length := by simpa using (List.mem_filter.1 hs).2
    omega

/-- The positions of the drawn stretches, one stretch after the other, are the positions that
are not isolated. -/
lemma positions_drawnStretches_perm :
    ((drawnStretches n cuts).flatMap Stretch.positions).Perm
      ((List.range n).filter fun k => decide (¬ IsIsolated n cuts k)) := by
  refine (List.perm_ext_iff_of_nodup ?_ (List.nodup_range.filter _)).2 fun k => ?_
  · -- stretches that do not overlap share no position
    refine List.nodup_flatMap.2 ⟨fun s _ => List.nodup_range', ?_⟩
    refine (pairwise_drawnStretches h).imp fun {s t} hst => ?_
    intro k hs ht
    have := (Stretch.mem_positions.1 hs).2
    have := (Stretch.mem_positions.1 ht).1
    omega
  · simp only [List.mem_flatMap, Stretch.mem_positions, List.mem_filter, List.mem_range,
      decide_eq_true_eq]
    constructor
    · rintro ⟨s, hs, hmem⟩
      have hk : k < n := hmem.2.trans_le (isPiece_of_mem_drawnStretches h hs).stop_le
      exact ⟨hk, fun hiso => (forall_notMem_drawnStretches_iff h hk).2 hiso s hs hmem⟩
    · rintro ⟨hk, hiso⟩
      by_contra hno
      push Not at hno
      exact hiso ((forall_notMem_drawnStretches_iff h hk).1 hno)

/-- The drawn stretches hold every position but the isolated ones. -/
theorem sum_length_drawnStretches :
    ((drawnStretches n cuts).map Stretch.length).sum +
      ((List.range n).filter fun k => decide (IsIsolated n cuts k)).length = n := by
  have hperm := (positions_drawnStretches_perm h).length_eq
  have hlen : ((drawnStretches n cuts).flatMap Stretch.positions).length =
      ((drawnStretches n cuts).map Stretch.length).sum := by
    simp [List.length_flatMap, Stretch.positions]
  -- every position is isolated or it is not
  have hsplit := List.length_eq_length_filter_add (l := List.range n)
    fun k => decide (IsIsolated n cuts k)
  simp only [List.length_range] at hsplit
  simp only [decide_not] at hperm
  omega

end Drawn

end GreatCircle
