import EditPlan.Proofs.Binary64.Sign
import EditPlan.Proofs.Filter.Expression

/-!
What a `select` filter keeps of a row of frames. An expression is worked out in doubles for each frame, from its time and the
time of the frame before it, which is a NaN on the first; comparisons give one or zero, and a frame is kept if the value is
not zero. The expressions that are built are sums of products of such truth values, so nothing cancels.

Main statements:
- `counts_firstAt`: the value of the term of one time;
- `Counts.sum`: a sum is zero only where all its terms are;
- `length_picked_le`: of a row that goes up no more frames are kept than there are times.
-/

namespace EditPlan

open Number

instance (x y : Binary64) : Decidable (x ≤ y) := inferInstanceAs (Decidable (_ ∧ _ ∧ _))

namespace Filter

/-! ## Values of expressions -/

/-- one for true, zero for false -/
def truth (b : Bool) : Binary64 := if b then one else zero

namespace Expr

/-- value of an expression on a frame at the time `t` behind one at the time `previous` -/
def value? (t previous : Binary64) : Expr → Option Binary64
  | .time => some t
  | .previous => some previous
  | .literal s => Numeral.plain? s.toList
  | .gte a b => do
    let x ← a.value? t previous
    let y ← b.value? t previous
    return truth (decide (y ≤ x))
  | .lt a b => do
    let x ← a.value? t previous
    let y ← b.value? t previous
    return truth (decide (x < y))
  | .isnan a => do
    let x ← a.value? t previous
    return truth (decide (x = .nan))
  | .add a b => do
    let x ← a.value? t previous
    let y ← b.value? t previous
    return x + y
  | .mul a b => do
    let x ← a.value? t previous
    let y ← b.value? t previous
    return x * y

/-- whether a frame is kept: its value is not zero -/
def keeps (e : Expr) (t previous : Binary64) : Bool := ((e.value? t previous).map fun v => !isZero v).getD false

/-- the frames of a row that are kept, behind a frame at the time `previous` -/
def picked (e : Expr) (previous : Binary64) : List Binary64 → List Binary64
  | [] => []
  | t :: rest => if e.keeps t previous then t :: e.picked t rest else e.picked t rest

/-- on a frame the expression has a value, which is not below zero, and is not zero exactly if `p` -/
def Counts (e : Expr) (t previous : Binary64) (p : Prop) : Prop :=
  ∃ v, e.value? t previous = some v ∧ Number.zero ≤ v ∧ (isZero v = false ↔ p)

variable {e a b first : Expr} {t previous y : Binary64} {p q : Prop}

theorem Counts.congr (h : e.Counts t previous p) (hpq : p ↔ q) : e.Counts t previous q := by
  obtain ⟨v, hv, hsign, hzero⟩ := h
  exact ⟨v, hv, hsign, hzero.trans hpq⟩

theorem Counts.keeps_iff (h : e.Counts t previous p) : e.keeps t previous = true ↔ p := by
  obtain ⟨v, hv, -, hzero⟩ := h
  rw [← hzero, keeps, hv, Option.map_some, Option.getD_some, Bool.not_eq_true']

/-- **A sum counts where one of its terms does** -/
theorem Counts.add (ha : a.Counts t previous p) (hb : b.Counts t previous q) : (add a b).Counts t previous (p ∨ q) := by
  obtain ⟨v, hv, hvsign, hvzero⟩ := ha
  obtain ⟨w, hw, hwsign, hwzero⟩ := hb
  refine ⟨v + w, by simp [value?, hv, hw], Binary64.zero_le_add hvsign hwsign, ?_⟩
  rw [← hvzero, ← hwzero, ← Bool.not_eq_true, ← Bool.not_eq_true, ← Bool.not_eq_true, ← not_and_or]
  exact not_congr (Binary64.isZero_add_iff hvsign hwsign)

/-- **A sum of many** counts where one of them does -/
theorem Counts.sum {α : Type} {xs : List α} {term : α → Expr} {holds : α → Prop} (hfirst : first.Counts t previous p)
    (hrest : ∀ x ∈ xs, (term x).Counts t previous (holds x)) :
    (sum first (xs.map term)).Counts t previous (p ∨ ∃ x ∈ xs, holds x) := by
  induction xs generalizing first p with
  | nil => exact hfirst.congr (by simp)
  | cons x xs ih =>
    obtain ⟨hx, hxs⟩ := List.forall_mem_cons.1 hrest
    exact (ih (hfirst.add hx) hxs).congr (by simp [or_assoc])

theorem truth_mul_add : ∀ a b c : Bool, Number.zero ≤ truth a * (truth b + truth c) ∧
    (isZero (truth a * (truth b + truth c)) = false ↔ a = true ∧ (b = true ∨ c = true)) := by
  decide +kernel

/-- **The term of a time** counts on a frame at or after it, if there is no frame before that or it is before the time -/
theorem counts_firstAt {s : String} (hs : Numeral.plain? s.toList = some y) (t previous : Binary64) :
    (firstAt s).Counts t previous (y ≤ t ∧ (previous = .nan ∨ previous < y)) := by
  obtain ⟨hsign, hzero⟩ := truth_mul_add (decide (y ≤ t)) (decide (previous = .nan)) (decide (previous < y))
  exact ⟨_, by simp [firstAt, value?, hs], hsign, by simpa using hzero⟩

end Expr

/-! ## Rows of frames -/

/-- whether a time has not come when the frame at `previous` is shown; before the first frame none has -/
def Ahead (previous y : Binary64) : Prop := previous = .nan ∨ previous < y

instance (previous y : Binary64) : Decidable (Ahead previous y) := inferInstanceAs (Decidable (_ ∨ _))

theorem not_ahead_of_le {t y : Binary64} (h : y ≤ t) : ¬ Ahead t y := by
  rintro (hnan | hlt)
  · exact h.2.1 hnan
  · exact h.2.2 hlt

theorem Ahead.of_lt {previous t y : Binary64} (hprevious : Ahead previous t) (h : t < y) : Ahead previous y :=
  hprevious.imp_right fun hlt => trans_of (· < ·) hlt h

/-- **Each kept frame uses up a time**: of a row that goes up no more frames are kept than there are times ahead, if those
are kept that are the first at or after one -/
theorem length_picked_le {e : Expr} {ys : List Binary64}
    (hkeeps : ∀ t previous, e.keeps t previous = true ↔ ∃ y ∈ ys, y ≤ t ∧ Ahead previous y) {previous : Binary64}
    {frames : List Binary64} (hfirst : ∀ t ∈ frames.head?, Ahead previous t) (hup : frames.Pairwise (· < ·)) :
    (e.picked previous frames).length ≤ (ys.filter fun y => Ahead previous y).length := by
  induction frames generalizing previous with
  | nil => exact Nat.zero_le _
  | cons t rest ih =>
    obtain ⟨hlater, hrest⟩ := List.pairwise_cons.1 hup
    have hle := ih (fun u hu => .inr (hlater u (List.mem_of_mem_head? hu))) hrest
    rw [Expr.picked]
    by_cases hnan : t = .nan
    · -- nothing comes behind such a frame, and it is at or after no time
      have hdropped : ¬ e.keeps t previous = true := by
        rw [hkeeps]
        rintro ⟨y, -, hy, -⟩
        exact hy.2.1 hnan
      have hend : rest = [] := by
        rw [List.eq_nil_iff_forall_not_mem]
        intro u hu
        exact Binary64.ne_nan_of_lt_left (hlater u hu) hnan
      rw [if_neg hdropped, hend]
      exact Nat.zero_le _
    · have hahead : ∀ y, Ahead t y → Ahead previous y := fun y hy => (hfirst t rfl).of_lt (hy.resolve_left hnan)
      have hfilter : (ys.filter fun y => Ahead t y) = (ys.filter fun y => Ahead previous y).filter fun y => Ahead t y := by
        rw [List.filter_filter]
        refine List.filter_congr fun y _ => ?_
        by_cases hy : Ahead t y <;> simp [hy, hahead y]
      split_ifs with hkept
      · obtain ⟨y, hy, hreached, hnext⟩ := (hkeeps t previous).1 hkept
        have hused : ((ys.filter fun y => Ahead previous y).filter fun y => Ahead t y).length <
            (ys.filter fun y => Ahead previous y).length :=
          List.length_filter_lt_length_iff_exists.2
            ⟨y, List.mem_filter.2 ⟨hy, by simpa using hnext⟩, by simpa using not_ahead_of_le hreached⟩
        rw [hfilter] at hle
        rw [List.length_cons]
        omega
      · rw [hfilter] at hle
        exact hle.trans (List.length_filter_le _ _)

end Filter

end EditPlan
