import EditPlan.Proofs.Wire.Reading
import EditPlan.Proofs.Command.Document
import EditPlan.Video.Context

/-!
What was read can be written. Of a document without too long whole numbers no field reads as one: a numeral has a bounded
number of digits, a truth value has one, and a double that is taken as a whole number lies below `2^63`. So the commands and
the contexts that come out of a bounded document hold only whole numbers that can be written again.

Main statements:
- `Numeral.ofDigits_lt`, `Numeral.isShort_whole`: a numeral within the bound is a number within it;
- `isShort_integer`: so is whatever a field of a bounded document reads as;
- `Command.isShort_caption_of_read`, `VideoContext.isShort_of_ofObject`: the sizes of captions and of frames.
-/

namespace EditPlan

/-! ## Numerals -/

namespace Numeral

theorem isShort_iff {n : ℤ} : IsShort n ↔ n.natAbs < 10 ^ mostDigits :=
  Nat.length_toDigits_le_iff (by decide) (by decide)

theorem ofDigits_append_singleton (ds : List Char) (c : Char) :
    ofDigits (ds ++ [c]) = ofDigits ds * 10 + (c.toNat - '0'.toNat) := by
  simp [ofDigits, List.foldl_append]

/-- a one and as many zeros as a number may have digits is one digit too long -/
theorem not_isShort_ten_pow : ¬ IsShort ((10 ^ mostDigits : ℕ) : ℤ) := by
  rw [isShort_iff, Int.natAbs_natCast]
  exact lt_irrefl _

/-- **A row of digits** is a number below the power of ten of its length -/
theorem ofDigits_lt {ds : List Char} (h : ∀ c ∈ ds, isDigit c = true) : ofDigits ds < 10 ^ ds.length := by
  induction ds using List.reverseRecOn with
  | nil => exact Nat.one_pos
  | append_singleton ds c ih =>
    obtain ⟨hds, hc⟩ := List.forall_mem_append.1 h
    have hdigit := hc c (List.mem_singleton_self c)
    simp only [isDigit, Bool.and_eq_true, decide_eq_true_eq, Char.le_def, UInt32.le_iff_toNat_le] at hdigit
    have hvalue : c.toNat - '0'.toNat < 10 := by
      have hnine : c.toNat ≤ '9'.toNat := hdigit.2
      have hgap : '9'.toNat = '0'.toNat + 9 := by decide
      omega
    have hfront := ih hds
    rw [ofDigits_append_singleton, List.length_append, List.length_singleton, pow_succ]
    omega

theorem isShort_of_lt {n : ℤ} {k : ℕ} (hk : k ≤ mostDigits) (h : n.natAbs < 10 ^ k) : IsShort n :=
  isShort_iff.2 (h.trans_le (Nat.pow_le_pow_right (by decide) hk))

theorem isShort_wholeDigits {cs : List Char} {n : ℤ} (h : wholeDigits cs = .ok n) : IsShort n := by
  have hrow : ∀ row : List Char, (row.takeWhile isDigit).length ≤ mostDigits →
      (ofDigits (row.takeWhile isDigit) : ℤ).natAbs < 10 ^ mostDigits := by
    intro row hlength
    have hdigits : ofDigits (row.takeWhile isDigit) < 10 ^ (row.takeWhile isDigit).length :=
      ofDigits_lt (List.all_eq_true.1 List.all_takeWhile)
    exact hdigits.trans_le (Nat.pow_le_pow_right (by decide) hlength)
  unfold wholeDigits at h
  dsimp only at h
  split_ifs at h with _ hlong
  · rw [← Except.ok.inj h, isShort_iff, Int.natAbs_neg]
    exact hrow _ (not_lt.1 hlong)
  · rw [← Except.ok.inj h, isShort_iff]
    exact hrow _ (not_lt.1 hlong)

/-- **A whole number that a field is read as** has no more digits than may be written -/
theorem isShort_whole {s : String} {n : ℤ} (h : whole s = .ok n) : IsShort n := by
  unfold whole at h
  split at h
  · split at h
    · exact absurd h (by simp)
    · next cs _ =>
      cases hplain : wholeDigits cs with
      | ok m =>
        rw [hplain] at h
        rw [← Except.ok.inj h]
        exact isShort_wholeDigits hplain
      | error e =>
        rw [hplain] at h
        exact absurd h (by simp [Except.mapError])
  · exact isShort_wholeDigits h

end Numeral

/-! ## Fields -/

namespace Wire

open Numeral Checked

variable {α : Type} {P : α → Prop} {o : Object} {n : FieldName} {j : Json}

theorem isShort_withSign {s : Bool} {m : ℕ} (h : m < wideLimit) : IsShort (Binary64.withSign s m) := by
  refine isShort_of_lt (k := 19) (by decide) (lt_of_lt_of_le (b := wideLimit) ?_ (by decide))
  cases s <;> simpa [Binary64.withSign] using h

/-- **A whole number out of a bounded document** is bounded -/
theorem isShort_integer (hj : j.isShort = true) : Yields IsShort (integer j) := by
  intro n hn
  unfold integer at hn
  split at hn
  · rw [← Checked.accepted.inj hn]
    exact of_decide_eq_true hj
  · next b =>
    rw [← Checked.accepted.inj hn]
    cases b <;> decide
  · -- a double is taken as a whole number only below `2^63`
    split_ifs at hn with hfraction hsmall
    · exact absurd hn (by simp [refuse])
    · rw [← Checked.accepted.inj hn]
      exact isShort_withSign hsmall
    · exact absurd hn (by simp [refuse])
  · exact absurd hn (by simp [refuse])
  · split at hn
    · next hwhole =>
      rw [← Checked.accepted.inj hn]
      exact isShort_whole hwhole
    · exact absurd hn (by simp [refuse])
    · exact absurd hn (by simp [refuse])
  · exact absurd hn (by simp [refuse])

theorem isShort_of_get? {name : String} {v : Json} (ho : (Json.obj o).isShort = true)
    (h : Object.get? o name = some v) : v.isShort = true := by
  obtain ⟨front, back, rfl, -⟩ := List.lookup_eq_some_iff.1 h
  exact (Json.allMembers_iff.1 ho _ (List.mem_append_right front List.mem_cons_self)).2

theorem isShort_of_find? {k : String} {v : Json} (ho : (Json.obj o).isShort = true)
    (h : find? o n = some (k, v)) : v.isShort = true := by
  unfold find? at h
  split at h
  · next w hw =>
    rw [← (Prod.mk.inj (Option.some.inj h)).2]
    exact isShort_of_get? ho hw
  · obtain ⟨w, hw, heq⟩ := Option.map_eq_some_iff.1 h
    rw [← (Prod.mk.inj heq).2]
    exact isShort_of_get? ho hw

theorem yields_optional {default : α} {read : Json → Checked α} (ho : (Json.obj o).isShort = true) (hdefault : P default)
    (hread : ∀ v, v.isShort = true → Yields P (read v)) : Yields P (optional o n default read) := by
  intro a ha
  rcases optional_eq_accepted.1 ha with ⟨-, rfl⟩ | ⟨k, v, hfind, hv⟩
  · exact hdefault
  · exact hread v (isShort_of_find? ho hfind) a hv

theorem yields_required {read : Json → Checked α} (ho : (Json.obj o).isShort = true)
    (hread : ∀ v, v.isShort = true → Yields P (read v)) : Yields P (required o n read) := by
  intro a ha
  obtain ⟨k, v, hfind, hv⟩ := required_eq_accepted.1 ha
  exact hread v (isShort_of_find? ho hfind) a hv

end Wire

/-! ## Captions and frames -/

open Wire Numeral Checked

theorem CaptionStyle.isShort_usual : IsShort ({} : CaptionStyle).fontSize := by decide

theorem CaptionStyle.isShort_of_read {j : Json} (hj : j.isShort = true) :
    Yields (fun style => IsShort style.fontSize) (CaptionStyle.read j) := by
  intro style h
  obtain ⟨o, rfl, ho⟩ := record_eq_accepted.1 h
  obtain ⟨_, _, h, -, hlast⟩ := and_eq_accepted.1 ho
  obtain ⟨_, _, h, -, hposition⟩ := and_eq_accepted.1 h
  obtain ⟨_, _, h, -, hback⟩ := and_eq_accepted.1 h
  obtain ⟨_, _, h, -, hcolor⟩ := and_eq_accepted.1 h
  obtain ⟨_, size, hfont, hsize, hmade⟩ := and_eq_accepted.1 h
  obtain ⟨font, -, hfamily⟩ := map_eq_accepted.1 hfont
  have hsame : style.fontSize = size := by
    rw [← hlast, ← hposition, ← hback, ← hcolor, ← hmade, ← hfamily]
  rw [hsame]
  exact yields_optional hj isShort_usual (fun v hv => isShort_integer hv) size hsize

/-- **The size of captions** that were read can be written -/
theorem Command.isShort_caption_of_read {j : Json} (hj : j.isShort = true) {style : CaptionStyle} {language : String}
    (h : Command.read j = .accepted (.addCaptions style language)) : IsShort style.fontSize := by
  cases j with
  | obj o =>
    rw [Command.read] at h
    cases hkind : Command.kindOfObject? o with
    | none =>
      rw [hkind] at h
      have hunknown := under_eq_accepted.1 h
      unfold Command.unknownOfObject at hunknown
      split_ifs at hunknown
      · obtain ⟨_, -, hmade⟩ := map_eq_accepted.1 hunknown
        exact absurd hmade (by simp)
      · exact absurd hunknown (by simp [refuse])
    | some k =>
      rw [hkind] at h
      have hfields := under_eq_accepted.1 h
      obtain rfl : Kind.addCaptions = k := Option.some.inj (Command.kind_of_ofObject o k _ hfields)
      obtain ⟨look, _, hlook, -, hmade⟩ := both_eq_accepted.1 hfields
      obtain ⟨rfl, -⟩ := Command.addCaptions.inj hmade
      exact yields_optional (P := fun look => IsShort look.fontSize) hj CaptionStyle.isShort_usual
        (fun v hv => CaptionStyle.isShort_of_read hv) look hlook
  | _ => exact absurd h (by simp [Command.read, refuse, under])

/-- a frame both of whose sides can be written -/
def Resolution.IsShort (r : Resolution) : Prop := Numeral.IsShort r.width ∧ Numeral.IsShort r.height

theorem Resolution.isShort_of_ofObject {o : Object} (ho : (Json.obj o).isShort = true) :
    Yields Resolution.IsShort (Resolution.ofObject o) := by
  have hside : ∀ v : Json, v.isShort = true → Yields Numeral.IsShort (positiveInteger v) := by
    intro v hv m hm
    unfold positiveInteger at hm
    split at hm
    · next n hn =>
      split_ifs at hm
      · rw [← accepted.inj hm]
        exact isShort_integer hv n hn
      · exact absurd hm (by simp [refuse])
    · exact absurd hm (by simp)
  intro r hr
  obtain ⟨width, height, hwidth, hheight, rfl⟩ := both_eq_accepted.1 hr
  exact ⟨yields_required ho hside width hwidth, yields_required ho hside height hheight⟩

/-- **The frame of a context** that was read can be written -/
theorem VideoContext.isShort_of_ofObject {cause : Cause} {o : Object} (ho : (Json.obj o).isShort = true) :
    Yields (fun c => ∀ r, c.resolution = some r → r.IsShort) (VideoContext.ofObject cause o) := by
  intro c hc
  obtain ⟨_, resolution, hfields, hread, hresolution⟩ := and_eq_accepted.1 hc
  obtain ⟨_, _, hfields, -, hsound⟩ := and_eq_accepted.1 hfields
  obtain ⟨_, -, hduration⟩ := map_eq_accepted.1 hfields
  have hsame : c.resolution = resolution := by rw [← hresolution, ← hsound, ← hduration]
  rw [hsame]
  refine yields_optional (P := fun resolution => ∀ r, resolution = some r → r.IsShort) ho (by simp) ?_ resolution hread
  intro v hv frame hframe r hr
  rcases nullable_eq_accepted.1 hframe with ⟨-, rfl⟩ | ⟨-, s, hs, rfl⟩
  · exact absurd hr (by simp)
  · obtain ⟨o', rfl, ho'⟩ := record_eq_accepted.1 hs
    rw [← Option.some.inj hr]
    exact Resolution.isShort_of_ofObject hv s ho'

end EditPlan
