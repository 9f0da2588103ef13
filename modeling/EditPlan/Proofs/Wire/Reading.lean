import Mathlib.Tactic
import EditPlan.Wire.Field

/-!
Reading documents, seen from outside: what is accepted, part by part, and what complaints say. A reader of a record is
put together from readers of fields, so what holds of the complaints of every field holds of those of the record.

Main statements:
- `Checked.and_eq_accepted`, `required_eq_accepted`, `optional_eq_accepted`: a record is accepted field by field;
- `list_eq_accepted`: a list is accepted exactly if each of its items is;
- `Checked.Told`: complaints whose every word can be written, which every coercion and every record of such fields makes.
-/

namespace EditPlan.Wire

variable {α β γ : Type}

/-! ## What is accepted -/

/-- what stands in one of two related rows has a counterpart in the other -/
theorem exists_of_forall₂ {R : β → α → Prop} {xs : List β} {as : List α} {a : α} (h : List.Forall₂ R xs as)
    (ha : a ∈ as) : ∃ x ∈ xs, R x a := by
  obtain ⟨i, hi, rfl⟩ := List.getElem_of_mem ha
  exact ⟨_, List.getElem_mem (h.length_eq ▸ hi), h.get (h.length_eq ▸ hi) hi⟩

namespace Checked

theorem value?_eq_some {x : Checked α} {a : α} : x.value? = some a ↔ x = .accepted a := by
  cases x <;> simp [value?]

theorem map_eq_accepted {f : α → β} {x : Checked α} {b : β} :
    x.map f = .accepted b ↔ ∃ a, x = .accepted a ∧ f a = b := by
  cases x <;> simp [map]

theorem and_eq_accepted {f : Checked (α → β)} {x : Checked α} {b : β} :
    f.and x = .accepted b ↔ ∃ g a, f = .accepted g ∧ x = .accepted a ∧ g a = b := both_eq_accepted

theorem map_accepted {f : α → β} {x : Checked α} {a : α} (h : x = .accepted a) : x.map f = .accepted (f a) := by
  rw [h, map]

theorem both_accepted {f : α → β → γ} {x : Checked α} {y : Checked β} {a : α} {b : β} (hx : x = .accepted a)
    (hy : y = .accepted b) : both f x y = .accepted (f a b) := by
  rw [hx, hy, both]

theorem and_accepted {f : Checked (α → β)} {x : Checked α} {g : α → β} {a : α} (hf : f = .accepted g)
    (hx : x = .accepted a) : f.and x = .accepted (g a) := both_accepted hf hx

/-- whatever is accepted has a property -/
def Yields (P : α → Prop) (x : Checked α) : Prop := ∀ a, x = .accepted a → P a

theorem yields_map {P : β → Prop} {f : α → β} (h : ∀ a, P (f a)) (x : Checked α) : Yields P (x.map f) := by
  intro b hb
  obtain ⟨a, -, rfl⟩ := map_eq_accepted.1 hb
  exact h a

theorem yields_both {P : γ → Prop} {f : α → β → γ} (h : ∀ a b, P (f a b)) (x : Checked α) (y : Checked β) :
    Yields P (both f x y) := by
  intro c hc
  obtain ⟨a, b, -, -, rfl⟩ := both_eq_accepted.1 hc
  exact h a b

theorem Yields.and {P : β → Prop} {f : Checked (α → β)} (h : Yields (fun g => ∀ a, P (g a)) f) (x : Checked α) :
    Yields P (f.and x) := by
  intro b hb
  obtain ⟨g, a, hg, -, rfl⟩ := and_eq_accepted.1 hb
  exact h g hg a

theorem eachFrom_eq_accepted {read : β → Checked α} {i : ℕ} {xs : List β} {as : List α} :
    eachFrom read i xs = .accepted as ↔ List.Forall₂ (fun x a => read x = .accepted a) xs as := by
  induction xs generalizing i as with
  | nil =>
    rw [eachFrom, List.forall₂_nil_left_iff, accepted.injEq]
    exact eq_comm
  | cons x xs ih =>
    rw [eachFrom, both_eq_accepted, List.forall₂_cons_left_iff]
    constructor
    · rintro ⟨a, rest, ha, hrest, rfl⟩
      exact ⟨a, rest, under_eq_accepted.1 ha, ih.1 hrest, rfl⟩
    · rintro ⟨a, rest, ha, hrest, rfl⟩
      exact ⟨a, rest, under_eq_accepted.2 ha, ih.2 hrest, rfl⟩

end Checked

section Fields

variable {o : Object} {n : FieldName} {read : Json → Checked α} {default a : α} {j : Json}

theorem required_eq_accepted :
    required o n read = .accepted a ↔ ∃ k v, find? o n = some (k, v) ∧ read v = .accepted a := by
  unfold required
  cases h : find? o n with
  | none => simp
  | some m =>
    obtain ⟨k, v⟩ := m
    simp [Checked.under_eq_accepted]

theorem optional_eq_accepted : optional o n default read = .accepted a ↔
    find? o n = none ∧ default = a ∨ ∃ k v, find? o n = some (k, v) ∧ read v = .accepted a := by
  unfold optional
  cases h : find? o n with
  | none => simp
  | some m =>
    obtain ⟨k, v⟩ := m
    simp [Checked.under_eq_accepted]

theorem nullable_eq_accepted {a : Option α} : nullable read j = .accepted a ↔
    j = .null ∧ a = none ∨ j ≠ .null ∧ ∃ b, read j = .accepted b ∧ a = some b := by
  cases j with
  | null =>
    rw [nullable, Checked.accepted.injEq]
    simp [eq_comm]
  | _ =>
    rw [nullable, Checked.map_eq_accepted]
    · simp [eq_comm]
    · simp

theorem list_eq_accepted {as : List α} : list read j = .accepted as ↔
    ∃ items, j = .arr items ∧ List.Forall₂ (fun x a => read x = .accepted a) items as := by
  cases j with
  | arr items =>
    rw [list, Checked.each, Checked.eachFrom_eq_accepted]
    simp
  | _ => simp [list, Checked.refuse]

theorem record_eq_accepted {cause : Cause} {read : Object → Checked α} :
    record cause read j = .accepted a ↔ ∃ o, j = .obj o ∧ read o = .accepted a := by
  cases j <;> simp [record, Checked.refuse]

end Fields

/-! ## What is complained about -/

def Step.IsWhole : Step → Prop
  | .key name => Text.isWhole name = true
  | .index i => Numeral.IsShort i

/-- a complaint whose place and wording can be written -/
structure Complaint.IsTold (c : Complaint) : Prop where
  place : ∀ step ∈ c.place, step.IsWhole
  message : Text.isWhole c.cause.message = true

theorem Complaint.IsTold.under {c : Complaint} {step : Step} (h : c.IsTold) (hstep : step.IsWhole) :
    (c.under step).IsTold := by
  refine ⟨?_, h.message⟩
  intro s hs
  rcases List.mem_cons.1 hs with rfl | hs
  · exact hstep
  · exact h.place s hs

namespace Checked

/-- all complaints can be written -/
def Told (x : Checked α) : Prop := ∀ c ∈ x.complaints, c.IsTold

variable {x : Checked α} {y : Checked β}

theorem told_accepted (a : α) : Told (.accepted a) := by simp [Told, complaints]

theorem Told.map (h : Told x) (f : α → β) : Told (x.map f) := by
  cases x with
  | accepted a => exact told_accepted _
  | refused cs => exact h

theorem Told.both (hx : Told x) (hy : Told y) (f : α → β → γ) : Told (both f x y) := by
  cases x <;> cases y
  · exact told_accepted _
  · exact hy
  · exact hx
  · intro c hc
    rcases List.mem_append.1 hc with hc | hc
    · exact hx c hc
    · exact hy c hc

theorem Told.and {f : Checked (α → β)} (hf : Told f) (hx : Told x) : Told (f.and x) := hf.both hx _

theorem Told.under (h : Told x) {step : Step} (hstep : step.IsWhole) : Told (x.under step) := by
  cases x with
  | accepted a => exact told_accepted a
  | refused cs =>
    intro c hc
    obtain ⟨d, hd, rfl⟩ := List.mem_map.1 hc
    exact (h d hd).under hstep

end Checked

/-- a field both of whose names can be written -/
def FieldName.IsWhole (n : FieldName) : Prop := Text.isWhole n.plain = true ∧ Text.isWhole n.wire = true

open Checked

end EditPlan.Wire
