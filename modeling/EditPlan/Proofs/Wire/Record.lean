import EditPlan.Proofs.Wire.Reading

/-!
Written records, read again. The fields of a record share no names, so each is found under its own one, in whatever style
the record was written; a null field that was left out is not found, and then reads as it would have been null.

Main statements:
- `find?_record`: a field of a written record is found again;
- `required_record`, `optional_record`, `optional_record_orNull`: so it reads as what was written;
- `list_map`: a list reads item by item.
-/

namespace EditPlan.Wire

/-! ## Names -/

/-- two fields share no name -/
def FieldName.Apart (m n : FieldName) : Prop :=
  (m.wire ≠ n.wire ∧ m.wire ≠ n.plain) ∧ m.plain ≠ n.wire ∧ m.plain ≠ n.plain

instance (m n : FieldName) : Decidable (m.Apart n) := inferInstanceAs (Decidable (_ ∧ _))

theorem FieldName.Apart.symm {m n : FieldName} (h : m.Apart n) : n.Apart m :=
  ⟨⟨h.1.1.symm, h.2.1.symm⟩, h.1.2.symm, h.2.2.symm⟩

def Style.name (style : Style) (n : FieldName) : String := if style.wireNames then n.wire else n.plain

/-- whether a value is left out in a style -/
def Style.drops (style : Style) (v : Json) : Bool := style.omitNulls && v.isNull

section Records

variable {α : Type} {style : Style} {fields : List (FieldName × Json)} {n : FieldName} {v : Json} {o : Object}

theorem record_nil (style : Style) : style.record [] = [] := by
  unfold Style.record Style.keep
  split_ifs <;> rfl

theorem record_cons (style : Style) (n : FieldName) (v : Json) (fields : List (FieldName × Json)) :
    style.record ((n, v) :: fields) =
      if style.drops v then style.record fields else (style.name n, v) :: style.record fields := by
  unfold Style.record Style.keep Style.drops Style.name
  cases style.omitNulls with
  | false => simp
  | true => cases hv : v.isNull <;> simp [hv]

theorem name_cases (style : Style) (n : FieldName) : style.name n = n.wire ∨ style.name n = n.plain := by
  unfold Style.name
  split_ifs
  · exact Or.inl rfl
  · exact Or.inr rfl

theorem Apart.name_ne {m : FieldName} (h : m.Apart n) (style : Style) :
    n.wire ≠ style.name m ∧ n.plain ≠ style.name m := by
  rcases name_cases style m with hm | hm
  · rw [hm]
    exact ⟨h.1.1.symm, h.1.2.symm⟩
  · rw [hm]
    exact ⟨h.2.1.symm, h.2.2.symm⟩

theorem get?_cons_of_ne {k name : String} (h : name ≠ k) : Object.get? ((k, v) :: o) name = Object.get? o name := by
  have hne : (name == k) = false := beq_false_of_ne h
  rw [Object.get?, List.lookup_cons, hne]
  rfl

theorem get?_cons_self {k : String} : Object.get? ((k, v) :: o) k = some v := List.lookup_cons_self

/-- a record has no member under the names of a field that is apart from all of its own -/
theorem get?_record_of_apart (style : Style) (h : ∀ f ∈ fields, f.1.Apart n) :
    Object.get? (style.record fields) n.wire = none ∧ Object.get? (style.record fields) n.plain = none := by
  induction fields with
  | nil =>
    rw [record_nil]
    exact ⟨rfl, rfl⟩
  | cons f fields ih =>
    have hrest := ih fun g hg => h g (List.mem_cons_of_mem f hg)
    obtain ⟨hwire, hplain⟩ := Apart.name_ne (h f List.mem_cons_self) style
    rw [record_cons]
    split_ifs
    · exact hrest
    · rw [get?_cons_of_ne hwire, get?_cons_of_ne hplain]
      exact hrest

theorem find?_of_get?_none (hwire : Object.get? o n.wire = none) (hplain : Object.get? o n.plain = none) :
    find? o n = none := by
  rw [find?, hwire, hplain]
  rfl

/-- **A field of a written record is found again**, unless it was left out -/
theorem find?_record (style : Style) (hapart : (fields.map Prod.fst).Pairwise FieldName.Apart) (hmem : (n, v) ∈ fields) :
    find? (style.record fields) n = if style.drops v then none else some (style.name n, v) := by
  induction fields with
  | nil => exact absurd hmem List.not_mem_nil
  | cons f fields ih =>
    rw [List.map_cons, List.pairwise_cons] at hapart
    have hfirst : ∀ g ∈ fields, f.1.Apart g.1 := fun g hg => hapart.1 g.1 (List.mem_map_of_mem hg)
    rcases List.mem_cons.1 hmem with rfl | hrest
    · -- the field itself: no later field has one of its names
      obtain ⟨hwire, hplain⟩ := get?_record_of_apart style fun g hg => (hfirst g hg).symm
      rw [record_cons]
      split_ifs with hdropped
      · exact find?_of_get?_none hwire hplain
      · by_cases hname : n.wire = style.name n
        · rw [find?, hname, get?_cons_self]
        · have hplainName : style.name n = n.plain := (name_cases style n).resolve_left (Ne.symm hname)
          rw [find?, get?_cons_of_ne hname, hwire, hplainName, get?_cons_self]
          rfl
    · have hfound := ih hapart.2 hrest
      obtain ⟨hwire, hplain⟩ := Apart.name_ne (hfirst (n, v) hrest) style
      rw [record_cons, ← hfound]
      split_ifs
      · rfl
      · rw [find?, find?, get?_cons_of_ne hwire, get?_cons_of_ne hplain]

/-! ## Fields -/

variable {read : Json → Checked α} {default a : α}

theorem find?_record_of_not_null (hapart : (fields.map Prod.fst).Pairwise FieldName.Apart) {i : ℕ}
    (hplace : fields[i]? = some (n, v)) (hv : v.isNull = false) :
    find? (style.record fields) n = some (style.name n, v) := by
  rw [find?_record style hapart (List.mem_of_getElem? hplace), Style.drops, hv, Bool.and_false]
  rfl

/-- the field at place `i` of a written record reads as its value -/
theorem required_record (hapart : (fields.map Prod.fst).Pairwise FieldName.Apart) (i : ℕ)
    (hplace : fields[i]? = some (n, v)) (hv : v.isNull = false) (hread : read v = .accepted a) :
    required (style.record fields) n read = .accepted a :=
  required_eq_accepted.2 ⟨_, _, find?_record_of_not_null hapart hplace hv, hread⟩

theorem optional_record (hapart : (fields.map Prod.fst).Pairwise FieldName.Apart) (i : ℕ)
    (hplace : fields[i]? = some (n, v)) (hv : v.isNull = false) (hread : read v = .accepted a) :
    optional (style.record fields) n default read = .accepted a :=
  optional_eq_accepted.2 (Or.inr ⟨_, _, find?_record_of_not_null hapart hplace hv, hread⟩)

/-- a value that may be absent reads back whether its null was written or left out -/
theorem optional_record_orNull {write : α → Json} {a : Option α}
    (hapart : (fields.map Prod.fst).Pairwise FieldName.Apart) (i : ℕ)
    (hplace : fields[i]? = some (n, orNull write a))
    (hwrite : ∀ x, (write x).isNull = false ∧ read (write x) = .accepted x) :
    optional (style.record fields) n none (nullable read) = .accepted a := by
  cases a with
  | none =>
    have hfound := find?_record style hapart (List.mem_of_getElem? hplace)
    split_ifs at hfound
    · exact optional_eq_accepted.2 (Or.inl ⟨hfound, rfl⟩)
    · exact optional_eq_accepted.2 (Or.inr ⟨_, _, hfound, rfl⟩)
  | some x =>
    obtain ⟨hnull, hread⟩ := hwrite x
    apply optional_record hapart i hplace hnull
    apply nullable_eq_accepted.2
    refine Or.inr ⟨?_, x, hread, rfl⟩
    intro hx
    have hisNull : (write x).isNull = true := by
      rw [show write x = .null from hx]
      rfl
    rw [hnull] at hisNull
    exact Bool.false_ne_true hisNull

end Records

/-- **A list of written items reads as these items** -/
theorem list_map {α : Type} {read : Json → Checked α} {write : α → Json} {as : List α}
    (h : ∀ a ∈ as, read (write a) = .accepted a) : list read (.arr (as.map write)) = .accepted as := by
  apply list_eq_accepted.2
  refine ⟨_, rfl, ?_⟩
  rw [List.forall₂_map_left_iff]
  exact List.forall₂_same.2 h

end EditPlan.Wire
