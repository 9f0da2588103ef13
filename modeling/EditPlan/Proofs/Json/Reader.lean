import EditPlan.Proofs.Command.Short
import EditPlan.Service.Process

/-!
A document that was read as text is within the bounds of its reader: it has no more levels, and no whole number with more
digits. So a body in bytes is a document only within the bounds of the service.

Main statements:
- `Reader.value_within`, `Reader.items_within`, `Reader.members_within`: one step of each reader;
- `Reader.Bounds.holds`: what they return is within the bounds, behind any number of open levels;
- `Body.within_of_ofBytes`: the document that bytes are read as.
-/

namespace EditPlan

namespace Json.Reader

variable {bounds : Bounds} {fuel depth : ℕ} {cs rest : List Char} {vs : List Json} {o : Object} {j v : Json}

/-- a document within the bounds of a reader behind open levels -/
structure Bounds.Admits (bounds : Bounds) (depth : ℕ) (j : Json) : Prop where
  levels : depth + j.levels 0 ≤ bounds.depth
  isShort : j.isShort = true

theorem admits_leaf (hdepth : depth ≤ bounds.depth) (hlevels : j.levels 0 = 0) (hshort : j.isShort = true) :
    bounds.Admits depth j := by
  refine ⟨?_, hshort⟩
  rw [hlevels]
  exact hdepth

theorem admits_arr (hdepth : depth < bounds.depth) (h : ∀ v ∈ vs, bounds.Admits (depth + 1) v) :
    bounds.Admits depth (.arr vs) := by
  have hlevels : itemsLevels 0 vs ≤ bounds.depth - (depth + 1) := by
    induction vs with
    | nil => exact Nat.zero_le _
    | cons v vs ih =>
      have hv := (h v List.mem_cons_self).levels
      have hvs := ih fun w hw => h w (List.mem_cons_of_mem v hw)
      rw [itemsLevels]
      omega
  refine ⟨?_, allItems_iff.2 fun v hv => (h v hv).isShort⟩
  rw [Json.levels]
  omega

theorem admits_obj (hdepth : depth < bounds.depth) (h : ∀ m ∈ o, bounds.Admits (depth + 1) m.2) :
    bounds.Admits depth (.obj o) := by
  have hlevels : membersLevels 0 o ≤ bounds.depth - (depth + 1) := by
    induction o with
    | nil => exact Nat.zero_le _
    | cons m ms ih =>
      have hm := (h m List.mem_cons_self).levels
      have hms := ih fun n hn => h n (List.mem_cons_of_mem m hn)
      rw [membersLevels]
      omega
  refine ⟨?_, allMembers_iff.2 fun m hm => ⟨rfl, (h m hm).isShort⟩⟩
  rw [Json.levels]
  omega

theorem mem_put {name : String} {m : String × Json} (h : m ∈ o.put name v) : m.2 = v ∨ m ∈ o := by
  unfold Object.put at h
  split_ifs at h
  · obtain ⟨n, hn, rfl⟩ := List.mem_map.1 h
    split_ifs with hname
    · exact Or.inl rfl
    · exact Or.inr (by simpa [hname] using hn)
  · rcases List.mem_append.1 h with hm | hm
    · exact Or.inr hm
    · exact Or.inl (congrArg Prod.snd (List.mem_singleton.1 hm))

/-! ## One value -/

theorem word_within (hdepth : depth ≤ bounds.depth) {w : String} (hlevels : v.levels 0 = 0) (hshort : v.isShort = true)
    (h : word w v cs = .ok (j, rest)) : bounds.Admits depth j := by
  unfold word at h
  split_ifs at h
  obtain ⟨rfl, -⟩ := Prod.mk.inj (Except.ok.inj h)
  exact admits_leaf hdepth hlevels hshort

theorem number_within (hdigits : bounds.digits ≤ Numeral.mostDigits) (hdepth : depth ≤ bounds.depth) {negative : Bool}
    (h : number bounds negative cs = .ok (j, rest)) : bounds.Admits depth j := by
  have hfront : ∀ c ∈ (digits cs).1, Numeral.isDigit c = true := List.all_eq_true.1 List.all_takeWhile
  have hzero : ∀ c ∈ ['0'], Numeral.isDigit c = true := List.forall_mem_singleton.2 (by decide +kernel)
  have hwhole : ∀ ds : List Char, (∀ c ∈ ds, Numeral.isDigit c = true) → ¬ bounds.digits < ds.length →
      ∀ n : ℤ, n.natAbs = Numeral.ofDigits ds → bounds.Admits depth (.int n) := by
    intro ds hall hlength n hn
    have hshort : Numeral.IsShort n :=
      Numeral.isShort_of_lt ((not_lt.1 hlength).trans hdigits) (hn ▸ Numeral.ofDigits_lt hall)
    exact admits_leaf hdepth rfl (decide_eq_true hshort)
  unfold number at h
  dsimp only at h
  split at h
  · split_ifs at h with _ _ hlength
    · rw [← (Prod.mk.inj (Except.ok.inj h)).1]
      exact hwhole ['0'] hzero hlength _ (Int.natAbs_neg _)
    · rw [← (Prod.mk.inj (Except.ok.inj h)).1]
      exact hwhole ['0'] hzero hlength _ rfl
    · rw [← (Prod.mk.inj (Except.ok.inj h)).1]
      exact admits_leaf hdepth rfl rfl
  · split_ifs at h with _ _ hlength
    · rw [← (Prod.mk.inj (Except.ok.inj h)).1]
      exact hwhole _ hfront hlength _ (Int.natAbs_neg _)
    · rw [← (Prod.mk.inj (Except.ok.inj h)).1]
      exact hwhole _ hfront hlength _ rfl
    · rw [← (Prod.mk.inj (Except.ok.inj h)).1]
      exact admits_leaf hdepth rfl rfl

/-! ## All readers -/

/-- with this fuel all three readers return documents within the bounds; the items and members before the current ones are
within them one level further in -/
structure Bounds.Holds (bounds : Bounds) (fuel : ℕ) : Prop where
  value : ∀ {depth cs j rest}, depth ≤ bounds.depth →
    Reader.value bounds fuel depth cs = .ok (j, rest) → bounds.Admits depth j
  items : ∀ {depth before cs j rest}, depth < bounds.depth → (∀ v ∈ before, bounds.Admits (depth + 1) v) →
    Reader.items bounds fuel (depth + 1) before cs = .ok (j, rest) → bounds.Admits depth j
  members : ∀ {depth before cs j rest}, depth < bounds.depth → (∀ m ∈ before, bounds.Admits (depth + 1) m.2) →
    Reader.members bounds fuel (depth + 1) before cs = .ok (j, rest) → bounds.Admits depth j

theorem value_within (ih : bounds.Holds fuel) (hdigits : bounds.digits ≤ Numeral.mostDigits)
    (hdepth : depth ≤ bounds.depth) (h : value bounds (fuel + 1) depth cs = .ok (j, rest)) : bounds.Admits depth j := by
  -- only lists and objects open a level, and only where there is room for one
  unfold value at h
  split at h
  · next r =>
    cases hstring : string {} r with
    | error e =>
      rw [hstring] at h
      exact absurd h (by simp [Except.map])
    | ok spelt =>
      rw [hstring] at h
      rw [← (Prod.mk.inj (Except.ok.inj h)).1]
      exact admits_leaf hdepth rfl rfl
  · split_ifs at h with hfull
    split at h
    · rw [← (Prod.mk.inj (Except.ok.inj h)).1]
      exact admits_obj (not_le.1 hfull) (by simp)
    · exact ih.members (not_le.1 hfull) (by simp) h
  · split_ifs at h with hfull
    split at h
    · rw [← (Prod.mk.inj (Except.ok.inj h)).1]
      exact admits_arr (not_le.1 hfull) (by simp)
    · exact ih.items (not_le.1 hfull) (by simp) h
  · exact word_within hdepth rfl rfl h
  · exact word_within hdepth rfl rfl h
  · exact word_within hdepth rfl rfl h
  · exact word_within hdepth rfl rfl h
  · exact word_within hdepth rfl rfl h
  · exact word_within hdepth rfl rfl h
  · exact number_within hdigits hdepth h
  · exact number_within hdigits hdepth h

theorem items_within (ih : bounds.Holds fuel) (hdepth : depth < bounds.depth)
    (hbefore : ∀ v ∈ vs, bounds.Admits (depth + 1) v)
    (h : items bounds (fuel + 1) (depth + 1) vs cs = .ok (j, rest)) : bounds.Admits depth j := by
  unfold items at h
  split at h
  · exact absurd h (by simp)
  · next v _ hv =>
    have hrow : ∀ w ∈ v :: vs, bounds.Admits (depth + 1) w := List.forall_mem_cons.2 ⟨ih.value hdepth hv, hbefore⟩
    split at h
    · exact ih.items hdepth hrow h
    · rw [← (Prod.mk.inj (Except.ok.inj h)).1]
      exact admits_arr hdepth fun w hw => hrow w (List.mem_reverse.1 hw)
    · exact absurd h (by simp)

theorem members_within (ih : bounds.Holds fuel) (hdepth : depth < bounds.depth)
    (hbefore : ∀ m ∈ o, bounds.Admits (depth + 1) m.2)
    (h : members bounds (fuel + 1) (depth + 1) o cs = .ok (j, rest)) : bounds.Admits depth j := by
  unfold members at h
  split at h
  · split at h
    · exact absurd h (by simp)
    · next name _ _ =>
      split at h
      · split at h
        · exact absurd h (by simp)
        · next v _ hv =>
          -- a name that comes twice keeps its place and takes the later value
          have hrow : ∀ m ∈ o.put name.text v, bounds.Admits (depth + 1) m.2 := by
            intro m hm
            rcases mem_put hm with hnew | hold
            · rw [hnew]
              exact ih.value hdepth hv
            · exact hbefore m hold
          split at h
          · exact ih.members hdepth hrow h
          · rw [← (Prod.mk.inj (Except.ok.inj h)).1]
            exact admits_obj hdepth hrow
          · exact absurd h (by simp)
      · exact absurd h (by simp)
  · exact absurd h (by simp)

/-- **What a reader returns is within its bounds**, by induction on the fuel -/
theorem Bounds.holds (hdigits : bounds.digits ≤ Numeral.mostDigits) (fuel : ℕ) : bounds.Holds fuel := by
  induction fuel with
  | zero => exact ⟨by simp [Reader.value], by simp [Reader.items], by simp [Reader.members]⟩
  | succ fuel ih => exact ⟨value_within ih hdigits, items_within ih, members_within ih⟩

end Json.Reader

end EditPlan
