import EditPlan.Proofs.Command.Document

/-!
A list of commands is read item by item. No item has an influence on what another one reads as, nor on what is complained
about it, with one exception: an item whose tag is itself a list or an object stops the whole list.

Main statements:
- `Checked.complaints_eachFrom`: the complaints about a list are those about its items, in order, each under its number;
- `readCommands_stopped_iff`: what stops a list;
- `readCommands_items`: lists of commands, and what is read from an item with a tag outside the ten.
Witness and counterexample:
- `readCommands_items_mixed`: a list that is read, one with two refused items, and one that is stopped;
- `readCommands_items_half_name`: an item with a tag outside the ten that is refused for the name of a member.
-/

namespace EditPlan

open Wire Checked

/-! ## Complaints about lists -/

namespace Wire.Checked

variable {α β γ : Type}

theorem complaints_both (f : α → β → γ) (x : Checked α) (y : Checked β) :
    (both f x y).complaints = x.complaints ++ y.complaints := by
  cases x <;> cases y <;> simp [both, complaints]

theorem complaints_under (step : Step) (x : Checked α) :
    (x.under step).complaints = x.complaints.map (Complaint.under step) := by
  cases x <;> simp [under, complaints]

theorem eq_refused {x : Checked α} (h : ¬ ∃ a, x = .accepted a) : x = .refused x.complaints := by
  cases x with
  | accepted a => exact absurd ⟨a, rfl⟩ h
  | refused cs => rfl

/-- **The complaints about a list** are those about its items, in order, each under the number of its item -/
theorem complaints_eachFrom (read : β → Checked α) (i : ℕ) (xs : List β) : (eachFrom read i xs).complaints =
    (xs.zipIdx i).flatMap fun p => (read p.1).complaints.map (Complaint.under (.index p.2)) := by
  induction xs generalizing i with
  | nil => rfl
  | cons x xs ih => rw [eachFrom, complaints_both, complaints_under, ih, List.zipIdx_cons, List.flatMap_cons]

end Wire.Checked

/-- rows that are related item by item exist as soon as each item has a counterpart -/
theorem exists_forall₂_iff {α β : Type} {R : β → α → Prop} {xs : List β} :
    (∃ as, List.Forall₂ R xs as) ↔ ∀ x ∈ xs, ∃ a, R x a := by
  induction xs with
  | nil => simp
  | cons x xs ih =>
    rw [List.forall_mem_cons, ← ih]
    constructor
    · rintro ⟨_, _ | ⟨ha, has⟩⟩
      exact ⟨⟨_, ha⟩, _, has⟩
    · rintro ⟨⟨a, ha⟩, as, has⟩
      exact ⟨a :: as, .cons ha has⟩

/-! ## Tags that stop a list -/

/-- an object whose tag is itself a list or an object -/
def Json.HasCompoundTag (j : Json) : Prop :=
  (∃ items, j.get? "type" = some (.arr items)) ∨ ∃ members, j.get? "type" = some (.obj members)

theorem compoundTag?_eq_none_iff {j : Json} : compoundTag? j = none ↔ ¬ j.HasCompoundTag := by
  cases j with
  | obj o =>
    rw [compoundTag?, Json.HasCompoundTag, Json.get?]
    cases Object.get? o "type" with
    | none => simp
    | some tag => cases tag <;> simp
  | _ => simp [compoundTag?, Json.HasCompoundTag, Json.get?]

theorem firstCompoundTag?_eq_none_iff {items : List Json} :
    firstCompoundTag? (.arr items) = none ↔ ∀ j ∈ items, ¬ j.HasCompoundTag := by
  rw [firstCompoundTag?, List.findSome?_eq_none_iff]
  simp only [compoundTag?_eq_none_iff]

/-- a list is stopped by the sort of a tag only, never with complaints -/
theorem firstCompoundTag?_cases {items : List Json} {m : Misread} (h : firstCompoundTag? (.arr items) = some m) :
    m = .listTag ∨ m = .objectTag := by
  obtain ⟨j, -, hj⟩ := List.exists_of_findSome?_eq_some h
  cases j with
  | obj o =>
    rw [compoundTag?] at hj
    cases htag : Object.get? o "type" with
    | none => simp [htag] at hj
    | some tag =>
      rw [htag] at hj
      cases tag with
      | arr _ => exact .inl (Option.some.inj hj).symm
      | obj _ => exact .inr (Option.some.inj hj).symm
      | _ => simp at hj
  | _ => simp [compoundTag?] at hj

/-! ## Lists of commands -/

variable {items : List Json}

theorem readCommands_of_plain (h : ∀ j ∈ items, ¬ j.HasCompoundTag) : readCommands (.arr items) =
    match readPlainCommands (.arr items) with
    | .accepted cs => .ok cs
    | .refused complaints => .error (.refused complaints) := by
  have hnone := firstCompoundTag?_eq_none_iff.2 h
  cases hread : readPlainCommands (.arr items) <;> simp [readCommands, hnone, hread]

/-- **What stops a list**: an item whose tag is a list or an object, whatever the others are -/
theorem readCommands_stopped_iff : (∃ j ∈ items, j.HasCompoundTag) ↔
    readCommands (.arr items) = .error .listTag ∨ readCommands (.arr items) = .error .objectTag := by
  cases htag : firstCompoundTag? (.arr items) with
  | none =>
    have hplain := firstCompoundTag?_eq_none_iff.1 htag
    rw [readCommands_of_plain hplain]
    refine iff_of_false (fun ⟨j, hj, h⟩ => hplain j hj h) ?_
    cases readPlainCommands (.arr items) <;> simp
  | some m =>
    have hstopped : readCommands (.arr items) = .error m := by rw [readCommands, htag]
    refine iff_of_true ?_ ?_
    · by_contra hnone
      rw [firstCompoundTag?_eq_none_iff.2 fun j hj h => hnone ⟨j, hj, h⟩] at htag
      exact absurd htag (by simp)
    · rw [hstopped]
      rcases firstCompoundTag?_cases htag with rfl | rfl
      · exact .inl rfl
      · exact .inr rfl

namespace Command

variable {o : Object} {tag : String}

/-- an object with a tag outside the ten and a name that cannot be written -/
theorem read_of_half_name (htype : Object.get? o "type" = some (.str tag)) (htag : Kind.ofTag? tag = none)
    (hname : ¬ ∀ m ∈ o, Text.isWhole m.1 = true) : Command.read (.obj o) = .refused [⟨[unknownStep], .notUnicode⟩] := by
  have hkind : kindOfObject? o = none := by
    rw [kindOfObject?, htype]
    exact htag
  have hall : ¬ (o.all fun m => Text.isWhole m.1) = true := fun h => hname (List.all_eq_true.1 h)
  rw [Command.read, hkind]
  simp only [unknownOfObject, if_neg hall]
  rfl

end Command

/-- **A list of commands is read item by item.** If no item has a tag that is a list or an object, the list is read exactly
if every item alone is, as what the items are read as, in order; and if some item is not, the complaints are those about
every item, in order, each with the number of its item put first. An item with a tag that is a list or an object stops the
list, whatever the others are, and nothing else does. An object with a tag outside the ten is read as a command that is not
understood and keeps all other members as they are, unless the name of a member holds half a character; then that is the
one complaint. -/
theorem readCommands_items (items : List Json) :
    ((∀ j ∈ items, ¬ j.HasCompoundTag) →
      (∀ cs, readCommands (.arr items) = .ok cs ↔ List.Forall₂ (fun j c => Command.read j = .accepted c) items cs) ∧
      ((∃ cs, readCommands (.arr items) = .ok cs) ↔ ∀ j ∈ items, ∃ c, Command.read j = .accepted c) ∧
      (¬ (∀ j ∈ items, ∃ c, Command.read j = .accepted c) → readCommands (.arr items) = .error (.refused
        (items.zipIdx.flatMap fun p => (Command.read p.1).complaints.map (Complaint.under (.index p.2)))))) ∧
    ((∃ j ∈ items, j.HasCompoundTag) ↔
      readCommands (.arr items) = .error .listTag ∨ readCommands (.arr items) = .error .objectTag) ∧
    ∀ o tag, Object.get? o "type" = some (.str tag) → Kind.ofTag? tag = none →
      ((∀ m ∈ o, Text.isWhole m.1 = true) →
        Command.read (.obj o) = .accepted (.unknown tag (o.filter fun m => m.1 != "type"))) ∧
      (¬ (∀ m ∈ o, Text.isWhole m.1 = true) →
        Command.read (.obj o) = .refused [⟨[Command.unknownStep], .notUnicode⟩]) := by
  refine ⟨fun hplain => ?_, readCommands_stopped_iff, fun o tag htype htag => ⟨fun hnames => ?_, fun hname => ?_⟩⟩
  · have hok : ∀ cs, readCommands (.arr items) = .ok cs ↔
        List.Forall₂ (fun j c => Command.read j = .accepted c) items cs := by
      intro cs
      rw [readCommands_eq_ok]
      simp only [Json.arr.injEq, exists_eq_left', List.forall₂_and_left, compoundTag?_eq_none_iff]
      exact and_iff_right hplain
    refine ⟨hok, ?_, fun hrefused => ?_⟩
    · simp only [hok]
      exact exists_forall₂_iff
    · have hlist : ¬ ∃ cs, readPlainCommands (.arr items) = .accepted cs := by
        rintro ⟨cs, hcs⟩
        obtain ⟨_, heq, hread⟩ := list_eq_accepted.1 hcs
        rw [← Json.arr.inj heq] at hread
        exact hrefused (exists_forall₂_iff.1 ⟨cs, hread⟩)
      rw [readCommands_of_plain hplain, eq_refused hlist]
      exact congrArg (fun cs => Except.error (Misread.refused cs)) (complaints_eachFrom Command.read 0 items)
  · exact Command.read_eq_unknown.2 ⟨o, rfl, htype, htag, hnames, rfl⟩
  · exact Command.read_of_half_name htype htag hname

/-- a trim without times, one that is read and an item that is no object; then the same with an item that stops them all; and
a command that is not understood -/
theorem readCommands_items_mixed :
    let trim : Json := .obj [("type", .str "trim"), ("startTime", .real .nan), ("end_time", .real (.infinite false))]
    let bare : Json := .obj [("type", .str "trim")]
    let stop : Json := .obj [("type", .arr [.str "trim"])]
    let items : List Json := [bare, trim, .null]
    (∀ j ∈ items, ¬ j.HasCompoundTag) ∧ ¬ (∀ j ∈ items, ∃ c, Command.read j = .accepted c) ∧
      readCommands (.arr items) = .error (.refused [⟨[.index 0, .key "trim", .key "startTime"], .missing⟩,
        ⟨[.index 0, .key "trim", .key "endTime"], .missing⟩,
        ⟨[.index 2, .key "unknown"], .notRecord "UnknownCommand"⟩]) ∧
      (readCommands (.arr (items ++ [stop])) = .error .listTag ∨
        readCommands (.arr (items ++ [stop])) = .error .objectTag) ∧
      Command.read (.obj [("curve", .null), ("type", .str "speed_ramp")]) =
        .accepted (.unknown "speed_ramp" [("curve", .null)]) := by
  intro trim bare stop items
  have hplain : ∀ j ∈ items, ¬ j.HasCompoundTag := by
    simp only [items, List.forall_mem_cons, ← compoundTag?_eq_none_iff]
    exact ⟨rfl, rfl, rfl, List.forall_mem_nil _⟩
  have hbare : Command.read bare = .refused [⟨[.key "trim", .key "startTime"], .missing⟩,
      ⟨[.key "trim", .key "endTime"], .missing⟩] := rfl
  have htrim : Command.read trim = .accepted (.trim .nan (.infinite false)) := rfl
  have hnull : Command.read .null = .refused [⟨[.key "unknown"], .notRecord "UnknownCommand"⟩] := rfl
  have hrefused : ¬ ∀ j ∈ items, ∃ c, Command.read j = .accepted c := by
    intro h
    obtain ⟨c, hc⟩ := h bare List.mem_cons_self
    exact absurd (hbare.symm.trans hc) (by simp)
  obtain ⟨hitems, -, hunknown⟩ := readCommands_items items
  refine ⟨hplain, hrefused, ?_, ?_, ?_⟩
  · rw [(hitems hplain).2.2 hrefused]
    simp only [items, List.zipIdx_cons, List.zipIdx_nil, List.flatMap_cons, List.flatMap_nil, hbare, htrim, hnull]
    rfl
  · exact (readCommands_items (items ++ [stop])).2.1.1 ⟨stop, by simp, .inl ⟨_, rfl⟩⟩
  · exact (hunknown _ "speed_ramp" rfl rfl).1 (by decide)

/-- **A tag outside the ten is not enough**: a member whose name holds half a character is refused, and the command with it -/
theorem readCommands_items_half_name :
    let o : Object := [("type", .str "zoom"), (Text.text [0xd800], .int 1)]
    Object.get? o "type" = some (.str "zoom") ∧ Kind.ofTag? "zoom" = none ∧ ¬ ∃ c, Command.read (.obj o) = .accepted c := by
  intro o
  have htype : Object.get? o "type" = some (.str "zoom") := rfl
  have hname : ¬ ∀ m ∈ o, Text.isWhole m.1 = true := by decide +kernel
  have hread := Command.read_of_half_name htype rfl hname
  refine ⟨htype, rfl, ?_⟩
  rintro ⟨c, hc⟩
  exact absurd (hread.symm.trans hc) (by simp)

end EditPlan
