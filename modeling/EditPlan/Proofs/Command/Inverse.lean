import EditPlan.Proofs.Command.Document

/-!
Writing commands and reading them are inverse to each other. What a document of commands was read as is written under wire
names or plain names, and reads as the same again: numbers that were texts are numbers now, fields that were absent have
their usual values, and no command changes its kind. A command that is not understood is written as it came.

Main statements:
- `Command.read_write_of_read`: one command;
- `readCommands_writeCommands`: lists, with all nulls or without them.
Witness:
- `readCommands_writeCommands_mixed`: a trim, an effect and a command that is not understood.
-/

namespace EditPlan

open Wire Checked

namespace Command

variable {j : Json} {c : Command Binary64} {o : Object} {tag name : String}

/-- without the tag, an object has the same values under all other names -/
theorem get?_filter_of_ne (h : name ≠ "type") (o : Object) :
    Object.get? (o.filter fun m => m.1 != "type") name = Object.get? o name := by
  induction o with
  | nil => rfl
  | cons m o ih =>
    by_cases hm : m.1 = "type"
    · rw [List.filter_cons_of_neg (by simp [hm]), ih, get?_cons_of_ne (hm ▸ h)]
    · rw [List.filter_cons_of_pos (by simp [hm])]
      by_cases hname : name = m.1
      · rw [hname, get?_cons_self, get?_cons_self]
      · rw [get?_cons_of_ne hname, get?_cons_of_ne hname, ih]

/-- **A command that is not understood is written as it came**: under every name with the value that it was read with -/
theorem get?_write_unknown {extras : Object} (h : Command.read j = .accepted (.unknown tag extras)) (wireNames : Bool)
    (name : String) : (write ⟨wireNames, false⟩ (.unknown tag extras)).get? name = j.get? name := by
  obtain ⟨o, rfl, htype, -, -, rfl⟩ := read_eq_unknown.1 h
  show Object.get? (("type", .str tag) :: o.filter fun m => m.1 != "type") name = Object.get? o name
  by_cases hname : name = "type"
  · rw [hname, get?_cons_self, htype]
  · rw [get?_cons_of_ne hname, get?_filter_of_ne hname]

/-- **A command that was read and is written with its nulls reads as the same** -/
theorem read_write_of_read (h : Command.read j = .accepted c) (wireNames : Bool) :
    Command.read (c.write ⟨wireNames, false⟩) = .accepted c := by
  cases hk : c.kind? with
  | some k => exact read_write _ hk
  | none =>
    cases c with
    | unknown tag extras =>
      obtain ⟨o, -, -, -, -, hextras⟩ := read_eq_unknown.1 h
      -- the tag was taken out of the members when they were read, so nothing is taken out now
      have hkept : extras.filter (fun m => m.1 != "type") = extras := by
        rw [← hextras, List.filter_filter]
        simp only [Bool.and_self]
      have hread := read_unknown (isUnknown_of_read h)
      rw [hkept] at hread
      exact hread
    | _ => exact absurd hk (by simp [kind?])

end Command

/-! ## Lists -/

/-- a list that is written item by item reads as itself if each of its items does -/
theorem readCommands_of_each {style : Style} {cs : List (Command Binary64)}
    (h : ∀ c ∈ cs, Command.read (c.write style) = .accepted c) : readCommands (writeCommands style cs) = .ok cs := by
  apply readCommands_eq_ok.2
  refine ⟨_, rfl, ?_⟩
  rw [List.forall₂_map_left_iff]
  exact List.forall₂_same.2 fun c hc => ⟨compoundTag?_write style c, h c hc⟩

/-- **Writing and reading are inverse.** Let a document read as a list of commands. Written with all nulls, under wire names
or plain names, the list reads as itself again. Without the nulls it does so too if all its commands are of the ten kinds,
and even then the settings of an effect keep their nulls. A command that is not understood is written with the same value
under every name as the item that it was read from. -/
theorem readCommands_writeCommands (j : Json) (cs : List (Command Binary64)) (h : readCommands j = .ok cs)
    (wireNames : Bool) :
    readCommands (writeCommands ⟨wireNames, false⟩ cs) = .ok cs ∧
    ((∀ c ∈ cs, c.kind?.isSome = true) → readCommands (writeCommands ⟨wireNames, true⟩ cs) = .ok cs) ∧
    (∀ name intensity params, Command.effect name intensity params ∈ cs →
      (Command.write ⟨wireNames, true⟩ (.effect name intensity params)).get? "params" = some (.obj params)) ∧
    ∃ items, j = .arr items ∧ List.Forall₂ (fun item c => ∀ tag extras, c = .unknown tag extras →
      ∀ name, (c.write ⟨wireNames, false⟩).get? name = item.get? name) items cs := by
  obtain ⟨items, rfl, hitems⟩ := readCommands_eq_ok.1 h
  have hread : List.Forall₂ (fun item c => Command.read item = .accepted c) items cs := hitems.imp fun _ _ hitem => hitem.2
  refine ⟨?_, ?_, ?_, items, rfl, ?_⟩
  · apply readCommands_of_each
    intro c hc
    obtain ⟨item, -, hitem⟩ := exists_of_forall₂ hread hc
    exact Command.read_write_of_read hitem wireNames
  · intro hkinds
    apply readCommands_of_each
    intro c hc
    obtain ⟨k, hk⟩ := Option.isSome_iff_exists.1 (hkinds c hc)
    exact Command.read_write _ hk
  · intro name intensity params _
    cases wireNames <;> rfl
  · apply hread.imp
    rintro item c hitem tag extras rfl name
    exact Command.get?_write_unknown hitem wireNames name

/-- a trim under both kinds of names with a NaN, an effect with a null setting, and a command that is not understood -/
theorem readCommands_writeCommands_mixed :
    let j : Json := .arr [
      .obj [("type", .str "trim"), ("start_time", .str "NaN"), ("endTime", .bool true)],
      .obj [("type", .str "effect"), ("effectName", .str "blur"), ("params", .obj [("at", .null)])],
      .obj [("speed", .null), ("type", .str "speed_ramp"), ("curve", .arr [.int 1, .real .nan])]]
    ∃ cs, readCommands j = .ok cs ∧ readCommands (writeCommands ⟨true, false⟩ cs) = .ok cs ∧
      readCommands (writeCommands ⟨false, false⟩ cs) = .ok cs := by
  intro j
  have hread : readCommands j = .ok [.trim .nan (.ofInt 1), .effect "blur" (ratio 1 2) [("at", .null)],
    .unknown "speed_ramp" [("speed", .null), ("curve", .arr [.int 1, .real .nan])]] := rfl
  exact ⟨_, hread, (readCommands_writeCommands j _ hread true).1, (readCommands_writeCommands j _ hread false).1⟩

end EditPlan
