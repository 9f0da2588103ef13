import EditPlan.Proofs.Wire.Record
import EditPlan.Command.Document

/-!
Commands written as documents and read again. A document of a command of one of the ten kinds reads as that command, in
every style: under wire or plain names, with its nulls or without. A command that is not understood keeps its tag.

Main statements:
- `Command.read_write`: the ten kinds;
- `Command.read_eq_unknown`: what a command that is not understood is read from;
- `readCommands_eq_ok`: lists, item by item.
-/

namespace EditPlan

open Wire Checked

/-! ## Parts of commands -/

theorem number_real (x : Binary64) : (Json.real x).isNull = false ∧ number (.real x) = .accepted x := ⟨rfl, rfl⟩

theorem text_str (s : String) : (Json.str s).isNull = false ∧ text (.str s) = .accepted s := ⟨rfl, rfl⟩

theorem Segment.read_write (style : Style) (s : Segment Binary64) : Segment.read (s.write style) = .accepted s := by
  have hapart : [Field.startTime, Field.endTime].Pairwise FieldName.Apart := by decide
  apply record_eq_accepted.2
  refine ⟨_, rfl, ?_⟩
  exact both_accepted (required_record hapart 0 rfl rfl rfl) (required_record hapart 1 rfl rfl rfl)

theorem CaptionStyle.read_write (style : Style) (s : CaptionStyle) :
    CaptionStyle.read (s.write style) = .accepted s := by
  have hapart : [Field.fontFamily, Field.fontSize, Field.fontColor, Field.backgroundColor, Field.position,
      Field.outline].Pairwise FieldName.Apart := by decide
  apply record_eq_accepted.2
  refine ⟨_, rfl, ?_⟩
  refine and_accepted (and_accepted (and_accepted (and_accepted (and_accepted (map_accepted ?_) ?_) ?_) ?_) ?_) ?_
  · exact optional_record hapart 0 rfl rfl rfl
  · exact optional_record hapart 1 rfl rfl rfl
  · exact optional_record hapart 2 rfl rfl rfl
  · exact optional_record hapart 3 rfl rfl rfl
  · exact optional_record hapart 4 rfl rfl rfl
  · exact optional_record hapart 5 rfl rfl rfl

theorem ColorAdjustments.read_write (style : Style) (a : ColorAdjustments Binary64) :
    ColorAdjustments.read (a.write style) = .accepted a := by
  have hapart : [Field.brightness, Field.contrast, Field.saturation, Field.temperature, Field.tint,
      Field.exposure].Pairwise FieldName.Apart := by decide
  apply record_eq_accepted.2
  refine ⟨_, rfl, ?_⟩
  refine and_accepted (and_accepted (and_accepted (and_accepted (and_accepted (map_accepted ?_) ?_) ?_) ?_) ?_) ?_
  · exact optional_record_orNull hapart 0 rfl number_real
  · exact optional_record_orNull hapart 1 rfl number_real
  · exact optional_record_orNull hapart 2 rfl number_real
  · exact optional_record_orNull hapart 3 rfl number_real
  · exact optional_record_orNull hapart 4 rfl number_real
  · exact optional_record_orNull hapart 5 rfl number_real

theorem AudioParams.read_write (style : Style) (p : AudioParams Binary64) :
    AudioParams.read (p.write style) = .accepted p := by
  have hapart : [Field.volume, Field.musicUrl, Field.musicVolume, Field.fadeDuration,
      Field.noiseReduction].Pairwise FieldName.Apart := by decide
  apply record_eq_accepted.2
  refine ⟨_, rfl, ?_⟩
  refine and_accepted (and_accepted (and_accepted (and_accepted (map_accepted ?_) ?_) ?_) ?_) ?_
  · exact optional_record_orNull hapart 0 rfl number_real
  · exact optional_record_orNull hapart 1 rfl text_str
  · exact optional_record_orNull hapart 2 rfl number_real
  · exact optional_record_orNull hapart 3 rfl number_real
  · exact optional_record_orNull hapart 4 rfl number_real

namespace Command

variable {style : Style} {c : Command Binary64} {k : Kind} {o : Object} {tag : String} {extras : Object}

/-! ## The ten kinds -/

theorem apart_fields (style : Style) (c : Command Binary64) :
    (((Field.type, Json.str c.tag) :: c.fields style).map Prod.fst).Pairwise FieldName.Apart := by
  cases c <;> simp only [fields, List.map_cons, List.map_nil] <;> decide

theorem ofObject_record (style : Style) (hk : c.kind? = some k) :
    ofObject (style.record ((Field.type, .str c.tag) :: c.fields style)) k = .accepted c := by
  have hapart := apart_fields style c
  cases c with
  | unknown tag extras => exact absurd hk (by simp [kind?])
  | trim start stop =>
    rw [← Option.some.inj hk]
    exact both_accepted (required_record hapart 1 rfl rfl rfl) (required_record hapart 2 rfl rfl rfl)
  | cut segments =>
    rw [← Option.some.inj hk]
    have hsegments : list Segment.read (.arr (segments.map (Segment.write style))) = .accepted segments :=
      list_map fun s _ => s.read_write style
    exact map_accepted (optional_record hapart 1 rfl rfl hsegments)
  | removeSilence threshold minDuration padding =>
    rw [← Option.some.inj hk]
    refine and_accepted (and_accepted (map_accepted ?_) ?_) ?_
    · exact optional_record_orNull hapart 1 rfl number_real
    · exact optional_record hapart 2 rfl rfl rfl
    · exact optional_record hapart 3 rfl rfl rfl
  | addCaptions look language =>
    rw [← Option.some.inj hk]
    exact both_accepted (optional_record hapart 1 rfl rfl (look.read_write style)) (optional_record hapart 2 rfl rfl rfl)
  | colorCorrection adjustments preset =>
    rw [← Option.some.inj hk]
    exact both_accepted (optional_record hapart 1 rfl rfl (adjustments.read_write style))
      (optional_record_orNull hapart 2 rfl text_str)
  | audio action params =>
    rw [← Option.some.inj hk]
    exact both_accepted (required_record hapart 1 rfl rfl rfl)
      (optional_record hapart 2 rfl rfl (params.read_write style))
  | transition name duration position =>
    rw [← Option.some.inj hk]
    refine and_accepted (and_accepted (map_accepted ?_) ?_) ?_
    · exact required_record hapart 1 rfl rfl rfl
    · exact optional_record hapart 2 rfl rfl rfl
    · exact optional_record hapart 3 rfl rfl rfl
  | effect name intensity params =>
    rw [← Option.some.inj hk]
    refine and_accepted (and_accepted (map_accepted ?_) ?_) ?_
    · exact required_record hapart 1 rfl rfl rfl
    · exact optional_record hapart 2 rfl rfl rfl
    · exact optional_record hapart 3 rfl rfl rfl
  | exportVideo format resolution aspectRatio quality fps =>
    rw [← Option.some.inj hk]
    refine and_accepted (and_accepted (and_accepted (and_accepted (map_accepted ?_) ?_) ?_) ?_) ?_
    · exact optional_record hapart 1 rfl rfl rfl
    · exact optional_record hapart 2 rfl rfl rfl
    · exact optional_record hapart 3 rfl rfl rfl
    · exact optional_record hapart 4 rfl rfl rfl
    · exact optional_record hapart 5 rfl rfl rfl
  | thumbnail count look timestamps =>
    rw [← Option.some.inj hk]
    have htimes : ∀ ts : List Binary64, (Json.arr (ts.map .real)).isNull = false ∧
        list number (.arr (ts.map .real)) = .accepted ts := fun ts => ⟨rfl, list_map fun x _ => (number_real x).2⟩
    refine and_accepted (and_accepted (map_accepted ?_) ?_) ?_
    · exact optional_record hapart 1 rfl rfl rfl
    · exact optional_record hapart 2 rfl rfl rfl
    · exact optional_record_orNull hapart 3 rfl htimes

theorem get?_type_record (style : Style) (tag : String) (fields : List (FieldName × Json)) :
    Object.get? (style.record ((Field.type, .str tag) :: fields)) "type" = some (.str tag) := by
  have hname : style.name Field.type = "type" := by
    unfold Style.name
    split_ifs <;> rfl
  have hkept : style.drops (.str tag) = false := Bool.and_false _
  rw [record_cons, hkept, hname]
  exact get?_cons_self

theorem kindOfObject?_record (style : Style) (tag : String) (fields : List (FieldName × Json)) :
    kindOfObject? (style.record ((Field.type, .str tag) :: fields)) = Kind.ofTag? tag := by
  rw [kindOfObject?, get?_type_record]

theorem write_of_kind (style : Style) (hk : c.kind? = some k) :
    c.write style = .obj (style.record ((Field.type, .str k.tag) :: c.fields style)) := by
  rw [← tag_of_kind? hk]
  cases c with
  | unknown tag extras => exact absurd hk (by simp [kind?])
  | _ => rfl

/-- **A written command of one of the ten kinds reads as that command** -/
theorem read_write (style : Style) (hk : c.kind? = some k) : Command.read (c.write style) = .accepted c := by
  have hfields := ofObject_record style hk
  rw [tag_of_kind? hk] at hfields
  rw [write_of_kind style hk, Command.read, kindOfObject?_record, Kind.ofTag?_tag]
  exact under_eq_accepted.2 hfields

/-! ## Commands that are not understood -/

theorem kind_of_ofObject (o : Object) (k : Kind) : Yields (fun c => kind? c = some k) (ofObject o k) := by
  cases k with
  | trim | addCaptions | colorCorrection | audio =>
    rw [ofObject]
    apply yields_both
    intro _ _
    rfl
  | cut =>
    rw [ofObject]
    apply yields_map
    intro _
    rfl
  | removeSilence | transition | effect | thumbnail =>
    rw [ofObject]
    exact ((yields_map (fun _ _ _ => rfl) _).and _).and _
  | exportVideo =>
    rw [ofObject]
    exact ((((yields_map (fun _ _ _ _ _ => rfl) _).and _).and _).and _).and _

/-- a command that is not understood has a tag outside the ten, and names that can be written -/
structure IsUnknown (tag : String) (extras : Object) : Prop where
  tag : Kind.ofTag? tag = none
  names : ∀ m ∈ extras, Text.isWhole m.1 = true

theorem find?_type (o : Object) : find? o Field.type = (Object.get? o "type").map fun v => ("type", v) := by
  have hwire : Field.type.wire = "type" := rfl
  have hplain : Field.type.plain = "type" := rfl
  rw [find?, hwire, hplain]
  cases Object.get? o "type" <;> rfl

theorem required_type_eq_accepted : required o Field.type text = .accepted tag ↔ Object.get? o "type" = some (.str tag) := by
  rw [required_eq_accepted, find?_type]
  constructor
  · rintro ⟨name, v, hfind, hv⟩
    obtain ⟨w, hw, hwv⟩ := Option.map_eq_some_iff.1 hfind
    rw [← (Prod.mk.inj hwv).2] at hv
    cases w with
    | str s => rw [hw, Checked.accepted.inj hv]
    | _ => exact absurd hv (by simp [text, refuse])
  · intro h
    rw [h]
    exact ⟨_, _, rfl, rfl⟩

/-- **What reads as a command that is not understood**: an object with a tag outside the ten, all of whose names can be
written; its other members are kept as they are -/
theorem read_eq_unknown {j : Json} : Command.read j = .accepted (.unknown tag extras) ↔
    ∃ o, j = .obj o ∧ Object.get? o "type" = some (.str tag) ∧ Kind.ofTag? tag = none ∧
      (∀ m ∈ o, Text.isWhole m.1 = true) ∧ o.filter (fun m => m.1 != "type") = extras := by
  constructor
  · intro h
    cases j with
    | obj o =>
      rw [Command.read] at h
      cases hkind : kindOfObject? o with
      | some k =>
        rw [hkind] at h
        exact absurd (kind_of_ofObject o k _ (under_eq_accepted.1 h)) (by simp [kind?])
      | none =>
        rw [hkind] at h
        have hread := under_eq_accepted.1 h
        unfold unknownOfObject at hread
        split_ifs at hread with hnames
        · obtain ⟨tag', htag, hmade⟩ := map_eq_accepted.1 hread
          obtain ⟨rfl, rfl⟩ := Command.unknown.inj hmade
          have htype := required_type_eq_accepted.1 htag
          rw [kindOfObject?, htype] at hkind
          exact ⟨o, rfl, htype, hkind, List.all_eq_true.1 hnames, rfl⟩
        · exact absurd hread (by simp [refuse])
    | _ => exact absurd h (by simp [Command.read, refuse, under])
  · rintro ⟨o, rfl, htype, htag, hnames, rfl⟩
    have hkind : kindOfObject? o = none := by
      rw [kindOfObject?, htype]
      exact htag
    rw [Command.read, hkind]
    apply under_eq_accepted.2
    rw [unknownOfObject, if_pos (List.all_eq_true.2 hnames), required_type_eq_accepted.2 htype]
    rfl

/-- **A command is read as not understood only for a tag outside the ten** -/
theorem isUnknown_of_read {j : Json} (h : Command.read j = .accepted (.unknown tag extras)) : IsUnknown tag extras := by
  obtain ⟨o, -, -, htag, hnames, rfl⟩ := read_eq_unknown.1 h
  exact ⟨htag, fun m hm => hnames m (List.mem_filter.1 hm).1⟩

/-- **A document with a tag outside the ten reads as a command that is not understood** -/
theorem read_unknown (h : IsUnknown tag extras) : Command.read (.obj (("type", .str tag) :: extras)) =
    .accepted (.unknown tag (extras.filter fun m => m.1 != "type")) := by
  apply read_eq_unknown.2
  refine ⟨_, rfl, get?_cons_self, h.tag, ?_, ?_⟩
  · rw [List.forall_mem_cons]
    exact ⟨Text.isWhole_ofList rfl, h.names⟩
  · rw [List.filter_cons_of_neg (by simp)]

end Command

/-! ## Lists -/

theorem compoundTag?_of_str {o : Object} {tag : String} (h : Object.get? o "type" = some (.str tag)) :
    compoundTag? (.obj o) = none := by
  rw [compoundTag?, h]

theorem compoundTag?_write (style : Style) (c : Command Binary64) : compoundTag? (c.write style) = none := by
  cases c with
  | unknown tag extras => exact compoundTag?_of_str get?_cons_self
  | _ => exact compoundTag?_of_str (Command.get?_type_record style _ _)

/-- **A list of commands is read item by item**, unless one of them has a tag that is a list or an object -/
theorem readCommands_eq_ok {j : Json} {cs : List (Command Binary64)} : readCommands j = .ok cs ↔ ∃ items, j = .arr items ∧
    List.Forall₂ (fun x c => compoundTag? x = none ∧ Command.read x = .accepted c) items cs := by
  simp only [List.forall₂_and_left]
  constructor
  · intro h
    unfold readCommands at h
    split at h
    · exact absurd h (by simp)
    · next htags =>
      split at h
      · next hplain =>
        obtain ⟨items, rfl, hread⟩ := list_eq_accepted.1 hplain
        rw [← Except.ok.inj h]
        exact ⟨items, rfl, List.findSome?_eq_none_iff.1 htags, hread⟩
      · exact absurd h (by simp)
  · rintro ⟨items, rfl, htags, hread⟩
    have hnone : firstCompoundTag? (.arr items) = none := List.findSome?_eq_none_iff.2 htags
    have hplain : readPlainCommands (.arr items) = .accepted cs := list_eq_accepted.2 ⟨items, rfl, hread⟩
    rw [readCommands, hnone, hplain]

end EditPlan
