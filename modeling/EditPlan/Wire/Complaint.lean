import EditPlan.Json.Basic

/-!
What is wrong with a document, and where.

Main statement: `both_eq_accepted` (a pair is accepted exactly when both parts are).
-/

namespace EditPlan.Wire

/-!
## Complaints

A complaint has a place inside the document and a cause; a document can earn
several complaints at once, and `Checked` collects them in the order in which the parts are read.
-/

inductive Step where
  | key (name : String)
  | index (i : Nat)
  deriving DecidableEq, Repr

/-- why a part of a document is refused -/
inductive Cause where
  | missing
  | notNumber
  | unreadableNumber
  | notInteger
  | fractionalInteger
  | unreadableInteger
  | oversizeInteger
  | infiniteInteger
  | notBoolean
  | unreadableBoolean
  | notText
  | notUnicode
  | notList
  | notDictionary
  | notRecord (record : String)
  | notAttributes
  | notPositive
  | malformedJson
  deriving DecidableEq, Repr

namespace Cause

def code : Cause → String
  | .missing => "missing"
  | .notNumber => "float_type"
  | .unreadableNumber => "float_parsing"
  | .notInteger => "int_type"
  | .fractionalInteger => "int_from_float"
  | .unreadableInteger => "int_parsing"
  | .oversizeInteger => "int_parsing_size"
  | .infiniteInteger => "finite_number"
  | .notBoolean => "bool_type"
  | .unreadableBoolean => "bool_parsing"
  | .notText => "string_type"
  | .notUnicode => "string_unicode"
  | .notList => "list_type"
  | .notDictionary => "dict_type"
  | .notRecord _ => "model_type"
  | .notAttributes => "model_attributes_type"
  | .notPositive => "greater_than"
  | .malformedJson => "json_invalid"

def message : Cause → String
  | .missing => "Field required"
  | .notNumber => "Input should be a valid number"
  | .unreadableNumber => "Input should be a valid number, unable to parse string as a number"
  | .notInteger => "Input should be a valid integer"
  | .fractionalInteger => "Input should be a valid integer, got a number with a fractional part"
  | .unreadableInteger => "Input should be a valid integer, unable to parse string as an integer"
  | .oversizeInteger => "Unable to parse input string as an integer, exceeded maximum size"
  | .infiniteInteger => "Input should be a finite number"
  | .notBoolean => "Input should be a valid boolean"
  | .unreadableBoolean => "Input should be a valid boolean, unable to interpret input"
  | .notText => "Input should be a valid string"
  | .notUnicode => "Input should be a valid string, unable to parse raw data as a unicode string"
  | .notList => "Input should be a valid list"
  | .notDictionary => "Input should be a valid dictionary"
  | .notRecord record => "Input should be a valid dictionary or instance of " ++ record
  | .notAttributes => "Input should be a valid dictionary or object to extract fields from"
  | .notPositive => "Input should be greater than 0"
  | .malformedJson => "JSON decode error"

end Cause

/-- a refused part: the steps that lead to it and the cause -/
structure Complaint where
  place : List Step
  cause : Cause
  deriving DecidableEq, Repr

/-- complaint about a part, seen from outside -/
def Complaint.under (step : Step) (c : Complaint) : Complaint := { c with place := step :: c.place }

/-- a value read from a document, or all complaints about it -/
inductive Checked (α : Type) where
  | accepted (a : α)
  | refused (complaints : List Complaint)
  deriving Repr

namespace Checked

variable {α β γ : Type}

/-- complaints about a document; an accepted one has none -/
def complaints : Checked α → List Complaint
  | .accepted _ => []
  | .refused cs => cs

def value? : Checked α → Option α
  | .accepted a => some a
  | .refused _ => none

/-- a single complaint about the whole document -/
def refuse (cause : Cause) : Checked α := .refused [⟨[], cause⟩]

/-- the value that there is, or a single complaint -/
def ofOption (cause : Cause) : Option α → Checked α
  | some a => .accepted a
  | none => .refuse cause

/-- change of the accepted value -/
def map (f : α → β) : Checked α → Checked β
  | .accepted a => .accepted (f a)
  | .refused cs => .refused cs

/-- two parts of one document: complaints of both are collected, those of the first part first -/
def both (f : α → β → γ) : Checked α → Checked β → Checked γ
  | .accepted a, .accepted b => .accepted (f a b)
  | .accepted _, .refused ds => .refused ds
  | .refused cs, .accepted _ => .refused cs
  | .refused cs, .refused ds => .refused (cs ++ ds)

/-- one more part for a function of parts -/
def and (f : Checked (α → β)) (x : Checked α) : Checked β := both (fun g a => g a) f x

/-- the same document, seen from outside -/
def under (step : Step) : Checked α → Checked α
  | .accepted a => .accepted a
  | .refused cs => .refused (cs.map (Complaint.under step))

/-- all parts of a list, numbered from `i` -/
def eachFrom (read : β → Checked α) (i : Nat) : List β → Checked (List α)
  | [] => .accepted []
  | x :: xs => both List.cons ((read x).under (.index i)) (eachFrom read (i + 1) xs)

def each (read : β → Checked α) (xs : List β) : Checked (List α) := eachFrom read 0 xs

theorem both_eq_accepted {f : α → β → γ} {x : Checked α} {y : Checked β} {c : γ} :
    both f x y = .accepted c ↔ ∃ a b, x = .accepted a ∧ y = .accepted b ∧ f a b = c := by
  cases x <;> cases y <;> simp [both]

theorem under_eq_accepted {step : Step} {x : Checked α} {a : α} : x.under step = .accepted a ↔ x = .accepted a := by
  cases x <;> simp [under]

end Checked

end EditPlan.Wire

namespace EditPlan.Wire

/-!
## Refused parts

The part of a document that a complaint is about.
-/

/-- part of a document to which steps lead -/
def part? : List Step → Json → Option Json
  | [], j => some j
  | .key k :: r, j => (j.get? k).bind (part? r)
  | .index i :: r, .arr items => items[i]?.bind (part? r)
  | .index _ :: _, _ => none

/-- part that is refused; for a missing part the record that lacks it -/
def Complaint.about? (c : Complaint) (j : Json) : Option Json :=
  part? (if c.cause = .missing then c.place.dropLast else c.place) j

end EditPlan.Wire
