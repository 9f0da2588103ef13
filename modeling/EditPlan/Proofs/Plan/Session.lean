import EditPlan.Proofs.Plan.Steps
import EditPlan.Plan.Planner

/-!
What a planner remembers between two plans: nothing. A plan starts from its context alone, so whatever was asked before, and
however it ended, the next brief gets what a planner gets that was never asked.

Main statements:
- `turn_eq_fresh`: one turn is that of a fresh planner;
- `getElem?_session`: a session turn by turn, each with the planner that the turns before it left;
- `session_forgets`: every turn of every session is that of a fresh planner.
Witness:
- `session_forgets_stopped_trim`: documents that cannot be read, behind a plan that stopped half-way.
-/

namespace EditPlan

open Number

variable {ν : Type} [Number ν] {planner : Planner ν}

namespace Planner

/-! ## One turn -/

theorem setup_turn (planner : Planner ν) (q : Question ν) : (planner.turn q).planner.setup = planner.setup := by
  cases q <;> rfl

/-- **One turn**: a brief gets what a fresh planner gives, and leaves what it leaves there -/
theorem turn_eq_fresh (planner : Planner ν) (brief : Brief ν) :
    planner.turn (.ok brief) = (fresh planner.setup).turn (.ok brief) := rfl

/-! ## A session -/

theorem setup_after (planner : Planner ν) (qs : List (Question ν)) : (planner.after qs).setup = planner.setup := by
  induction qs generalizing planner with
  | nil => rfl
  | cons q qs ih => exact (ih (planner.turn q).planner).trans (setup_turn planner q)

theorem length_session (planner : Planner ν) (qs : List (Question ν)) : (planner.session qs).length = qs.length := by
  induction qs generalizing planner with
  | nil => rfl
  | cons q qs ih => exact congrArg (· + 1) (ih (planner.turn q).planner)

theorem after_take_succ {qs : List (Question ν)} {i : ℕ} {q : Question ν} (h : qs[i]? = some q) :
    planner.after (qs.take (i + 1)) = ((planner.after (qs.take i)).turn q).planner := by
  rw [List.take_add_one, h, Option.toList_some]
  exact List.foldl_append

/-- each turn is answered by the planner that the turns before it left -/
theorem getElem?_session (planner : Planner ν) (qs : List (Question ν)) (i : ℕ) :
    (planner.session qs)[i]? = qs[i]?.map (planner.after (qs.take i)).turn := by
  induction qs generalizing planner i with
  | nil => rfl
  | cons q qs ih =>
    cases i with
    | zero => rfl
    | succ i => exact ih (planner.turn q).planner i

end Planner

theorem Planner.state_plan (planner : Planner ν) (context : Option (VideoContext ν)) (cs : List (Command ν)) :
    let start := (Progress.start planner.setup.source context).state
    let outcome := planner.plan context cs
    (∃ plan, outcome.result = .ok plan) ∧ outcome.planner.state = start.behind cs ∨
    ∃ e front c back input, outcome.result = .error e ∧ cs = front ++ c :: back ∧
      c.build planner.setup (start.behind front) input = .error e ∧
      outcome.planner.state = c.advance (start.behind front) := by
  intro start outcome
  set p : Progress ν := .start planner.setup.source context
  rcases @Progress.state_run ν _ planner.setup p rfl cs with
    ⟨hnone, hall⟩ | ⟨e, front, c, back, input, hstop, hsplit, hbuild, hlast⟩
  · exact Or.inl ⟨⟨_, plan_eq_ok.2 ⟨hnone, rfl⟩⟩, hall⟩
  · exact Or.inr ⟨e, front, c, back, input, plan_eq_error.2 hstop, hsplit, hbuild, hlast⟩

/-- **The history of a planner never shows.** In every session, whatever was asked before and however it ended, a brief gets
the plan or the fault, the reports and the planner afterwards that it gets from a fresh planner; the state left is that of
the context behind all its commands or, if the plan stopped half-way, behind those up to the one that has no operation.
Documents that do not read as a brief are answered with the reason and leave the planner as it was. -/
theorem session_forgets (planner : Planner ν) (qs : List (Question ν)) :
    (planner.session qs).length = qs.length ∧
    ∀ (i : ℕ) (turn : Turn ν), (planner.session qs)[i]? = some turn →
      turn.planner = planner.after (qs.take (i + 1)) ∧
      (∀ brief, qs[i]? = some (.ok brief) →
        let start := (Progress.start planner.setup.source brief.context).state
        let alone := (Planner.fresh planner.setup).plan brief.context brief.commands
        turn.answer = .ok alone.result ∧ turn.events = alone.events ∧ turn.planner = alone.planner ∧
        ((∃ plan, alone.result = .ok plan) ∧ turn.planner.state = start.behind brief.commands ∨
          ∃ e front c back input, alone.result = .error e ∧ brief.commands = front ++ c :: back ∧
            c.build planner.setup (start.behind front) input = .error e ∧
            turn.planner.state = c.advance (start.behind front))) ∧
      ∀ why, qs[i]? = some (.error why) → turn.answer = .error why ∧ turn.planner = planner.after (qs.take i) := by
  refine ⟨planner.length_session qs, ?_⟩
  intro i turn hturn
  rw [Planner.getElem?_session] at hturn
  refine ⟨?_, ?_, ?_⟩
  · obtain ⟨q, hq, rfl⟩ := Option.map_eq_some_iff.1 hturn
    exact (Planner.after_take_succ hq).symm
  · intro brief hbrief start alone
    rw [hbrief, Option.map_some, Option.some.injEq, Planner.turn_eq_fresh, Planner.setup_after] at hturn
    subst hturn
    exact ⟨rfl, rfl, rfl, (Planner.fresh planner.setup).state_plan brief.context brief.commands⟩
  · intro why hwhy
    rw [hwhy, Option.map_some, Option.some.injEq] at hturn
    subst hturn
    exact ⟨rfl, rfl⟩

/-- a plan that stops half-way, documents that lack a field, and a plan behind them -/
theorem session_forgets_stopped_trim :
    let planner := Planner.ofSettings {} "in.mp4" (some "/w") none
    let stopped : Brief Binary64 := ⟨[.trim one (ofRat 3), .trim zero (.infinite false), .cut []], none⟩
    let unread : Question Binary64 := Brief.read (.arr [.obj [("type", .str "trim")]]) none true
    let last : Brief Binary64 := ⟨[.cut [⟨one, ofRat 2⟩]], some { duration := some (ofRat 10), hasAudio := false }⟩
    let turns := planner.session [.ok stopped, unread, .ok last]
    turns.map (fun t => t.planner.state) =
        [⟨2, some (.infinite false), true⟩, ⟨2, some (.infinite false), true⟩, ⟨1, some (ofRat 9), false⟩] ∧
      ∃ turn, turns[2]? = some turn ∧
        turn.answer = .ok ((Planner.fresh planner.setup).plan last.context last.commands).result ∧
        turn.planner = ((Planner.fresh planner.setup).plan last.context last.commands).planner := by
  intro planner stopped unread last turns
  obtain ⟨-, hbriefs, -⟩ := (session_forgets planner [.ok stopped, unread, .ok last]).2 2 _ rfl
  obtain ⟨hanswer, -, hplanner, -⟩ := hbriefs last rfl
  exact ⟨by decide +kernel, _, rfl, hanswer, hplanner⟩

end EditPlan
