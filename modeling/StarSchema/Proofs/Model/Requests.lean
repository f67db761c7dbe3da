import StarSchema.Proofs.Labels.Record
import StarSchema.Proofs.Model.Filters
import StarSchema.Proofs.Star.Filters

/-!
# What a model's requests do to one of its stars

A model is asked for many things: values are set and cleared in the filters of any star, labels are
fetched and refreshed, rows are fetched. All that a run of such requests does to one star is what
those among them do that set or clear its own filters. Whatever else is asked, and whatever the
executor answers, the star does not see it.

Main definitions: `ModelRequest`, `ModelRequest.run`, `FilterRequest.onStar?`.

Main results: `Model.star_runFilters`, `ModelRequest.star_run`.
-/

namespace StarSchema

variable {σ : Type}

/-! ### Requests to filters -/

namespace FilterRequest

/-- The star whose filters are meant. -/
def star : FilterRequest → String
  | .set name _ _ => name
  | .clear name => name

/-- What is asked of that star. -/
def request : FilterRequest → StarRequest
  | .set _ filter input => .set filter input
  | .clear _ => .clear

/-- What is asked of a star, if it is the one that is meant. -/
def onStar? (name : String) (r : FilterRequest) : Option StarRequest :=
  if r.star = name then some r.request else none

end FilterRequest

/-- Nothing is asked of a star, or of its failure. -/
theorem Star.map_run_nil {ε : Type} (x : Except ε Star) : x.map (·.run []) = x := by
  cases x <;> rfl

namespace Model

/-- A request is one to the star that is meant. -/
theorem operation_eq (r : FilterRequest) :
    r.operation = Model.onStar r.star r.request.operation := by
  cases r <;> rfl

/-- A star that is there can be replaced, and no other star sees it. -/
theorem star_replaceStar_eq {m : Model} {name : String} {s : Star} (hs : m.star name = .ok s)
    (s' : Star) (other : String) :
    (m.replaceStar name s').star other = if name = other then .ok s' else m.star other := by
  rw [star, lookup_replaceStar]
  by_cases same : name = other
  · subst same
    rw [if_pos rfl, if_pos rfl, star_eq_ok_iff.mp hs]
    rfl
  · rw [if_neg (Ne.symm same), if_neg same, star]

/-- A star after a request to some filter, which is to its own filters or does not concern it. -/
theorem star_after_operation (m : Model) (r : FilterRequest) (name : String) :
    (r.operation.after m).star name =
      (m.star name).map (·.run (r.onStar? name).toList) := by
  rw [operation_eq, after_onStar, FilterRequest.onStar?]
  by_cases meant : r.star = name
  · subst meant
    rw [if_pos rfl]
    cases hs : m.star r.star with
    | error e => exact hs
    | ok s => exact (star_replaceStar_eq hs (r.request.operation.after s) _).trans (if_pos rfl)
  · rw [if_neg meant]
    refine Eq.trans ?_ (Star.map_run_nil _).symm
    cases hs : m.star r.star with
    | error e => rfl
    | ok s => exact (star_replaceStar_eq hs (r.request.operation.after s) _).trans (if_neg meant)

/-- Requests to filters leave views, tables and labels as they are. -/
theorem others_after_operation (m : Model) (r : FilterRequest) :
    (r.operation.after m).views = m.views ∧ (r.operation.after m).catalog = m.catalog ∧
      (r.operation.after m).labels = m.labels := by
  rw [operation_eq, after_onStar]
  cases m.star r.star <;> exact ⟨rfl, rfl, rfl⟩

/-- **A star after requests to the filters of a model** has seen those to its own filters. -/
theorem star_runFilters (m : Model) (requests : List FilterRequest) (name : String) :
    (m.runFilters requests).star name =
      (m.star name).map (·.run (requests.filterMap (·.onStar? name))) := by
  induction requests generalizing m with
  | nil => exact (Star.map_run_nil _).symm
  | cons r requests ih =>
    show ((r.operation.after m).runFilters requests).star name = _
    rw [ih, star_after_operation, List.filterMap_cons]
    cases m.star name <;> cases r.onStar? name <;> rfl

theorem view_runFilters (m : Model) (requests : List FilterRequest) (name : String) :
    (m.runFilters requests).view name = m.view name := by
  induction requests generalizing m with
  | nil => rfl
  | cons r requests ih =>
    show ((r.operation.after m).runFilters requests).view name = _
    rw [ih, view, view, (m.others_after_operation r).1]

end Model

/-! ### Requests of every kind -/

/-- What is asked of a model: of its filters, of its labels, or for the rows of a star or view. -/
inductive ModelRequest where
  | filter (r : FilterRequest)
  | labels (r : LabelRequest)
  | fetchStar (name : String)
  | fetchView (name : String)

namespace ModelRequest

/-- What is asked of the filters of a star. -/
def onStar? (name : String) : ModelRequest → Option StarRequest
  | .filter r => r.onStar? name
  | _ => none

/-- The model and the state of the executor as a request leaves them. -/
def apply (exec : Executor σ) : ModelRequest → Model × σ → Model × σ
  | .filter r, (m, state) => (r.operation.after m, state)
  | .labels r, before => r.apply exec before
  | .fetchStar name, (m, state) => (m, (m.fetchStar exec name state).2)
  | .fetchView name, (m, state) => (m, (m.fetchView exec name state).2)

/-- The model and the state of the executor after a run. -/
def run (exec : Executor σ) (requests : List ModelRequest) (before : Model × σ) : Model × σ :=
  requests.foldl (fun before r => r.apply exec before) before

/-- Labels are kept apart from stars. -/
theorem stars_labels (exec : Executor σ) (r : LabelRequest) (m : Model) (state : σ) :
    (r.apply exec (m, state)).1.stars = m.stars := by
  cases r with
  | foreignKeys name => rfl
  | refresh name =>
    show ((Model.invalidate name).after m).stars = m.stars
    rw [Model.after_invalidate]

theorem star_apply (exec : Executor σ) (r : ModelRequest) (m : Model) (state : σ)
    (name : String) :
    (r.apply exec (m, state)).1.star name = (m.star name).map (·.run (r.onStar? name).toList) := by
  have unchanged := Star.map_run_nil (m.star name)
  cases r with
  | filter r => exact m.star_after_operation r name
  | labels r =>
    refine Eq.trans ?_ unchanged.symm
    show (r.apply exec (m, state)).1.star name = m.star name
    rw [Model.star, Model.star, stars_labels]
  | fetchStar other => exact unchanged.symm
  | fetchView other => exact unchanged.symm

/-- **A star after a run** has seen the requests to its own filters and nothing else. -/
theorem star_run (exec : Executor σ) (requests : List ModelRequest) (before : Model × σ)
    (name : String) :
    (run exec requests before).1.star name =
      (before.1.star name).map (·.run (requests.filterMap (·.onStar? name))) := by
  induction requests generalizing before with
  | nil => exact (Star.map_run_nil _).symm
  | cons r requests ih =>
    show (run exec requests (r.apply exec before)).1.star name = _
    rw [ih, star_apply, List.filterMap_cons]
    cases before.1.star name <;> cases r.onStar? name <;> rfl

end ModelRequest

end StarSchema
