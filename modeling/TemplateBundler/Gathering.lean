/-! # Gathering

Actions that go on side by side end in any order. The value of each is put in the action's own
place, so the values stand in the order of the actions, whichever came first. The first action to
fail decides for all, and whatever comes after it is dropped.
-/

namespace TemplateBundler

/-- An order in which actions end, each of them once. -/
structure Completion (n : Nat) where
  order : List (Fin n)
  perm : order.Perm (List.finRange n)

namespace Completion

variable {n : Nat}

/-- The order in which the actions were begun. -/
def inOrder (n : Nat) : Completion n := ⟨List.finRange n, .refl _⟩

theorem mem_order (completion : Completion n) (place : Fin n) : place ∈ completion.order :=
  completion.perm.mem_iff.mpr (List.mem_finRange place)

end Completion

/-- How far actions that go on side by side have come. -/
inductive Gathering (ε α : Type) (n : Nat) where
  /-- None has failed, and what has come so far stands in its places. -/
  | underWay (values : Vector (Option α) n)
  | failed (error : ε)

namespace Gathering

variable {ε α : Type} {n : Nat} {actions : Fin n → Except ε α} {done : List (Fin n)}

def start : Gathering ε α n := underWay (Vector.replicate n none)

/-- Takes what has come of the action in this place. -/
def receive (gathering : Gathering ε α n) (place : Fin n) (result : Except ε α) :
    Gathering ε α n :=
  match gathering, result with
  | underWay values, .ok value => underWay (values.set place (some value))
  | underWay _, .error error => failed error
  | failed error, _ => failed error

/-- How far the actions have come when these have ended, the last one last. -/
def run (actions : Fin n → Except ε α) (done : List (Fin n)) : Gathering ε α n :=
  done.foldl (fun gathering place => gathering.receive place (actions place)) start

/-- What has come of the actions as a whole, if that is settled. -/
def result? : Gathering ε α n → Option (Except ε (List α))
  | underWay values =>
    if h : ∀ place : Fin n, values[place].isSome then
      some (.ok (List.ofFn fun place => values[place].get (h place)))
    else none
  | failed error => some (.error error)

/-- Says of a gathering what the actions that are done have made of it. -/
def Reflects (actions : Fin n → Except ε α) (done : List (Fin n)) : Gathering ε α n → Prop
  | underWay values => ∀ place : Fin n,
      (place ∈ done → ∃ value, actions place = .ok value ∧ values[place] = some value) ∧
      (place ∉ done → values[place] = none)
  | failed error => ∃ place ∈ done, actions place = .error error

theorem reflects_start : Reflects actions [] start := by
  intro place
  exact ⟨fun h => absurd h List.not_mem_nil, fun _ => Vector.getElem_replicate place.isLt⟩

theorem Reflects.receive {gathering : Gathering ε α n} (h : Reflects actions done gathering)
    (place : Fin n) :
    Reflects actions (done ++ [place]) (gathering.receive place (actions place)) := by
  cases gathering with
  | failed error =>
      obtain ⟨earlier, hmem, herror⟩ := h
      exact ⟨earlier, List.mem_append_left _ hmem, herror⟩
  | underWay values =>
      cases hresult : actions place with
      | error error => exact ⟨place, List.mem_append_right _ List.mem_cons_self, hresult⟩
      | ok value =>
          intro other
          by_cases hother : other = place
          · subst hother
            refine ⟨fun _ => ⟨value, hresult, Vector.getElem_set_self other.isLt⟩, fun hnot => ?_⟩
            exact absurd (List.mem_append_right _ List.mem_cons_self) hnot
          · have hvalue : (values.set place (some value))[other] = values[other] :=
              Vector.getElem_set_ne place.isLt other.isLt fun heq => hother (Fin.ext heq.symm)
            have hdone : other ∈ done ++ [place] ↔ other ∈ done := by simp [hother]
            rw [hdone]
            exact ⟨fun hmem => by simpa only [hvalue] using (h other).1 hmem,
              fun hnot => hvalue.trans ((h other).2 hnot)⟩

theorem reflects_run (actions : Fin n → Except ε α) (done : List (Fin n)) :
    Reflects actions done (run actions done) := by
  have hrun : ∀ (more earlier : List (Fin n)) (gathering : Gathering ε α n),
      Reflects actions earlier gathering → Reflects actions (earlier ++ more)
        (more.foldl (fun gathering place => gathering.receive place (actions place))
          gathering) := by
    intro more
    induction more with
    | nil => exact fun earlier gathering h => by simpa using h
    | cons place more ih =>
        intro earlier gathering h
        simpa using ih (earlier ++ [place]) _ (h.receive place)
  exact hrun done [] start reflects_start

/-- When all actions have ended there is a result: the values of all, or an error of one. -/
theorem exists_result?_run (actions : Fin n → Except ε α) (hdone : ∀ place, place ∈ done) :
    (∃ values, (run actions done).result? = some (.ok values) ∧
      List.ofFn actions = values.map .ok) ∨
    ∃ error, (run actions done).result? = some (.error error) ∧
      ∃ place, actions place = .error error := by
  have hreflects := reflects_run actions done
  cases hrun : run actions done with
  | failed error =>
      rw [hrun] at hreflects
      obtain ⟨place, -, herror⟩ := hreflects
      exact .inr ⟨error, rfl, place, herror⟩
  | underWay values =>
      rw [hrun] at hreflects
      have hvalue (place : Fin n) := (hreflects place).1 (hdone place)
      have hall : ∀ place : Fin n, values[place].isSome := by
        intro place
        obtain ⟨value, -, hplace⟩ := hvalue place
        rw [hplace, Option.isSome_some]
      refine .inl ⟨_, dif_pos hall, ?_⟩
      rw [List.map_ofFn]
      congr 1
      funext place
      obtain ⟨value, haction, hplace⟩ := hvalue place
      rw [haction, Function.comp_apply, Option.get_of_eq_some (hall place) hplace]

theorem isSome_result?_run (hdone : ∀ place, place ∈ done) : (run actions done).result?.isSome := by
  rcases exists_result?_run actions hdone with ⟨values, h, -⟩ | ⟨error, h, -⟩
  · rw [h, Option.isSome_some]
  · rw [h, Option.isSome_some]

end Gathering

/-- What comes of actions that go on side by side and end in this order: their values, or the error
of the first to fail. -/
def gather {ε α : Type} {n : Nat} (actions : Fin n → Except ε α) (completion : Completion n) :
    Except ε (List α) :=
  (Gathering.run actions completion.order).result?.get
    (Gathering.isSome_result?_run completion.mem_order)

theorem gather_cases {ε α : Type} {n : Nat} (actions : Fin n → Except ε α)
    (completion : Completion n) :
    (∃ values, gather actions completion = .ok values ∧ List.ofFn actions = values.map .ok) ∨
      ∃ error, gather actions completion = .error error ∧
        ∃ place, actions place = .error error := by
  rcases Gathering.exists_result?_run actions completion.mem_order with
    ⟨values, hresult, hvalues⟩ | ⟨error, hresult, hplace⟩
  · exact .inl ⟨values, Option.get_of_eq_some _ hresult, hvalues⟩
  · exact .inr ⟨error, Option.get_of_eq_some _ hresult, hplace⟩

end TemplateBundler
