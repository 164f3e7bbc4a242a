import MoodStore.Proofs.Listing.AnyTier
import MoodStore.Proofs.Service.Effects

/-!
The trials of an insertion.

Whatever draws the numbers and whatever inserts the rows, an insertion is a sequence of trials: a
number is drawn, and the insert is tried under the id of that number. A trial collides if the insert
reports a violated unique or primary key, by its whole result code. The first trial that does not
collide decides; after the last attempt the insertion gives up.
-/

namespace MoodStore.Ids

variable {σ α : Type} {tag : String}

inductive Step (α : Type) where
  | drew (value : UInt64)
  | tried (id : String) (outcome : Except Failure α)
  | logged (event : Event)

def Step.event? : Step α → Option Event
  | logged event => some event
  | _ => none

/-- The number drawn for an attempt, and what came of the insert. -/
structure Trial (α : Type) where
  value : UInt64
  outcome : Except Failure α

namespace Trial

/-- The id was taken. The text of the failure does not matter. -/
def collided (trial : Trial α) : Bool :=
  match trial.outcome with
  | .error (.result code _) => code == Failure.uniqueCode || code == Failure.primaryKeyCode
  | _ => false

/-- The steps of attempt number `number`. -/
def steps (tag : String) (number : ℕ) (trial : Trial α) : List (Step α) :=
  [.drew trial.value, .tried (publicId tag trial.value) trial.outcome] ++
    if trial.collided then [.logged (collision tag number)] else []

lemma isUnique_classify (value : UInt64) (failure : Failure) :
    (Fault.classify failure).isUnique = (⟨value, .error failure⟩ : Trial α).collided := by
  rcases failure with ⟨code, message⟩ | _
  case result =>
    by_cases hcode : code = Failure.uniqueCode ∨ code = Failure.primaryKeyCode
    · rcases hcode with rfl | rfl <;> rfl
    · have hcollided : (⟨value, .error (.result code message)⟩ : Trial α).collided = false := by
        rw [not_or] at hcode
        change (code == Failure.uniqueCode || code == Failure.primaryKeyCode) = false
        rw [beq_eq_false_iff_ne.mpr hcode.1, beq_eq_false_iff_ne.mpr hcode.2, Bool.or_false]
      rw [hcollided]
      simp only [Fault.classify, if_neg hcode]
      split
      · rfl
      · split <;> rfl
  all_goals rfl

end Trial

/-- The steps of trials, the first of which is attempt number `number`. -/
def stepsFrom (tag : String) (number : ℕ) : List (Trial α) → List (Step α)
  | [] => []
  | trial :: trials => trial.steps tag number ++ stepsFrom tag (number + 1) trials

/-- How `left` attempts go, the first of which is number `number`. A trial that does not collide is
the last one, and its outcome is the result. -/
inductive Course (tag : String) (number left : ℕ) :
    List (Trial α) → List (Step α) → Except InsertError α → Prop
  | decided {taken : List (Trial α)} {last : Trial α} (attempt : taken.length < left)
    (retried : ∀ trial ∈ taken, trial.collided = true) (decides : last.collided = false) :
    Course tag number left (taken ++ [last]) (stepsFrom tag number (taken ++ [last]))
      (last.outcome.mapError fun failure => .fault (.classify failure))
  | exhausted {taken : List (Trial α)} (attempts : taken.length = left)
    (retried : ∀ trial ∈ taken, trial.collided = true) :
    Course tag number left taken
      (stepsFrom tag number taken ++ [.logged (exhaustion tag maxAttempts)])
      (.error (.exhausted tag maxAttempts))

namespace Course

variable {number left : ℕ} {trials : List (Trial α)} {steps : List (Step α)}
  {result : Except InsertError α}

lemma cons {trial : Trial α} (hcollided : trial.collided = true)
    (course : Course tag (number + 1) left trials steps result) :
    Course tag number (left + 1) (trial :: trials) (trial.steps tag number ++ steps) result := by
  cases course with
  | @decided taken last attempt retried decides =>
    have hretried : ∀ other ∈ trial :: taken, other.collided = true :=
      List.forall_mem_cons.mpr ⟨hcollided, retried⟩
    exact .decided (Nat.succ_lt_succ attempt) hretried decides
  | exhausted attempts retried =>
    rw [← List.append_assoc]
    exact .exhausted (congrArg Nat.succ attempts) (List.forall_mem_cons.mpr ⟨hcollided, retried⟩)

lemma single {last : Trial α} (decides : last.collided = false) :
    Course tag number (left + 1) [last] (last.steps tag number)
      (last.outcome.mapError fun failure => .fault (.classify failure)) := by
  have course : Course tag number (left + 1) ([] ++ [last]) _ _ :=
    .decided (Nat.succ_pos left) (by simp) decides
  simpa [stepsFrom] using course

end Course

/-! ### Running the attempts -/

section Run

variable (draw : StateM σ UInt64) (insert : String → StateM σ (Except Failure α))
  (emit : Event → StateM σ Unit)

/-- One attempt: a draw, and an insert under the id of the number. -/
def attempt (tag : String) : StateM σ (Trial α) := do
  let value ← draw
  return ⟨value, ← insert (publicId tag value)⟩

lemma insertFrom_attempt (number left : ℕ) (s : σ) :
    insertFrom tag draw insert emit number (left + 1) s =
      let (trial, tried) := attempt draw insert tag s
      if trial.collided then
        insertFrom tag draw insert emit (number + 1) left (emit (collision tag number) tried).2
      else (trial.outcome.mapError fun failure => .fault (.classify failure), tried) := by
  simp only [insertFrom_succ, attempt, bind, StateT.bind]
  rcases draw s with ⟨value, drawn⟩
  rcases hinsert : insert (publicId tag value) drawn with ⟨failure | row, tried⟩
  · simp only [hinsert]
    rw [Trial.isUnique_classify (α := α) value failure]
    rfl
  · simp only [hinsert]
    rfl

/-- An insertion that is run on recorded actions does as it does without the record, and the record
is that of a course of trials. -/
lemma insertFrom_recording (number left : ℕ) (s : σ) (record : List (Step α)) :
    let plain := insertFrom tag draw insert emit number left s
    ∃ trials steps, Course tag number left trials steps plain.1 ∧
      insertFrom tag (recording .drew draw) (fun id => recording (.tried id) (insert id))
        (fun event => recording (fun _ => .logged event) (emit event)) number left (s, record) =
          (plain.1, plain.2, record ++ steps) := by
  induction left generalizing number s record with
  | zero => exact ⟨[], _, .exhausted rfl (by simp), rfl⟩
  | succ left ih =>
    rcases hattempt : attempt draw insert tag s with ⟨trial, tried⟩
    have hrecorded : attempt (recording .drew draw) (fun id => recording (.tried id) (insert id))
        tag (s, record) = (trial, tried,
          record ++ [.drew trial.value, .tried (publicId tag trial.value) trial.outcome]) := by
      obtain ⟨rfl, rfl⟩ := Prod.mk.inj hattempt
      simp [attempt, bind, StateT.bind]
      rfl
    simp only [insertFrom_attempt, hattempt, hrecorded, recording_apply, List.append_assoc]
    cases hcollided : trial.collided with
    -- a collision is logged as one more step of the trial, before the next attempt
    | true =>
      obtain ⟨trials, steps, course, hrun⟩ := ih (number + 1)
        (emit (collision tag number) tried).2 (record ++ trial.steps tag number)
      refine ⟨trial :: trials, _, course.cons hcollided, ?_⟩
      have hsteps : trial.steps tag number =
          [.drew trial.value, .tried (publicId tag trial.value) trial.outcome] ++
            [.logged (collision tag number)] := by
        rw [Trial.steps, hcollided, if_pos rfl]
      simp only [↓reduceIte]
      rw [← hsteps, hrun, List.append_assoc]
    | false =>
      refine ⟨[trial], _, .single hcollided, ?_⟩
      simp [Trial.steps, hcollided]

end Run

/-! ### What a course shows -/

lemma filterMap_event?_stepsFrom (number : ℕ) {taken : List (Trial α)}
    (retried : ∀ trial ∈ taken, trial.collided = true) :
    (stepsFrom tag number taken).filterMap Step.event? =
      (List.range' number taken.length).map (collision tag) := by
  induction taken generalizing number with
  | nil => rfl
  | cons trial taken ih =>
    obtain ⟨hcollided, hrest⟩ := List.forall_mem_cons.mp retried
    simp [stepsFrom, Trial.steps, hcollided, List.filterMap_cons, Step.event?,
      ih (number + 1) hrest, List.range'_succ]

lemma stepsFrom_append (number : ℕ) (trials later : List (Trial α)) :
    stepsFrom tag number (trials ++ later) =
      stepsFrom tag number trials ++ stepsFrom tag (number + trials.length) later := by
  induction trials generalizing number with
  | nil => rfl
  | cons trial trials ih =>
    rw [List.cons_append, stepsFrom, ih, stepsFrom, List.append_assoc, List.length_cons,
      Nat.add_assoc, Nat.add_comm 1]

namespace Course

variable {number left : ℕ} {trials : List (Trial α)} {steps : List (Step α)}
  {result : Except InsertError α}

lemma length_le (course : Course tag number left trials steps result) : trials.length ≤ left := by
  cases course with
  | decided attempt => rwa [List.length_append, List.length_singleton]
  | exhausted attempts => exact Nat.le_of_eq attempts

lemma exhausted_iff (course : Course tag number left trials steps result) :
    result = .error (.exhausted tag maxAttempts) ↔
      trials.length = left ∧ ∀ trial ∈ trials, trial.collided = true := by
  cases course with
  | exhausted attempts retried => exact iff_of_true rfl ⟨attempts, retried⟩
  | @decided taken last _ _ decides =>
    refine iff_of_false ?_ fun h => ?_
    · rcases last.outcome with failure | row <;> rintro ⟨⟩
    · exact absurd (h.2 last (by simp)) (by rw [decides]; exact Bool.false_ne_true)

lemma events (course : Course tag number left trials steps result) :
    steps.filterMap Step.event? =
      (List.range' number (trials.countP Trial.collided)).map (collision tag) ++
        if trials.countP Trial.collided = left then [exhaustion tag maxAttempts] else [] := by
  cases course with
  | @decided taken last attempt retried decides =>
    have hcount : (taken ++ [last]).countP Trial.collided = taken.length := by
      simp [List.countP_append, List.countP_eq_length.mpr retried, decides]
    rw [hcount, if_neg (Nat.ne_of_lt attempt), stepsFrom_append, List.filterMap_append,
      filterMap_event?_stepsFrom number retried]
    simp [stepsFrom, Trial.steps, decides, List.filterMap_cons, Step.event?]
  | exhausted attempts retried =>
    rw [List.countP_eq_length.mpr retried, if_pos attempts, List.filterMap_append,
      filterMap_event?_stepsFrom number retried]
    rfl

end Course

/-- **Insertions retry taken ids only.** Whatever draws the numbers, inserts the rows and takes the
events, an insertion is a course of at most sixteen trials, numbered from 1: each draws one number
and tries its id, and one that finds its id taken, by the result code of the failure, is followed by
the next. The first other outcome is the result, with its failure in it; sixteen trials that collide
exhaust the insertion, and nothing else does. As an error of the store either result keeps what it
is about. -/
theorem insertions_retry_taken_ids (tag : String) (draw : StateM σ UInt64)
    (insert : String → StateM σ (Except Failure α)) (emit : Event → StateM σ Unit) (s : σ) :
    let (result, left, steps) := insertUnique tag (recording .drew draw)
      (fun id => recording (.tried id) (insert id))
      (fun event => recording (fun _ => .logged event) (emit event)) (s, [])
    (result, left) = insertUnique tag draw insert emit s ∧
      (∃ trials, Course tag 1 16 trials steps result ∧ trials.length ≤ 16 ∧
        (result = .error (.exhausted tag 16) ↔
          trials.length = 16 ∧ ∀ trial ∈ trials, trial.collided = true) ∧
        steps.filterMap Step.event? =
          (List.range' 1 (trials.countP Trial.collided)).map (collision tag) ++
            if trials.countP Trial.collided = 16 then [exhaustion tag 16] else []) ∧
      ∀ error, result = .error error → error.toError = .internal (match error with
        | .exhausted tag attempts => .idSpaceExhausted tag attempts
        | .fault cause => .db (.engine cause.failure)) := by
  obtain ⟨trials, steps, course, hrun⟩ :=
    @insertFrom_recording _ _ tag draw insert emit 1 maxAttempts s []
  simp only [insertUnique, hrun, List.nil_append]
  refine ⟨rfl, ⟨trials, course, course.length_le, course.exhausted_iff, course.events⟩,
    fun error _ => ?_⟩
  cases error <;> rfl

/-- The sixteenth attempt may still insert its row. -/
example : (insertUnique "cv_" (pure 7)
    (fun _ tries => (if tries < 15 then .error (takenId "conversations") else .ok "row", tries + 1))
    (fun _ => pure ()) 0).1 = .ok "row" := rfl

end MoodStore.Ids
