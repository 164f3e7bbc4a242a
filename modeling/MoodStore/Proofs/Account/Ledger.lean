import MoodStore.Proofs.Account.Refinement
import MoodStore.Proofs.OrderedMap

/-!
Ledgers: the accounts of all owners.

A run of calls is answered from the ledger alone. A call acts on the account of its owner; from the
other accounts it needs only which public ids they have taken, so that what it creates gets the
first drawn id that is free.
-/

namespace MoodStore

/-! ### Runs of the service -/

namespace Turn

/-- Calls to services with these built-in moods, each with the numbers it is given to draw. -/
def through (builtins : Catalog Mood) (calls : List (Call × (ℕ → UInt64))) : List Turn :=
  calls.map fun (call, draws) => ⟨builtins, call, draws⟩

def answers : List Turn → Database → List (Except Error Reply)
  | [], _ => []
  | turn :: turns, db => turn.answer db :: answers turns (turn.after db)

/-- What a run leaves of the database. -/
def left (turns : List Turn) (db : Database) : Database :=
  turns.foldl (fun db turn => turn.after db) db

lemma left_reaches {catalogs : Set (Catalog Mood)} (turns : List Turn)
    (allowed : ∀ turn ∈ turns, turn.builtins ∈ catalogs) (db : Database) :
    Reaches catalogs db (left turns db) := by
  induction turns generalizing db with
  | nil => exact .refl db
  | cons turn turns ih =>
    have hfirst := turn.reaches (allowed turn List.mem_cons_self) db
    exact hfirst.trans (ih (fun other hother => allowed other (List.mem_cons_of_mem _ hother)) _)

lemma builtins_of_mem_through {builtins : Catalog Mood} {calls : List (Call × (ℕ → UInt64))}
    {turn : Turn} (h : turn ∈ through builtins calls) : turn.builtins = builtins := by
  obtain ⟨_, -, rfl⟩ := List.mem_map.mp h
  rfl

end Turn

/-! ### Runs of the ledger -/

/-- The accounts by their owners; an owner without one has done nothing yet. -/
abbrev Ledger : Type := OrderedMap String Account

namespace Ledger

def account (ledger : Ledger) (owner : String) : Account := (ledger.get? owner).getD .empty

def isTaken (ledger : Ledger) (kind : Kind) (id : String) : Bool :=
  ledger.values.any fun account => account.has kind id

/-- The id of what a turn creates: the first drawn one that is free. -/
def newId? (ledger : Ledger) (turn : Turn) : Option String :=
  ((ledger.account turn.call.owner).creates? turn.builtins turn.call).bind fun kind =>
    (Ids.drawn kind.tag turn.draws 0 Ids.maxAttempts).find? fun id => !ledger.isTaken kind id

def answer (ledger : Ledger) (turn : Turn) : Except Error Reply :=
  ((ledger.account turn.call.owner).perform turn.builtins (ledger.newId? turn) turn.call).1

def next (ledger : Ledger) (turn : Turn) : Ledger :=
  ledger.insert turn.call.owner
    ((ledger.account turn.call.owner).perform turn.builtins (ledger.newId? turn) turn.call).2

def answers : Ledger → List Turn → List (Except Error Reply)
  | _, [] => []
  | ledger, turn :: turns => ledger.answer turn :: (ledger.next turn).answers turns

def after (ledger : Ledger) (turns : List Turn) : Ledger := turns.foldl next ledger

@[simp] lemma account_insert_self (ledger : Ledger) (owner : String) (account : Account) :
    Ledger.account (ledger.insert owner account) owner = account := by
  simp [Ledger.account]

lemma account_insert_of_ne {owner other : String} (h : other ≠ owner) (ledger : Ledger)
    (account : Account) :
    Ledger.account (ledger.insert owner account) other = ledger.account other := by
  rw [Ledger.account, OrderedMap.get?_insert_of_ne h, Ledger.account]

lemma isTaken_iff {ledger : Ledger} {kind : Kind} {id : String} :
    ledger.isTaken kind id = true ↔ ∃ owner, (ledger.account owner).has kind id = true := by
  rw [isTaken, List.any_eq_true]
  constructor
  · rintro ⟨account, haccount, hhas⟩
    obtain ⟨⟨owner, _⟩, hentry, rfl⟩ := List.mem_map.mp haccount
    refine ⟨owner, ?_⟩
    rwa [account, OrderedMap.get?_eq_some_iff.mpr hentry]
  · rintro ⟨owner, hhas⟩
    cases hget : ledger.get? owner with
    | none =>
      rw [account, hget] at hhas
      cases kind <;> exact absurd hhas Bool.false_ne_true
    | some account =>
      rw [Ledger.account, hget] at hhas
      exact ⟨account, List.mem_map_of_mem (OrderedMap.get?_eq_some_iff.mp hget), hhas⟩

/-! ### The tables go along -/

/-- The ledger has the accounts that the tables hold. -/
def Records (ledger : Ledger) (rows : Rows) : Prop :=
  ∀ owner, ledger.account owner = rows.account owner

variable {catalogs : Set (Catalog Mood)} {rows : Rows} {ledger : Ledger}

lemma records_empty : Records .empty .empty := fun _ => rfl

lemma Records.isTaken_eq (h : ledger.Records rows) (sound : rows.Sound catalogs) (kind : Kind)
    (id : String) : ledger.isTaken kind id = rows.isTaken kind id := by
  rw [Bool.eq_iff_iff, isTaken_iff]
  constructor
  · rintro ⟨owner, hhas⟩
    exact isTaken_of_has (h owner ▸ hhas)
  · intro htaken
    obtain ⟨owner, hhas⟩ := exists_has sound htaken
    exact ⟨owner, (h owner).symm ▸ hhas⟩

lemma Records.newId?_eq (h : ledger.Records rows) (sound : rows.Sound catalogs) (turn : Turn) :
    turn.newId? rows = ledger.newId? turn := by
  have hpick : ∀ kind, rows.pick? turn.draws 0 kind =
      (Ids.drawn kind.tag turn.draws 0 Ids.maxAttempts).find? fun id =>
        !ledger.isTaken kind id := by
    intro kind
    simp only [Rows.pick?, h.isTaken_eq sound]
  rw [Turn.newId?, newId?, h turn.call.owner]
  exact congrArg _ (funext hpick)

lemma Records.step (h : ledger.Records rows) {db : Database} (holds : db.Holds catalogs rows)
    {turn : Turn} (allowed : turn.builtins ∈ catalogs) :
    turn.answer db = ledger.answer turn ∧
      ∃ rows', (turn.after db).Holds catalogs rows' ∧ (ledger.next turn).Records rows' := by
  obtain ⟨rows', holds', hanswer, hleaves, -⟩ := turn.follows allowed holds
  rw [h.newId?_eq holds.2, ← h turn.call.owner] at hanswer hleaves
  refine ⟨hanswer, rows', holds', fun owner => ?_⟩
  by_cases hown : owner = turn.call.owner
  · rw [hown, next, account_insert_self, hleaves.own]
  · rw [next, account_insert_of_ne hown, h owner, hleaves.others owner hown]

/-- A whole run is answered from the ledger, and the tables it leaves hold the accounts of the
ledger that it ends with. -/
lemma Records.run (turns : List Turn) (h : ledger.Records rows) {db : Database}
    (holds : db.Holds catalogs rows) (allowed : ∀ turn ∈ turns, turn.builtins ∈ catalogs) :
    Turn.answers turns db = ledger.answers turns ∧
      ∃ rows', (Turn.left turns db).Holds catalogs rows' ∧ (ledger.after turns).Records rows' := by
  induction turns generalizing ledger rows db with
  | nil => exact ⟨rfl, rows, holds, h⟩
  | cons turn turns ih =>
    obtain ⟨hanswer, after, hafter, hrecords⟩ := h.step holds (allowed turn List.mem_cons_self)
    obtain ⟨hanswers, hrest⟩ :=
      ih hrecords hafter fun other hother => allowed other (List.mem_cons_of_mem _ hother)
    exact ⟨congrArg₂ List.cons hanswer hanswers, hrest⟩

end Ledger

end MoodStore
