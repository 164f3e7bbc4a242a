import MoodStore.Error
import MoodStore.Event

/-!
Guarded deletes: a delete that other rows block reports how many of them there are.
-/

namespace MoodStore.Guard

variable {σ : Type}

def blocked (dependents : String) (count : Nat) : Event :=
  .of .debug "delete_blocked" "repo" "rejected"
    [("dependents", dependents), ("count", toString count)]

/-- Runs a delete that answers the number of deleted rows. The blocking rows are counted only
when the delete fails on a foreign key. -/
def deleteOrReport (entity dependents : String) (delete : StateM σ (Except Failure Nat))
    (count : StateM σ (Except Error Nat)) (emit : Event → StateM σ Unit) :
    StateM σ (Except Error Unit) := do
  match ← delete with
  | .ok 0 => return .error .notFound
  | .ok _ => return .ok ()
  | .error failure =>
    let fault := Fault.classify failure
    if fault.isForeignKey then
      match ← count with
      | .error error => return .error error
      | .ok n =>
        emit (blocked dependents n)
        return .error (.hasDependents entity dependents n)
    else return .error fault.toError

end MoodStore.Guard
