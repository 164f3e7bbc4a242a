import MoodStore.Proofs.Service.Atomicity

/-!
How the attempts to insert a row end.

Each attempt draws an id, and other callers may act at the draw. The first attempt that does not
find its id taken decides: it inserts the row, or it fails for another reason. Where every attempt
finds its id taken, they run out.
-/

namespace MoodStore

variable {ρ α : Type}

namespace Others

/-- What comes of draw number `count`, counted from 0. -/
def meanwhile (others : Others ρ) (shared : Shared ρ) (count : ℕ) : Interlude ρ :=
  others (others.alone count shared)

lemma meanwhile_succ (others : Others ρ) (shared : Shared ρ) (count : ℕ) :
    others.meanwhile shared (count + 1) = others.meanwhile (others shared).left count := by
  rw [meanwhile, alone_succ, meanwhile]

lemma meanwhile_left (others : Others ρ) (shared : Shared ρ) (count : ℕ) :
    (others.meanwhile shared count).left = others.alone (count + 1) shared :=
  (Function.iterate_succ_apply' (fun shared => (others shared).left) count shared).symm

end Others

/-- A live row has the id of the draw. -/
def Interlude.HitsLive (interlude : Interlude ρ) (kind : Kind) : Prop :=
  ∃ rows, interlude.database.rows = some rows ∧
    rows.isTaken kind (publicId kind.tag interlude.value) = true

lemma Rows.insertConversation_failure {rows : Rows} {publicId owner heading : String}
    {failure : Failure}
    (h : (rows.insertConversation publicId owner heading).1 = .error failure) :
    failure = takenId "conversations" := by
  unfold insertConversation at h
  split at h
  · exact (Except.error.inj h).symm
  · cases h

lemma Rows.insertLine_error_cases {rows : Rows} {line : LineRow} {failure : Failure}
    (h : (rows.insertLine line).1 = .error failure) :
    rows.isTaken .line line.publicId = true ∧ failure = takenId "lines" ∨
      rows.isTaken .line line.publicId = false ∧ rows.refersToLive line = false ∧
        failure = danglingReference := by
  cases hfree : rows.lines.any fun other => other.publicId == line.publicId with
  | true =>
    rw [Rows.insertLine_of_taken hfree] at h
    exact .inl ⟨hfree, (Except.error.inj h).symm⟩
  | false =>
    cases hlive : rows.refersToLive line with
    | false =>
      rw [Rows.insertLine_of_dangling hfree hlive] at h
      exact .inr ⟨hfree, rfl, (Except.error.inj h).symm⟩
    | true =>
      rw [Rows.insertLine_of_live hfree hlive] at h
      cases h

namespace Ids

/-- The attempt at this draw finds its id taken. -/
def Collides (tag : String) (statement : String → Rows → Except Failure α × Rows)
    (interlude : Interlude ρ) : Prop :=
  ∃ failure,
    (interlude.database.write (statement (publicId tag interlude.value))).1 = .error failure ∧
      (Fault.classify failure).isUnique = true

/-- The outcome of some attempts: what it is, and what it leaves of the shared state. -/
inductive Ended (others : Others ρ) (tag : String)
    (statement : String → Rows → Except Failure α × Rows) (attempts : ℕ) (shared : Shared ρ) :
    Except InsertError α → Shared ρ → Prop
  | inserted {count : ℕ} {row : α} {after : Database} (hlt : count < attempts)
    (before : ∀ k < count, Collides tag statement (others.meanwhile shared k))
    (write : (others.meanwhile shared count).database.write
      (statement (publicId tag (others.meanwhile shared count).value)) = (.ok row, after)) :
    Ended others tag statement attempts shared (.ok row)
      (after, (others.meanwhile shared count).left.2)
  | failed {count : ℕ} {failure : Failure} (hlt : count < attempts)
    (before : ∀ k < count, Collides tag statement (others.meanwhile shared k))
    (write : ((others.meanwhile shared count).database.write
      (statement (publicId tag (others.meanwhile shared count).value))).1 = .error failure)
    (other : (Fault.classify failure).isUnique = false) :
    Ended others tag statement attempts shared (.error (.fault (.classify failure)))
      (others.alone (count + 1) shared)
  | exhausted (all : ∀ k < attempts, Collides tag statement (others.meanwhile shared k)) :
    Ended others tag statement attempts shared (.error (.exhausted tag maxAttempts))
      (others.alone attempts shared)

variable {others : Others ρ} {tag : String} {statement : String → Rows → Except Failure α × Rows}
  {shared : Shared ρ}

lemma forall_lt_succ_collides {count : ℕ} (hfirst : Collides tag statement (others shared))
    (hrest : ∀ k < count, Collides tag statement (others.meanwhile (others shared).left k)) :
    ∀ k < count + 1, Collides tag statement (others.meanwhile shared k)
  | 0, _ => hfirst
  | k + 1, hk => by
    rw [Others.meanwhile_succ]
    exact hrest k (Nat.lt_of_succ_lt_succ hk)

lemma Ended.retried {attempts : ℕ} (hcollides : Collides tag statement (others shared))
    {answer : Except InsertError α} {after : Shared ρ}
    (h : Ended others tag statement attempts (others shared).left answer after) :
    Ended others tag statement (attempts + 1) shared answer after := by
  cases h with
  | inserted hlt before write =>
    rw [← Others.meanwhile_succ] at write ⊢
    exact .inserted (Nat.succ_lt_succ hlt) (forall_lt_succ_collides hcollides before) write
  | failed hlt before write other =>
    rw [← Others.meanwhile_succ] at write
    rw [← Others.alone_succ]
    exact .failed (Nat.succ_lt_succ hlt) (forall_lt_succ_collides hcollides before) write other
  | exhausted all =>
    rw [← Others.alone_succ]
    exact .exhausted (forall_lt_succ_collides hcollides all)

/-- The attempts end in one of the three ways, if failures change nothing. -/
lemma insertFrom_ended (others : Others ρ) (tag : String)
    (hundone : ∀ id rows failure rows', statement id rows = (.error failure, rows') → rows' = rows)
    (left attempt : ℕ) (world : World ρ) :
    let outcome := insertFrom tag others.draw (fun id => World.execute (statement id)) World.emit
      attempt left world
    Ended others tag statement left world.shared outcome.1 outcome.2.shared := by
  induction left generalizing attempt world with
  | zero => exact .exhausted fun k hk => absurd hk (Nat.not_lt_zero k)
  | succ left ih =>
    let interlude := others world.shared
    have hdraw : others.draw world = (interlude.value,
        ⟨interlude.left.1, world.log ++ interlude.events, interlude.left.2⟩) := rfl
    simp only [insertFrom_succ, hdraw, World.execute]
    rcases hwrite : interlude.left.1.write (statement (publicId tag interlude.value)) with
      ⟨failure | row, after⟩
    · obtain rfl := Database.write_eq_error (hundone _) hwrite
      simp only
      split
      -- what others did at this draw is there for the next attempt
      case isTrue hunique =>
        let drawn : World ρ :=
          ⟨interlude.left.1, world.log ++ interlude.events, interlude.left.2⟩
        have hnext := ih (attempt + 1) (World.emit (collision tag attempt) drawn).2
        exact Ended.retried ⟨failure, congrArg Prod.fst hwrite, hunique⟩ hnext
      case isFalse hother =>
        exact .failed (Nat.succ_pos left) (fun k hk => absurd hk (Nat.not_lt_zero k))
          (congrArg Prod.fst hwrite) (Bool.eq_false_iff.mpr hother)
    · exact .inserted (Nat.succ_pos left) (fun k hk => absurd hk (Nat.not_lt_zero k)) hwrite

lemma Ended.exhausted_iff {attempts : ℕ} {answer : Except InsertError α} {after : Shared ρ}
    (h : Ended others tag statement attempts shared answer after) :
    answer = .error (.exhausted tag maxAttempts) ↔
      ∀ k < attempts, Collides tag statement (others.meanwhile shared k) := by
  cases h with
  | exhausted all => exact ⟨fun _ => all, fun _ => rfl⟩
  | inserted hlt before write =>
    refine ⟨nofun, fun all => ?_⟩
    obtain ⟨failure, hfailure, -⟩ := all _ hlt
    rw [write] at hfailure
    cases hfailure
  | failed hlt before write other =>
    refine ⟨nofun, fun all => ?_⟩
    obtain ⟨failure, hfailure, hunique⟩ := all _ hlt
    obtain rfl := Except.error.inj (write.symm.trans hfailure)
    exact absurd hunique (by rw [other]; exact Bool.false_ne_true)

/-! ### Ids of conversations and of lines -/

lemma collides_iff_hitsLive (kind : Kind) {interlude : Interlude ρ}
    (htaken : ∀ id rows, rows.isTaken kind id = true →
      (statement id rows).1 = .error (takenId kind.table))
    (hfree : ∀ id rows failure, rows.isTaken kind id = false →
      (statement id rows).1 = .error failure → failure = danglingReference) :
    Collides kind.tag statement interlude ↔ interlude.HitsLive kind := by
  constructor
  · rintro ⟨failure, hfailure, hunique⟩
    cases hrows : interlude.database.rows with
    | none =>
      simp only [Database.write, hrows, Except.error.injEq] at hfailure
      subst hfailure
      exact absurd hunique Bool.false_ne_true
    | some rows =>
      rw [Database.write_of_rows hrows] at hfailure
      refine ⟨rows, hrows, ?_⟩
      -- a free id is refused for its references only, and that is no unique violation
      by_contra hnot
      obtain rfl := hfree _ rows failure (Bool.eq_false_iff.mpr hnot) hfailure
      exact absurd hunique Bool.false_ne_true
  · rintro ⟨rows, hrows, hid⟩
    refine ⟨takenId kind.table, ?_, by cases kind <;> rfl⟩
    rw [Database.write_of_rows hrows]
    exact htaken _ rows hid

lemma collides_insertConversation_iff {owner heading : String} {interlude : Interlude ρ} :
    Collides conversationTag (fun id rows => rows.insertConversation id owner heading) interlude ↔
      interlude.HitsLive .conversation := by
  refine collides_iff_hitsLive .conversation (fun id rows htaken => ?_)
    fun id rows failure hfree hfailure => ?_
  · rw [Rows.insertConversation_of_taken owner heading htaken]
    rfl
  · rw [Rows.insertConversation_of_free owner heading hfree] at hfailure
    cases hfailure

lemma collides_insertLine_iff {line : String → LineRow} (hid : ∀ id, (line id).publicId = id)
    {interlude : Interlude ρ} :
    Collides lineTag (fun id rows => rows.insertLine (line id)) interlude ↔
      interlude.HitsLive .line := by
  refine collides_iff_hitsLive .line (fun id rows htaken => ?_)
    fun id rows failure hfree hfailure => ?_
  · rw [← hid id] at htaken
    rw [Rows.insertLine_of_taken htaken]
    rfl
  · rcases Rows.insertLine_error_cases hfailure with ⟨htaken, -⟩ | ⟨-, -, rfl⟩
    · rw [hid, hfree] at htaken
      cases htaken
    · rfl

end Ids

end MoodStore
