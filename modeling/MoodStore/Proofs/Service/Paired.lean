import MoodStore.Proofs.Service.Effects

/-!
Actions side by side.

Two actions start from states that are related somehow. If their answers are related too, and the
states that they leave are related like those before, then so it is for whatever is made of such
actions: the attempts to insert a row, a guarded deletion, an operation that logs its refusals.
-/

namespace MoodStore

variable {σ ρ α β γ δ ε : Type}

/-! ### Outcomes -/

/-- Both outcomes are answers, related like this, or both are the same error. -/
inductive Agree (same : α → β → Prop) : Except ε α → Except ε β → Prop
  | ok {answer : α} {answer' : β} (h : same answer answer') : Agree same (.ok answer) (.ok answer')
  | error (error : ε) : Agree same (.error error) (.error error)

/-- Both are refused with the same error, or neither is refused. -/
abbrev RefusedAlike : Except ε α → Except ε β → Prop := Agree fun _ _ => True

namespace Agree

variable {same : α → β → Prop} {next : γ → δ → Prop} {outcome : Except ε α} {outcome' : Except ε β}

lemma of_map_eq {view : α → γ} {view' : β → γ} (h : outcome.map view = outcome'.map view') :
    Agree (fun answer answer' => view answer = view' answer') outcome outcome' := by
  rcases outcome with error | answer <;> rcases outcome' with error' | answer'
  · obtain rfl := Except.error.inj h
    exact .error error
  · cases h
  · cases h
  · exact .ok (Except.ok.inj h)

lemma refl (outcome : Except ε α) : Agree Eq outcome outcome := by
  cases outcome with
  | ok answer => exact .ok rfl
  | error error => exact .error error

lemma eq {outcome outcome' : Except ε α} (h : Agree Eq outcome outcome') : outcome = outcome' := by
  cases h with
  | ok h => rw [h]
  | error error => rfl

lemma mono {same' : α → β → Prop} (h : Agree same outcome outcome')
    (hsame : ∀ ⦃answer answer'⦄, same answer answer' → same' answer answer') :
    Agree same' outcome outcome' := by
  cases h with
  | ok h => exact .ok (hsame h)
  | error error => exact .error error

lemma map {view : α → γ} {view' : β → δ} (h : Agree same outcome outcome')
    (hview : ∀ ⦃answer answer'⦄, same answer answer' → next (view answer) (view' answer')) :
    Agree next (outcome.map view) (outcome'.map view') := by
  cases h with
  | ok h => exact .ok (hview h)
  | error error => exact .error error

lemma bind {f : α → Except ε γ} {g : β → Except ε δ} (h : Agree same outcome outcome')
    (hnext : ∀ ⦃answer answer'⦄, same answer answer' → Agree next (f answer) (g answer')) :
    Agree next (outcome >>= f) (outcome' >>= g) := by
  cases h with
  | ok h => exact hnext h
  | error error => exact .error error

end Agree

/-! ### Actions -/

/-- From related states the actions give related answers and leave related states. -/
def Paired (related : σ → σ → Prop) (same : α → β → Prop) (f : StateM σ α) (g : StateM σ β) :
    Prop :=
  ∀ ⦃s s'⦄, related s s' → same (f s).1 (g s').1 ∧ related (f s).2 (g s').2

namespace Paired

variable {same : α → β → Prop} {next : γ → δ → Prop}

section State

variable {related : σ → σ → Prop}

lemma answer {a : α} {b : β} (h : same a b) :
    Paired related same (fun s => (a, s)) fun s => (b, s) := fun _ _ hstates => ⟨h, hstates⟩

lemma bind {f : StateM σ α} {g : StateM σ β} {f' : α → StateM σ γ} {g' : β → StateM σ δ}
    (h : Paired related same f g)
    (hnext : ∀ ⦃a b⦄, same a b → Paired related next (f' a) (g' b)) :
    Paired related next (f >>= f') (g >>= g') := by
  intro s s' hstates
  obtain ⟨hsame, hleft⟩ := h hstates
  exact hnext hsame hleft

lemma weaken {same' : α → β → Prop} {f : StateM σ (Except ε α)} {g : StateM σ (Except ε β)}
    (h : Paired related (Agree same) f g) (hsame : ∀ ⦃a b⦄, same a b → same' a b) :
    Paired related (Agree same') f g := fun _ _ hstates =>
  (h hstates).imp_left fun hagree => hagree.mono hsame

lemma of_agree {f g : StateM σ (Except ε α)} (h : Paired related (Agree Eq) f g) :
    Paired related Eq f g := fun _ _ hstates => (h hstates).imp_left Agree.eq

variable {emit : Event → StateM σ Unit}
  (hemit : ∀ event, Paired related Eq (emit event) (emit event))

include hemit

lemma insertFrom {draw draw' : StateM σ UInt64} {insert : String → StateM σ (Except Failure α)}
    {insert' : String → StateM σ (Except Failure β)} (hdraw : Paired related Eq draw draw')
    (hinsert : ∀ id, Paired related (Agree same) (insert id) (insert' id)) (tag : String)
    (left attempt : ℕ) :
    Paired related (Agree same) (Ids.insertFrom tag draw insert emit attempt left)
      (Ids.insertFrom tag draw' insert' emit attempt left) := by
  induction left generalizing attempt with
  | zero => exact bind (hemit _) fun _ _ _ => answer (.error _)
  | succ left ih =>
    refine bind hdraw fun value value' hvalue => ?_
    subst hvalue
    refine bind (hinsert _) fun inserted inserted' hinserted => ?_
    cases hinserted with
    | ok hrow => exact answer (.ok hrow)
    | error failure =>
      simp only
      split
      · exact bind (hemit _) fun _ _ _ => ih _
      · exact answer (.error _)

lemma deleteOrReport {delete delete' : StateM σ (Except Failure ℕ)}
    {count count' : StateM σ (Except Error ℕ)} (hdelete : Paired related (Agree Eq) delete delete')
    (hcount : Paired related (Agree Eq) count count') (entity dependents : String) :
    Paired related (Agree Eq) (Guard.deleteOrReport entity dependents delete count emit)
      (Guard.deleteOrReport entity dependents delete' count' emit) := by
  refine bind hdelete fun deleted deleted' hdeleted => ?_
  cases hdeleted.eq
  rcases deleted with failure | _ | deleted
  · simp only
    split
    · refine bind hcount fun counted counted' hcounted => ?_
      cases hcounted.eq
      cases counted with
      | ok count => exact bind (hemit _) fun _ _ _ => answer (.error _)
      | error error => exact answer (.error _)
    · exact answer (.error _)
  · exact answer (.error _)
  · exact answer (.ok rfl)

end State

/-! Operations -/

section Operation

variable {related : World ρ → World ρ → Prop}

lemma andThen {f : Operation ρ α} {g : Operation ρ β} {f' : α → Operation ρ γ}
    {g' : β → Operation ρ δ} (h : Paired related (Agree same) f g)
    (hnext : ∀ ⦃a b⦄, same a b → Paired related (Agree next) (f' a) (g' b)) :
    Paired related (Agree next) (f >>= f' : Operation ρ γ) (g >>= g' : Operation ρ δ) := by
  intro world world' hworlds
  have houtcome := h hworlds
  revert houtcome
  rw [Operation.bind_apply, Operation.bind_apply]
  rcases f world with ⟨outcome, left⟩
  rcases g world' with ⟨outcome', left'⟩
  rintro ⟨hagree, hleft⟩
  cases hagree with
  | ok hsame => exact hnext hsame hleft
  | error error => exact ⟨.error error, hleft⟩

lemma lift {f : StateM (World ρ) α} {g : StateM (World ρ) β} (h : Paired related same f g) :
    Paired related (Agree same) (Operation.lift f) (Operation.lift g) := by
  intro world world' hworlds
  obtain ⟨hsame, hleft⟩ := h hworlds
  exact ⟨.ok hsame, hleft⟩

lemma map {f : Operation ρ α} {g : Operation ρ β} (h : Paired related (Agree same) f g)
    {view : α → γ} {view' : β → δ} (hview : ∀ ⦃a b⦄, same a b → next (view a) (view' b)) :
    Paired related (Agree next) (view <$> f : Operation ρ γ) (view' <$> g : Operation ρ δ) := by
  intro world world' hworlds
  obtain ⟨hagree, hleft⟩ := h hworlds
  rw [Operation.map_apply, Operation.map_apply]
  exact ⟨hagree.map hview, hleft⟩

lemma executing {statement : Rows → Except Failure α × Rows}
    {statement' : Rows → Except Failure β × Rows}
    (h : Paired related (Agree same) (World.execute statement) (World.execute statement')) :
    Paired related (Agree same) (Operation.executing statement)
      (Operation.executing statement') := by
  refine andThen (lift h) fun outcome outcome' hagree => ?_
  cases hagree with
  | ok hsame => exact answer (.ok hsame)
  | error failure => exact answer (.error _)

lemma requiring {statement : Rows → Except Failure ℕ × Rows}
    (h : Paired related (Agree Eq) (World.execute statement) (World.execute statement)) :
    Paired related (Agree Eq) (do
      let deleted ← Operation.executing statement
      if deleted = 0 then throw .notFound : Operation ρ Unit) (do
      let deleted ← Operation.executing statement
      if deleted = 0 then throw .notFound : Operation ρ Unit) := by
  refine andThen (executing h) fun deleted deleted' hdeleted => ?_
  subst hdeleted
  split
  · exact answer (.error _)
  · exact answer (.ok rfl)

lemma logged (hemit : ∀ event, Paired related Eq (World.emit event) (World.emit event))
    {f : Operation ρ α} {g : Operation ρ β} (h : Paired related (Agree same) f g) (name : String) :
    Paired related (Agree same) (Service.logged name f) (Service.logged name g) := by
  intro world world' hworlds
  have houtcome := h hworlds
  revert houtcome
  rw [Service.logged_apply, Service.logged_apply]
  rcases f world with ⟨outcome, left⟩
  rcases g world' with ⟨outcome', left'⟩
  rintro ⟨hagree, hleft⟩
  cases hagree with
  | ok hsame => exact ⟨.ok hsame, hleft⟩
  | error error => exact ⟨.error error, (hemit (Service.refusal name error) hleft).2⟩

section Inserting

variable {draw draw' : StateM (World ρ) UInt64} {owner : String}
  (hemit : ∀ event, Paired related Eq (World.emit event) (World.emit event))
  (hdraw : Paired related Eq draw draw')

include hemit hdraw

lemma create {heading heading' : String} {same : ConversationRow → ConversationRow → Prop}
    {next : Conversation → Conversation → Prop}
    (hinsert : ∀ id, Paired related (Agree same)
      (World.execute fun rows => rows.insertConversation id owner heading)
      (World.execute fun rows => rows.insertConversation id owner heading'))
    (hshown : ∀ ⦃row row'⦄, same row row' → next row.toConversation row'.toConversation) :
    Paired related (Agree next) (Conversations.create draw owner heading)
      (Conversations.create draw' owner heading') := by
  refine andThen (lift (insertFrom hemit hdraw hinsert _ _ _)) fun inserted inserted' hagree => ?_
  cases hagree with
  | ok hrow => exact answer (.ok (hshown hrow))
  | error error => exact answer (.error _)

lemma insertLine {home home' : ConversationRow} {row? row?' : Option MoodRow} {mood mood' : Mood}
    {line line' : NewLine} {same : LineRow → LineRow → Prop} {next : Line → Line → Prop}
    (hinsert : ∀ id, Paired related (Agree same)
      (World.execute fun rows =>
        rows.insertLine (Conversations.newRow home row? mood.name id line))
      (World.execute fun rows =>
        rows.insertLine (Conversations.newRow home' row?' mood'.name id line')))
    (hagain : Paired related (Agree fun home? home?' => home?.isSome = home?'.isSome)
      (Operation.reading (Conversations.find? owner home.publicId))
      (Operation.reading (Conversations.find? owner home'.publicId)))
    (hmood : line.mood = line'.mood)
    (hshown : ∀ ⦃row row'⦄, same row row' →
      next ⟨row.publicId, line.animal, line.think, line.text, mood⟩
        ⟨row'.publicId, line'.animal, line'.think, line'.text, mood'⟩) :
    Paired related (Agree next) (Conversations.insertLine draw owner home row? mood line)
      (Conversations.insertLine draw' owner home' row?' mood' line') := by
  refine andThen (lift (insertFrom hemit hdraw hinsert _ _ _)) fun inserted inserted' hagree => ?_
  cases hagree with
  | ok hrow => exact answer (.ok (hshown hrow))
  | error error =>
    rcases error with _ | (_ | _ | _)
    · exact answer (.error _)
    · exact answer (.error _)
    · -- the conversation is looked up once more, only to tell what is missing
      rw [hmood]
      refine andThen hagain fun again? again?' hsame => ?_
      rcases again? with _ | again <;> rcases again?' with _ | again'
      · exact answer (.error _)
      · cases hsame
      · cases hsame
      · exact answer (.error _)
    · exact answer (.error _)

end Inserting

end Operation

end Paired

end MoodStore
