import MoodStore.Proofs.Account.Refinement

/-!
Owners do not notice each other.

A call reads and changes only the account of its owner, but for the ids that others have taken: a
drawn id of theirs is passed over. So an owner who draws no such id in a run of calls is answered
what the same calls would be answered if nobody else had called.
-/

namespace MoodStore

/-! ### Runs -/

/-- What an owner is answered in a run of turns, and which numbers each call draws for it. -/
def seenBy (owner : String) : List Turn → Database → List (Except Error Reply × List UInt64)
  | [], _ => []
  | turn :: turns, db =>
    if turn.call.owner = owner then
      (turn.answer db, turn.handed db) :: seenBy owner turns (turn.after db)
    else seenBy owner turns (turn.after db)

/-- What a call would create. -/
def Call.kind? : Call → Option Kind
  | .createConversation _ _ => some .conversation
  | .createLine _ _ _ => some .line
  | _ => none

/-- No number that the owner draws in a run gives an id that something of another owner has at that
moment. -/
def DrawsApart (owner : String) : List Turn → Database → Prop
  | [], _ => True
  | turn :: turns, db =>
    (turn.call.owner = owner → ∀ rows ∈ db.rows, ∀ draw ∈ turn.handed db, ∀ kind ∈ turn.call.kind?,
      ∀ other, other ≠ owner → (rows.account other).has kind (publicId kind.tag draw) = false) ∧
    DrawsApart owner turns (turn.after db)

lemma kind?_of_creates? {account : Account} {builtins : Catalog Mood} {call : Call} {kind : Kind}
    (h : account.creates? builtins call = some kind) : call.kind? = some kind := by
  cases call with
  | createConversation => exact h
  | createLine =>
    simp only [Account.creates?] at h
    split at h
    · cases h
    · exact h
  | _ => cases h

/-! ### Picking the same id -/

section Picking

variable {α : Type} {p q : α → Bool} {l : List α}

lemma find_eq_of_take (h : ∀ a ∈ l.take (l.findIdx p + 1), p a = q a) :
    l.find? p = l.find? q ∧ l.findIdx p = l.findIdx q := by
  induction l with
  | nil => exact ⟨rfl, rfl⟩
  | cons a l ih =>
    have ha : p a = q a := h a (by simp)
    cases hp : p a with
    | true => simp [List.findIdx_cons, ← ha, hp]
    | false =>
      obtain ⟨hfind, hidx⟩ := ih fun b hb => h b (by
        rw [List.findIdx_cons, hp, cond_false, List.take_succ_cons]
        exact List.mem_cons_of_mem _ hb)
      simp [List.findIdx_cons, ← ha, hp, hfind, hidx]

end Picking

variable {catalogs : Set (Catalog Mood)} {rows rows' : Rows} {owner : String}

lemma isTaken_eq (sound : rows.Sound catalogs) (kind : Kind) (id : String)
    (h : ∀ other, other ≠ owner → (rows.account other).has kind id = false) :
    rows.isTaken kind id = (rows.account owner).has kind id := by
  rw [Bool.eq_iff_iff]
  refine ⟨fun htaken => ?_, isTaken_of_has⟩
  -- a taken id is the id of something that somebody has
  obtain ⟨other, hother⟩ := exists_has sound htaken
  by_cases hsame : other = owner
  · rwa [hsame] at hother
  · rw [h other hsame] at hother
    exact absurd hother Bool.false_ne_true

lemma has_empty (kind : Kind) (id : String) : Account.empty.has kind id = false := by
  cases kind <;> rfl

/-- An owner who draws no id of others picks the id that it would pick alone. -/
lemma pick_eq (sound : rows.Sound catalogs) (sound' : rows'.Sound catalogs)
    (hsame : rows'.account owner = rows.account owner)
    (halone : ∀ other, other ≠ owner → rows'.account other = .empty) {draws : ℕ → UInt64}
    {kind : Kind}
    (hapart : ∀ n < rows.spent draws 0 kind, ∀ other, other ≠ owner →
      (rows.account other).has kind (publicId kind.tag (draws n)) = false) :
    rows.pick? draws 0 kind = rows'.pick? draws 0 kind ∧
      rows.spent draws 0 kind = rows'.spent draws 0 kind := by
  have hseen : ∀ id ∈ (Ids.drawn kind.tag draws 0 Ids.maxAttempts).take
      ((Ids.drawn kind.tag draws 0 Ids.maxAttempts).findIdx (fun id => !rows.isTaken kind id) + 1),
      (!rows.isTaken kind id) = !rows'.isTaken kind id := by
    intro id hid
    rw [Ids.drawn, ← List.map_take, List.take_range, ← Ids.drawn] at hid
    obtain ⟨n, hn, rfl⟩ := List.mem_map.mp hid
    rw [List.mem_range, Nat.min_comm] at hn
    rw [Nat.zero_add, isTaken_eq sound kind _ (hapart n hn),
      isTaken_eq sound' kind _ fun other hother => by rw [halone other hother, has_empty], hsame]
  obtain ⟨hfind, hidx⟩ := find_eq_of_take hseen
  exact ⟨hfind, by rw [Rows.spent, Rows.spent, hidx]⟩

lemma newId?_eq (turn : Turn) (sound : rows.Sound catalogs) (sound' : rows'.Sound catalogs)
    (hsame : rows'.account turn.call.owner = rows.account turn.call.owner)
    (halone : ∀ other, other ≠ turn.call.owner → rows'.account other = .empty)
    (hapart : ∀ draw ∈ (List.range (turn.count rows)).map turn.draws, ∀ kind ∈ turn.call.kind?,
      ∀ other, other ≠ turn.call.owner →
        (rows.account other).has kind (publicId kind.tag draw) = false) :
    turn.newId? rows = turn.newId? rows' ∧ turn.count rows = turn.count rows' := by
  unfold Turn.newId? Turn.count at *
  rw [hsame]
  cases hcreates : (rows.account turn.call.owner).creates? turn.builtins turn.call with
  | none => exact ⟨rfl, rfl⟩
  | some kind =>
    rw [hcreates] at hapart
    refine pick_eq sound sound' hsame halone fun n hn => ?_
    exact hapart _ (List.mem_map_of_mem (List.mem_range.mpr hn)) kind (kind?_of_creates? hcreates)

/-! ### Isolation -/

/-- The run of an owner among others and the run of the owner alone go along: the account of the
owner is the same in both. -/
lemma seenBy_eq (turns : List Turn) {db db' : Database} (holds : db.Holds Set.univ rows)
    (holds' : db'.Holds Set.univ rows') (hsame : rows'.account owner = rows.account owner)
    (halone : ∀ other, other ≠ owner → rows'.account other = .empty)
    (hapart : DrawsApart owner turns db) :
    seenBy owner turns db =
      seenBy owner (turns.filter fun turn => turn.call.owner = owner) db' := by
  induction turns generalizing db db' rows rows' with
  | nil => rfl
  | cons turn turns ih =>
    obtain ⟨hdraws, hrest⟩ := hapart
    obtain ⟨after, hafter, hanswer, hleaves, hhanded⟩ := turn.follows (Set.mem_univ _) holds
    by_cases hown : turn.call.owner = owner
    · subst hown
      obtain ⟨after', hafter', hanswer', hleaves', hhanded'⟩ :=
        turn.follows (Set.mem_univ _) holds'
      have hdraws' := hdraws rfl rows holds.1
      rw [hhanded] at hdraws'
      obtain ⟨hid, hcount⟩ := newId?_eq turn holds.2 holds'.2 hsame halone hdraws'
      rw [List.filter_cons_of_pos (by simp), seenBy, seenBy, if_pos rfl, if_pos rfl, hanswer,
        hanswer', hhanded, hhanded', hsame, hid, hcount]
      refine congrArg _ (ih hafter hafter' ?_ (fun other hother => ?_) hrest)
      · rw [hleaves.own, hleaves'.own, hsame, hid]
      · rw [hleaves'.others other hother, halone other hother]
    · -- a call of another owner leaves the account as it is
      rw [List.filter_cons_of_neg (by simpa using hown), seenBy, if_neg hown]
      refine ih hafter holds' ?_ halone hrest
      rw [hsame, hleaves.others owner fun h => hown h.symm]

/-- **Owners are isolated.** In a run of calls of any owners on a new store, an owner who draws no
id that something of another then has is answered as if all calls of others were left out. -/
theorem owners_are_isolated (owner : String) (turns : List Turn)
    (hapart : DrawsApart owner turns .fresh) :
    seenBy owner turns .fresh =
      seenBy owner (turns.filter fun turn => turn.call.owner = owner) .fresh :=
  seenBy_eq turns holds_fresh holds_fresh rfl (fun other _ => Rows.account_empty other) hapart

/-- Bob asks for a conversation of Ann and then creates one. -/
theorem owners_are_isolated_over_two_conversations :
    let ann : List Turn := [⟨builtinMoods, .createConversation "ann" "notes", fun _ => 7⟩]
    let bob : List Turn := [⟨builtinMoods, .getConversation "bob" "cv_7", fun _ => 8⟩,
      ⟨builtinMoods, .createConversation "bob" "plans", fun _ => 8⟩]
    DrawsApart "bob" (ann ++ bob) .fresh ∧
      seenBy "bob" (ann ++ bob) .fresh = seenBy "bob" bob .fresh := by
  intro ann bob
  have hapart : DrawsApart "bob" (ann ++ bob) .fresh := by
    refine ⟨fun h => absurd h (by decide), fun _ rows _ draw _ kind hkind => ?_,
      fun _ rows hrows draw hdraw kind hkind other _ => ?_, trivial⟩
    · cases hkind
    · obtain rfl := Option.some_inj.mp hrows
      obtain rfl := Option.some_inj.mp hkind
      obtain ⟨_, -, rfl⟩ := List.mem_map.mp hdraw
      have hids : publicId conversationTag 7 ≠ publicId conversationTag 8 := by
        rw [publicId, publicId, Base36.encode_of_lt (by decide), Base36.encode_of_lt (by decide)]
        decide
      rw [Bool.eq_false_iff]
      intro hhas
      simpa [Rows.isTaken, Kind.tag, Rows.empty, hids] using isTaken_of_has hhas
  exact ⟨hapart, owners_are_isolated "bob" (ann ++ bob) hapart⟩

end MoodStore
