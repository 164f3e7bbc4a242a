import MoodStore.Proofs.Account.Ledger

/-!
Conversations as nested documents.

An owner has conversations, oldest first, and each holds its lines, oldest first. While all services
have the same built-in moods, every line is shown with the mood that its name means at that moment.
A public id names one conversation, or one line of one conversation, of one owner.
-/

namespace MoodStore

/-! ### Lists that are read item by item -/

lemma exists_mapM_eq_ok {α β ε : Type} {f : α → Except ε β} {R : α → β → Prop} {items : List α}
    (h : ∀ item ∈ items, ∃ result, f item = .ok result ∧ R item result) :
    ∃ results, items.mapM f = .ok results ∧ List.Forall₂ R items results := by
  induction items with
  | nil => exact ⟨[], rfl, .nil⟩
  | cons item items ih =>
    obtain ⟨result, hresult, hitem⟩ := h item List.mem_cons_self
    obtain ⟨results, hresults, hitems⟩ := ih fun other hother =>
      h other (List.mem_cons_of_mem _ hother)
    refine ⟨result :: results, ?_, .cons hitem hitems⟩
    rw [List.mapM_cons, hresult, hresults]
    rfl

lemma exists_of_forall₂ {α β : Type} {R : α → β → Prop} {items : List α} {results : List β}
    (h : List.Forall₂ R items results) {item : α} (hitem : item ∈ items) :
    ∃ result ∈ results, R item result := by
  induction h with
  | nil => cases hitem
  | cons hhead htail ih =>
    rcases List.mem_cons.mp hitem with rfl | hitem
    · exact ⟨_, List.mem_cons_self, hhead⟩
    · obtain ⟨result, hresult, hrelated⟩ := ih hitem
      exact ⟨result, List.mem_cons_of_mem _ hresult, hrelated⟩

lemma exists_of_map_eq_ok {α β ε : Type} {f : α → β} {result : Except ε α} {value : β}
    (h : result.map f = .ok value) : ∃ found, result = .ok found ∧ f found = value := by
  cases result with
  | error => cases h
  | ok found => exact ⟨found, rfl, Except.ok.inj h⟩

lemma find?_id_eq_some_iff {α : Type} {name : α → String} {items : List α}
    (h : (items.map name).Nodup) {id : String} {item : α} :
    (items.find? fun item => name item == id) = some item ↔ item ∈ items ∧ name item = id := by
  rw [Rows.find?_eq_some_iff_of_unique, beq_iff_eq]
  intro a ha b hb hpa hpb
  rw [beq_iff_eq] at hpa hpb
  exact List.inj_on_of_nodup_map h ha hb (hpa.trans hpb.symm)

/-! ### Reading documents -/

namespace Account

/-- The line is how a note is shown: with the mood that its name means. -/
def Shows (account : Account) (builtins : Catalog Mood) (note : Note) (line : Line) : Prop :=
  ∃ mood, account.getMood builtins note.moodName = .ok mood ∧
    line = ⟨note.id, note.animal, note.think, note.text, mood⟩

/-- Every line of the account can be shown. -/
def Readable (account : Account) (builtins : Catalog Mood) : Prop :=
  ∀ document ∈ account.documents, ∀ note ∈ document.notes, ∃ line,
    account.showNote builtins note = .ok line ∧ account.Shows builtins note line

/-- The conversations of the account have distinct ids, and so have the lines of each. -/
def Distinct (account : Account) : Prop :=
  (account.documents.map Document.id).Nodup ∧
    ∀ document ∈ account.documents, (document.notes.map Note.id).Nodup

variable {account : Account} {builtins : Catalog Mood} {home id : String} {document : Document}
  {note : Note} {line : Line}

lemma Shows.eq {other : Line} (h : account.Shows builtins note line)
    (h' : account.Shows builtins note other) : line = other := by
  obtain ⟨mood, hmood, rfl⟩ := h
  obtain ⟨mood', hmood', rfl⟩ := h'
  rw [Except.ok.inj (hmood.symm.trans hmood')]

lemma Shows.id_eq (h : account.Shows builtins note line) : line.id = note.id := by
  obtain ⟨mood, -, rfl⟩ := h
  rfl

lemma document?_eq_some_iff (h : account.Distinct) :
    account.document? id = some document ↔ document ∈ account.documents ∧ document.id = id :=
  find?_id_eq_some_iff h.1

lemma note?_eq_some_iff (h : account.Distinct) :
    account.note? home id = some note ↔ ∃ document ∈ account.documents,
      document.id = home ∧ note ∈ document.notes ∧ note.id = id := by
  rw [note?, Option.bind_eq_some_iff]
  constructor
  · rintro ⟨document, hdocument, hnote⟩
    obtain ⟨hmem, hhome⟩ := (document?_eq_some_iff h).mp hdocument
    exact ⟨document, hmem, hhome, (find?_id_eq_some_iff (h.2 document hmem)).mp hnote⟩
  · rintro ⟨document, hmem, hhome, hnote⟩
    exact ⟨document, (document?_eq_some_iff h).mpr ⟨hmem, hhome⟩,
      (find?_id_eq_some_iff (h.2 document hmem)).mpr hnote⟩

lemma getConversation_of_mem (h : account.Distinct) (readable : account.Readable builtins)
    (hdocument : document ∈ account.documents) :
    ∃ lines, account.getConversation builtins document.id =
        .ok ⟨document.id, document.heading, lines⟩ ∧
      List.Forall₂ (account.Shows builtins) document.notes lines := by
  obtain ⟨lines, hlines, hshown⟩ := exists_mapM_eq_ok (readable document hdocument)
  refine ⟨lines, ?_, hshown⟩
  rw [getConversation, (document?_eq_some_iff h).mpr ⟨hdocument, rfl⟩]
  simp only [hlines]
  rfl

lemma exists_document_of_getConversation {conversation : Conversation} (h : account.Distinct)
    (hread : account.getConversation builtins home = .ok conversation) :
    ∃ document ∈ account.documents, document.id = home := by
  cases hdocument : account.document? home with
  | none =>
    rw [getConversation, hdocument] at hread
    cases hread
  | some document =>
    obtain ⟨hmem, hhome⟩ := (document?_eq_some_iff h).mp hdocument
    exact ⟨document, hmem, hhome⟩

lemma getLine_eq_ok_iff (h : account.Distinct) (readable : account.Readable builtins) :
    account.getLine builtins home id = .ok line ↔
      ∃ conversation, account.getConversation builtins home = .ok conversation ∧
        line ∈ conversation.lines ∧ line.id = id := by
  constructor
  · intro hread
    cases hnote : account.note? home id with
    | none =>
      rw [getLine, hnote] at hread
      cases hread
    | some note =>
      obtain ⟨document, hdocument, rfl, hmem, rfl⟩ := (note?_eq_some_iff h).mp hnote
      obtain ⟨shown, hshown, hshows⟩ := readable document hdocument note hmem
      rw [getLine, hnote] at hread
      obtain rfl : shown = line := Except.ok.inj (hshown.symm.trans hread)
      obtain ⟨lines, hlines, hall⟩ := getConversation_of_mem h readable hdocument
      -- what the conversation shows for this note is what the line is read as
      obtain ⟨other, hother, hsame⟩ := exists_of_forall₂ hall hmem
      exact ⟨_, hlines, hshows.eq hsame ▸ hother, hshows.id_eq⟩
  · rintro ⟨conversation, hread, hline, rfl⟩
    obtain ⟨document, hdocument, rfl⟩ := exists_document_of_getConversation h hread
    obtain ⟨lines, hlines, hall⟩ := getConversation_of_mem h readable hdocument
    obtain rfl := Except.ok.inj (hlines.symm.trans hread)
    obtain ⟨note, hmem, hflip⟩ := exists_of_forall₂ hall.flip hline
    have hshows : account.Shows builtins note line := hflip
    obtain ⟨shown, hshown, hshows'⟩ := readable document hdocument note hmem
    rw [getLine, (note?_eq_some_iff h).mpr ⟨document, hdocument, rfl, hmem, hshows.id_eq.symm⟩,
      hshows.eq hshows']
    exact hshown

end Account

/-! ### Documents of all owners -/

/-- What holds of the conversations of all owners while all services have these built-in moods. An
id names at most one conversation of one owner, and at most one line in one conversation. -/
structure NestedDocuments (builtins : Catalog Mood) (accounts : String → Account) : Prop where
  distinct : ∀ owner, (accounts owner).Distinct
  readable : ∀ owner, (accounts owner).Readable builtins
  one_document : ∀ {owner other}, ∀ document ∈ (accounts owner).documents,
    ∀ document' ∈ (accounts other).documents, document.id = document'.id → other = owner
  one_note : ∀ {owner other}, ∀ document ∈ (accounts owner).documents,
    ∀ document' ∈ (accounts other).documents, ∀ note ∈ document.notes, ∀ note' ∈ document'.notes,
      note.id = note'.id → other = owner ∧ document'.id = document.id

namespace Rows

variable {builtins : Catalog Mood} {catalogs : Set (Catalog Mood)} {rows : Rows} {owner : String}
  {document : Document} {note : Note}

lemma mem_documents : document ∈ (rows.account owner).documents ↔
    ∃ row ∈ rows.conversations, row.owner = owner ∧ rows.document row = document := by
  simp only [account, List.mem_map, mem_conversationsOf, and_assoc]

lemma mem_notes {row : ConversationRow} : note ∈ (rows.document row).notes ↔
    ∃ line ∈ rows.lines, line.conversation = row.id ∧ line.toNote = note := by
  simp only [document, linesOf, List.mem_map, List.mem_filter, beq_iff_eq, and_assoc]

namespace Sound

lemma account_distinct (h : rows.Sound catalogs) (owner : String) :
    (rows.account owner).Distinct := by
  refine ⟨?_, fun document hdocument => ?_⟩
  · have hids : (rows.account owner).documents.map Document.id =
        (rows.conversationsOf owner).map ConversationRow.publicId := by
      rw [account, List.map_map]
      rfl
    rw [hids]
    exact h.conversation_distinct.sublist (List.filter_sublist.map _)
  · obtain ⟨row, -, -, rfl⟩ := mem_documents.mp hdocument
    have hids : (rows.document row).notes.map Note.id =
        (rows.linesOf row.id).map LineRow.publicId := by
      rw [document, List.map_map]
      rfl
    rw [hids]
    exact h.line_distinct.sublist (List.filter_sublist.map _)

lemma builtin_of_line (h : rows.Sound {builtins}) {line : LineRow} (hline : line ∈ rows.lines)
    (hmood : line.mood = none) : ∃ mood, builtins.get? line.moodName = some mood := by
  obtain ⟨catalog, rfl, hreserved⟩ := h.builtin line hline hmood
  rw [Catalog.contains_eq_isSome_get?] at hreserved
  exact Option.isSome_iff_exists.mp hreserved

lemma owned_of_line (h : rows.Sound {builtins}) {line : LineRow} (hline : line ∈ rows.lines)
    {home : ConversationRow} (hhome : home ∈ rows.conversations)
    (hid : home.id = line.conversation) {id : ℕ} (hmood : line.mood = some id) :
    ∃ row : MoodRow, row.name = line.moodName ∧ builtins.get? line.moodName = none ∧
      (rows.account home.owner).mood? (foldCase line.moodName) = some row.toMood := by
  obtain ⟨row, hrow, rfl, hname, howner⟩ := h.owned line hline id hmood
  -- the name was free when the row was made, under the one catalog there is
  obtain ⟨catalog, rfl, hfree⟩ := h.unreserved row hrow
  rw [hname, Catalog.contains_eq_isSome_get?, Option.isSome_eq_false_iff,
    Option.isNone_iff_eq_none] at hfree
  have hfind : rows.findMood? home.owner (foldCase line.moodName) = some row :=
    h.findMood?_eq_some_iff.mpr
      ⟨hrow, (howner home hhome hid).symm, by rw [h.key row hrow, hname]⟩
  exact ⟨row, hname, hfree, by rw [h.account_mood?, hfind, Option.map_some]⟩

/-- The stored mood of a line is the one that its name means: an owned mood has no reserved name,
and a built-in one has. -/
lemma noteMood_eq_getMood (h : rows.Sound {builtins}) {line : LineRow} (hline : line ∈ rows.lines)
    {home : ConversationRow} (hhome : home ∈ rows.conversations)
    (hid : home.id = line.conversation) :
    ∃ mood, (rows.account home.owner).noteMood builtins line.toNote = .ok mood ∧
      (rows.account home.owner).getMood builtins line.moodName = .ok mood := by
  cases hmood : line.mood with
  | none =>
    obtain ⟨mood, hget⟩ := h.builtin_of_line hline hmood
    refine ⟨mood, ?_, ?_⟩
    · simp [Account.noteMood, LineRow.toNote, hmood, hget]
    · simp [Account.getMood, Account.meaning?, hget]
  | some id =>
    obtain ⟨row, -, hfree, howned⟩ := h.owned_of_line hline hhome hid hmood
    refine ⟨row.toMood, ?_, ?_⟩
    · simp [Account.noteMood, LineRow.toNote, hmood, howned]
    · simp [Account.getMood, Account.meaning?, hfree, howned]

lemma account_readable (h : rows.Sound {builtins}) (owner : String) :
    (rows.account owner).Readable builtins := by
  intro document hdocument note hnote
  obtain ⟨home, hhome, rfl, rfl⟩ := mem_documents.mp hdocument
  obtain ⟨line, hline, hid, rfl⟩ := mem_notes.mp hnote
  obtain ⟨mood, hmood, hget⟩ := h.noteMood_eq_getMood hline hhome hid.symm
  refine ⟨⟨line.publicId, line.animal, line.think, line.text, mood⟩, ?_, mood, hget, rfl⟩
  rw [Account.showNote, hmood]
  rfl

lemma nested (h : rows.Sound {builtins}) : NestedDocuments builtins rows.account where
  distinct := h.account_distinct
  readable := h.account_readable
  one_document := by
    intro owner other document hdocument document' hdocument' hid
    obtain ⟨row, hrow, rfl, rfl⟩ := mem_documents.mp hdocument
    obtain ⟨row', hrow', rfl, rfl⟩ := mem_documents.mp hdocument'
    rw [h.conversation_unique hrow hrow' hid]
  one_note := by
    intro owner other document hdocument document' hdocument' note hnote note' hnote' hid
    obtain ⟨row, hrow, rfl, rfl⟩ := mem_documents.mp hdocument
    obtain ⟨row', hrow', rfl, rfl⟩ := mem_documents.mp hdocument'
    obtain ⟨line, hline, hhome, rfl⟩ := mem_notes.mp hnote
    obtain ⟨line', hline', hhome', rfl⟩ := mem_notes.mp hnote'
    obtain rfl := h.line_unique hline hline' hid
    obtain rfl := h.conversations.eq_of_id hrow hrow' (hhome.symm.trans hhome')
    exact ⟨rfl, rfl⟩

end Sound

end Rows

namespace NestedDocuments

variable {builtins : Catalog Mood} {accounts : String → Account}
  (nested : NestedDocuments builtins accounts)

include nested

lemma document?_eq_ite {owner id : String} {document : Document}
    (hdocument : document ∈ (accounts owner).documents) (hid : document.id = id) (other : String) :
    (accounts other).document? id = if other = owner then some document else none := by
  by_cases hother : other = owner
  · subst hother
    rw [if_pos rfl]
    exact (Account.document?_eq_some_iff (nested.distinct other)).mpr ⟨hdocument, hid⟩
  · rw [if_neg hother, Option.eq_none_iff_forall_ne_some]
    intro found hfound
    obtain ⟨hmem, hfoundid⟩ := (Account.document?_eq_some_iff (nested.distinct other)).mp hfound
    exact hother (nested.one_document document hdocument found hmem (hid.trans hfoundid.symm))

lemma note?_eq_ite {owner id : String} {document : Document} {note : Note}
    (hdocument : document ∈ (accounts owner).documents) (hnote : note ∈ document.notes)
    (hid : note.id = id) (other home : String) :
    (accounts other).note? home id =
      if other = owner ∧ home = document.id then some note else none := by
  by_cases hhere : other = owner ∧ home = document.id
  · obtain ⟨rfl, rfl⟩ := hhere
    rw [if_pos ⟨rfl, rfl⟩]
    exact (Account.note?_eq_some_iff (nested.distinct other)).mpr
      ⟨document, hdocument, rfl, hnote, hid⟩
  · rw [if_neg hhere, Option.eq_none_iff_forall_ne_some]
    intro found hfound
    obtain ⟨document', hmem, rfl, hfound, hfoundid⟩ :=
      (Account.note?_eq_some_iff (nested.distinct other)).mp hfound
    exact hhere (nested.one_note document hdocument document' hmem note hnote found hfound
      (hid.trans hfoundid.symm))

end NestedDocuments

/-! ### Reading, and what is new -/

/-- What an owner can read of the documents. A conversation is read with its heading and with all
its lines in order, a line just when its conversation has it, and as it stands there. Listings show
conversations without their lines. -/
structure Account.Reads (account : Account) (builtins : Catalog Mood) : Prop where
  conversation : ∀ document ∈ account.documents, ∃ lines,
    account.getConversation builtins document.id = .ok ⟨document.id, document.heading, lines⟩ ∧
      List.Forall₂ (account.Shows builtins) document.notes lines
  line : ∀ home id line, account.getLine builtins home id = .ok line ↔
    ∃ conversation, account.getConversation builtins home = .ok conversation ∧
      line ∈ conversation.lines ∧ line.id = id
  listing : ∀ query page, account.listConversations query = .ok page →
    ∀ conversation ∈ page.items, ∃ document ∈ account.documents,
      conversation = ⟨document.id, document.heading, []⟩

/-- The id in a reply to a creation names what was created and nothing else. -/
def NamesNew (accounts : String → Account) : Call → Reply → Prop
  | .createConversation owner heading, .conversation conversation =>
    conversation = ⟨conversation.id, heading, []⟩ ∧ ∀ other,
      (accounts other).document? conversation.id =
        if other = owner then some ⟨conversation.id, heading, []⟩ else none
  | .createLine owner home new, .line line => ∃ owned, ∀ other home',
    (accounts other).note? home' line.id =
      if other = owner ∧ home' = home then
        some ⟨line.id, owned, line.mood.name, new.animal, new.think, new.text⟩
      else none
  | _, _ => True

namespace NestedDocuments

variable {builtins : Catalog Mood} {accounts : String → Account}
  (nested : NestedDocuments builtins accounts)

include nested

lemma reads (owner : String) : (accounts owner).Reads builtins where
  conversation _ hdocument := Account.getConversation_of_mem (nested.distinct owner)
    (nested.readable owner) hdocument
  line _ _ _ := Account.getLine_eq_ok_iff (nested.distinct owner) (nested.readable owner)
  listing query page hpage conversation hconversation := by
    obtain ⟨document, hdocument, rfl⟩ := List.mem_map.mp (Listing.mem_of_answer hpage hconversation)
    exact ⟨document, hdocument, rfl⟩

/-- A line that is elsewhere, in another conversation or of another owner, is found neither to be
read nor to be deleted. -/
lemma not_found_elsewhere {owner other home home' id : String}
    (hnote : (accounts owner).note? home id ≠ none) (helse : ¬(other = owner ∧ home' = home)) :
    (accounts other).getLine builtins home' id = .error .notFound ∧
      (accounts other).deleteLine home' id = (.error .notFound, accounts other) := by
  obtain ⟨note, hnote⟩ := Option.ne_none_iff_exists'.mp hnote
  obtain ⟨document, hdocument, rfl, hmem, hid⟩ :=
    (Account.note?_eq_some_iff (nested.distinct owner)).mp hnote
  have hnone := nested.note?_eq_ite hdocument hmem hid other home'
  rw [if_neg helse] at hnone
  exact ⟨by rw [Account.getLine, hnone], by rw [Account.deleteLine, if_pos hnone]⟩

end NestedDocuments

namespace Account

lemma mem_documents_editNotes {account : Account} {document : Document}
    (hdocument : document ∈ account.documents) (edit : List Note → List Note) :
    { document with notes := edit document.notes } ∈
      (account.editNotes document.id edit).documents :=
  List.mem_map.mpr ⟨document, hdocument, by rw [beq_self_eq_true, if_pos rfl]⟩

lemma createConversation_eq_ok {account : Account} {newId? : Option String} {heading : String}
    {conversation : Conversation}
    (h : (account.createConversation newId? heading).1 = .ok conversation) :
    conversation = ⟨conversation.id, heading, []⟩ ∧
      (⟨conversation.id, heading, []⟩ : Document) ∈
        (account.createConversation newId? heading).2.documents := by
  cases newId? with
  | none => cases h
  | some id =>
    obtain rfl := Except.ok.inj h
    exact ⟨rfl, List.mem_append_right _ (List.mem_singleton_self _)⟩

lemma createLine_eq_ok {account : Account} {builtins : Catalog Mood} {newId? : Option String}
    {home : String} {new : NewLine} {line : Line} (distinct : account.Distinct)
    (h : (account.createLine builtins newId? home new).1 = .ok line) :
    ∃ owned, ∃ document ∈ (account.createLine builtins newId? home new).2.documents,
      document.id = home ∧
      (⟨line.id, owned, line.mood.name, new.animal, new.think, new.text⟩ : Note) ∈
        document.notes := by
  cases hmeaning : account.meaning? builtins new.mood with
  | none =>
    simp only [createLine, hmeaning] at h
    cases h
  | some meaning =>
    obtain ⟨mood, owned⟩ := meaning
    cases hhome : account.document? home with
    | none =>
      simp only [createLine, hmeaning, hhome, if_true] at h
      cases h
    | some document =>
      cases newId? with
      | none =>
        simp only [createLine, hmeaning, hhome, reduceCtorEq, if_false] at h
      | some id =>
        simp only [createLine, hmeaning, hhome, reduceCtorEq, if_false] at h ⊢
        obtain rfl := Except.ok.inj h
        obtain ⟨hdocument, rfl⟩ := (document?_eq_some_iff distinct).mp hhome
        refine ⟨owned, _, mem_documents_editNotes hdocument _, rfl, ?_⟩
        exact List.mem_append_right _ (List.mem_singleton_self _)

end Account

lemma Ledger.Records.nested {ledger : Ledger} {rows : Rows} {builtins : Catalog Mood}
    (h : ledger.Records rows) (sound : rows.Sound {builtins}) :
    NestedDocuments builtins ledger.account := by
  have haccounts : ledger.account = rows.account := funext h
  rw [haccounts]
  exact sound.nested

lemma Ledger.namesNew_next {ledger : Ledger} {turn : Turn} {reply : Reply}
    (distinct : (ledger.account turn.call.owner).Distinct)
    (nested : NestedDocuments turn.builtins (ledger.next turn).account)
    (h : ledger.answer turn = .ok reply) :
    NamesNew (ledger.next turn).account turn.call reply := by
  obtain ⟨builtins, call, draws⟩ := turn
  rw [answer] at h
  cases call with
  | createConversation owner heading =>
    obtain ⟨conversation, hcreated, rfl⟩ := exists_of_map_eq_ok h
    obtain ⟨heq, hnew⟩ := Account.createConversation_eq_ok hcreated
    rw [← account_insert_self ledger owner (Account.createConversation _ _ _).2] at hnew
    exact ⟨heq, nested.document?_eq_ite hnew rfl⟩
  | createLine owner home new =>
    obtain ⟨line, hcreated, rfl⟩ := exists_of_map_eq_ok h
    obtain ⟨owned, document, hdocument, rfl, hnote⟩ := Account.createLine_eq_ok distinct hcreated
    rw [← account_insert_self ledger owner (Account.createLine _ _ _ _ _).2] at hdocument
    exact ⟨owned, nested.note?_eq_ite hdocument hnote rfl⟩
  | _ => trivial

/-! ### Runs -/

/-- **Conversations are nested documents.** In every run of calls of any owners on a new store,
through services with the same built-in moods, each call is answered from the ledger, in which every
owner has conversations that hold their lines. -/
theorem conversations_are_nested_documents (builtins : Catalog Mood)
    (calls : List (Call × (ℕ → UInt64))) :
    let turns := Turn.through builtins calls
    let ledger := Ledger.after .empty turns
    Turn.answers turns .fresh = Ledger.answers .empty turns ∧
      (∀ owner, (ledger.account owner).Distinct ∧ (ledger.account owner).Reads builtins) ∧
      (∀ owner other home home' id, (ledger.account owner).note? home id ≠ none →
        ¬(other = owner ∧ home' = home) →
          (ledger.account other).getLine builtins home' id = .error .notFound ∧
          (ledger.account other).deleteLine home' id = (.error .notFound, ledger.account other)) ∧
      ∀ call draws reply,
        (Turn.mk builtins call draws).answer (Turn.left turns .fresh) = .ok reply →
          NamesNew (ledger.next ⟨builtins, call, draws⟩).account call reply := by
  intro turns ledger
  have hallowed : ∀ turn ∈ turns, turn.builtins ∈ ({builtins} : Set (Catalog Mood)) :=
    fun turn hturn => Turn.builtins_of_mem_through hturn
  obtain ⟨hanswers, rows, holds, records⟩ := Ledger.records_empty.run turns holds_fresh hallowed
  have nested : NestedDocuments builtins ledger.account := records.nested holds.2
  refine ⟨hanswers, fun owner => ⟨nested.distinct owner, nested.reads owner⟩,
    fun _ _ _ _ _ => nested.not_found_elsewhere, fun call draws reply hreply => ?_⟩
  have hshared : (Turn.mk builtins call draws).builtins ∈ ({builtins} : Set (Catalog Mood)) :=
    Set.mem_singleton builtins
  obtain ⟨hanswer, rows', holds', records'⟩ := records.step holds hshared
  exact Ledger.namesNew_next (nested.distinct _) (records'.nested holds'.2)
    (hanswer.symm.trans hreply)

/-- An id that is drawn again names the new conversation only. -/
example :
    Turn.answers (Turn.through builtinMoods
      [(.createConversation "ann" "notes", fun _ => 7),
        (.deleteConversation "ann" "cv_7", fun _ => 0),
        (.createConversation "bob" "plans", fun _ => 7),
        (.getConversation "ann" "cv_7", fun _ => 0)]) .fresh =
      [.ok (.conversation ⟨"cv_7", "notes", []⟩), .ok .done,
        .ok (.conversation ⟨"cv_7", "plans", []⟩), .error .notFound] := by
  cbv

end MoodStore
