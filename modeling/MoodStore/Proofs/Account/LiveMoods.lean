import MoodStore.Proofs.Account.Nested

/-!
Lines show live moods.

A stored line keeps the name of its mood and, unless the mood is built in, the id of its row. While
all services have the same built-in moods, a line is shown with the mood that its name means at the
moment of reading. So a mood that is painted over shows on all its lines at once, and a mood that is
deleted was shown on none.
-/

namespace MoodStore

variable {ρ : Type} {builtins : Catalog Mood}

/-! ### What names mean after a write and after a deletion -/

namespace Account

variable {account : Account} {name spelling key eyes tongue : String} {mood : Mood}

lemma getMood_eq_ok_iff : account.getMood builtins name = .ok mood ↔
    builtins.get? name = some mood ∨
      builtins.get? name = none ∧ account.mood? (foldCase name) = some mood := by
  rw [getMood, meaning?]
  cases builtins.get? name with
  | some found => simp
  | none => cases account.mood? (foldCase name) <;> simp

lemma getMood_congr (h : foldCase spelling = foldCase name) :
    account.getMood builtins spelling = account.getMood builtins name := by
  simp only [getMood, meaning?, Catalog.get?, Catalog.position?_congr h, h]

lemma foldCase_name_of_getMood (h : account.getMood builtins name = .ok mood) :
    foldCase mood.name = foldCase name := by
  rcases getMood_eq_ok_iff.mp h with hbuiltin | ⟨-, howned⟩
  · exact Catalog.get?_eq_some hbuiltin
  · have hkey : hasKey (foldCase name) mood = true := List.find?_some howned
    exact beq_iff_eq.mp hkey

lemma hasKey_repainted (key' : String) :
    hasKey key (repainted key' eyes tongue mood) = hasKey key mood := by
  unfold repainted
  split <;> rfl

lemma mood?_writeMood (h : account.mood? key = some mood) :
    (account.writeMood name eyes tongue).2.mood? key =
      some (repainted (foldCase name) eyes tongue mood) := by
  cases hfound : account.mood? (foldCase name) with
  | some found =>
    -- painting leaves all keys, so the search ends where it did
    have hsame : hasKey key ∘ repainted (foldCase name) eyes tongue = hasKey key :=
      funext fun _ => hasKey_repainted _
    simp only [writeMood, hfound]
    rw [mood?] at h
    rw [mood?, List.find?_map, hsame, h, Option.map_some]
  | none =>
    have hother := List.find?_eq_none.mp hfound mood (List.mem_of_find?_eq_some h)
    simp only [writeMood, hfound]
    rw [mood?] at h
    rw [mood?, List.find?_append, h, Option.some_or, repainted, if_neg hother]

lemma getMood_writeMood (hname : builtins.contains name = false)
    (h : account.getMood builtins spelling = .ok mood) :
    (account.writeMood name eyes tongue).2.getMood builtins spelling =
      .ok (repainted (foldCase name) eyes tongue mood) := by
  rw [getMood_eq_ok_iff]
  rcases getMood_eq_ok_iff.mp h with hbuiltin | ⟨hfree, howned⟩
  · -- a built-in mood has a reserved name, so not the written one
    have hother : hasKey (foldCase name) mood = false := by
      rw [hasKey, beq_eq_false_iff_ne]
      intro hfold
      have hcontains := Catalog.contains_of_get? hbuiltin
      rw [Catalog.contains_congr (a := Entry.id mood) hfold, hname] at hcontains
      cases hcontains
    rw [repainted, hother, if_neg Bool.false_ne_true]
    exact .inl hbuiltin
  · exact .inr ⟨hfree, mood?_writeMood howned⟩

lemma deleteMood_cases (account : Account) (builtins : Catalog Mood) (name : String) :
    (account.deleteMood builtins name).2 = account ∨
      (account.deleteMood builtins name).2 = { account with
        moods := account.moods.filter fun mood => !hasKey (foldCase name) mood } := by
  simp only [deleteMood]
  split_ifs
  · exact .inl rfl
  · exact .inl rfl
  · exact .inr rfl
  · exact .inl rfl

lemma mood?_of_deleteMood (h : (account.deleteMood builtins name).2.mood? key = some mood) :
    account.mood? key = some mood := by
  rcases account.deleteMood_cases builtins name with hsame | hfiltered
  · rwa [hsame] at h
  · rw [hfiltered, mood?, List.find?_filter] at h
    have hfound := List.find?_some h
    simp only [decide_eq_true_eq, Bool.not_eq_true', hasKey, beq_eq_false_iff_ne, beq_iff_eq]
      at hfound
    rw [← h]
    refine (Rows.find?_congr_of_mem fun other _ => ?_).symm
    rw [Bool.eq_iff_iff, decide_eq_true_iff, Bool.not_eq_true', hasKey, hasKey,
      beq_eq_false_iff_ne, beq_iff_eq]
    exact and_iff_right_of_imp fun hkey => hkey.trans hfound.2.symm ▸ hfound.1

lemma getMood_of_deleteMood
    (h : (account.deleteMood builtins name).2.getMood builtins spelling = .ok mood) :
    account.getMood builtins spelling = .ok mood :=
  getMood_eq_ok_iff.mpr
    ((getMood_eq_ok_iff.mp h).imp_right fun hmood => ⟨hmood.1, mood?_of_deleteMood hmood.2⟩)

lemma writeMood_documents :
    (account.writeMood name eyes tongue).2.documents = account.documents := by
  simp only [writeMood]
  split <;> rfl

lemma deleteMood_documents :
    (account.deleteMood builtins name).2.documents = account.documents := by
  rcases account.deleteMood_cases builtins name with hsame | hfiltered
  · rw [hsame]
  · rw [hfiltered]

end Account

/-! ### Readings of the same conversations -/

lemma mapM_eq_map_mapM {α β γ ε : Type} {f : α → Except ε β} {g : α → Except ε γ} {paint : β → γ}
    {items : List α} (h : ∀ item ∈ items, g item = (f item).map paint) :
    items.mapM g = (items.mapM f).map (List.map paint) := by
  induction items with
  | nil => rfl
  | cons item items ih =>
    rw [List.mapM_cons, List.mapM_cons, h item List.mem_cons_self,
      ih fun other hother => h other (List.mem_cons_of_mem _ hother)]
    cases f item with
    | error => rfl
    | ok result => cases items.mapM f <;> rfl

/-- The conversation with other lines in the place of its lines. -/
def Conversation.mapLines (paint : Line → Line) (conversation : Conversation) : Conversation :=
  { conversation with lines := conversation.lines.map paint }

namespace Account

/-- Two accounts have the same conversations, and show their lines as this paints them over. -/
structure Alters (builtins : Catalog Mood) (paint : Line → Line) (before after : Account) :
    Prop where
  documents : after.documents = before.documents
  line : ∀ document ∈ before.documents, ∀ note ∈ document.notes, ∀ line,
    before.Shows builtins note line → after.Shows builtins note (paint line)

namespace Alters

variable {paint : Line → Line} {before after : Account}
  (alters : before.Alters builtins paint after) (readable : before.Readable builtins)
  (readable' : after.Readable builtins)

include alters readable readable'

lemma showNote {document : Document} (hdocument : document ∈ before.documents) {note : Note}
    (hnote : note ∈ document.notes) :
    after.showNote builtins note = (before.showNote builtins note).map paint := by
  obtain ⟨line, hline, hshows⟩ := readable document hdocument note hnote
  obtain ⟨line', hline', hshows'⟩ :=
    readable' document (by rwa [alters.documents]) note hnote
  rw [hline, hline', hshows'.eq (alters.line document hdocument note hnote line hshows)]
  rfl

lemma getConversation (id : String) :
    after.getConversation builtins id =
      (before.getConversation builtins id).map (Conversation.mapLines paint) := by
  rw [Account.getConversation, Account.getConversation, document?, document?, alters.documents]
  cases hfind : before.documents.find? fun document => document.id == id with
  | none => rfl
  | some document =>
    have hdocument := List.mem_of_find?_eq_some hfind
    simp only [mapM_eq_map_mapM fun note hnote =>
      alters.showNote readable readable' hdocument hnote]
    cases document.notes.mapM (before.showNote builtins) <;> rfl

lemma getLine (home id : String) :
    after.getLine builtins home id = (before.getLine builtins home id).map paint := by
  rw [Account.getLine, Account.getLine, note?, note?, document?, document?, alters.documents]
  cases hfind : before.documents.find? fun document => document.id == home with
  | none => rfl
  | some document =>
    simp only [Option.bind_some]
    cases hnote : document.notes.find? fun note => note.id == id with
    | none => rfl
    | some note =>
      exact alters.showNote readable readable' (List.mem_of_find?_eq_some hfind)
        (List.mem_of_find?_eq_some hnote)

end Alters

end Account

/-! ### Stored lines -/

namespace Rows.Sound

variable {rows rows' : Rows}

/-- A line without a mood row is shown with the built-in mood of its stored name, and any other
with an owned mood that has the stored name. -/
lemma mood_of_shows (h : rows.Sound {builtins}) {line : LineRow} (hline : line ∈ rows.lines)
    {home : ConversationRow} (hhome : home ∈ rows.conversations) (hid : home.id = line.conversation)
    {shown : Line} (hshown : (rows.account home.owner).Shows builtins line.toNote shown) :
    (line.mood = none → builtins.get? line.moodName = some shown.mood) ∧
      (line.mood ≠ none → shown.mood.name = line.moodName ∧ shown.mood.tier = .dynamic) := by
  obtain ⟨mood, hmood, rfl⟩ := hshown
  refine ⟨fun hnone => ?_, fun hsome => ?_⟩
  · obtain ⟨builtin, hget⟩ := h.builtin_of_line hline hnone
    rcases Account.getMood_eq_ok_iff.mp hmood with hbuiltin | ⟨hfree, -⟩
    · exact hbuiltin
    · cases hfree.symm.trans hget
  · obtain ⟨id, hplace⟩ := Option.ne_none_iff_exists'.mp hsome
    obtain ⟨row, hname, hfree, howned⟩ := h.owned_of_line hline hhome hid hplace
    have hlive : (rows.account home.owner).getMood builtins line.moodName = .ok row.toMood :=
      Account.getMood_eq_ok_iff.mpr (.inr ⟨hfree, howned⟩)
    obtain rfl : row.toMood = mood := Except.ok.inj (hlive.symm.trans hmood)
    exact ⟨hname, rfl⟩

end Rows.Sound

/-! ### What services read -/

namespace Service

variable (service : Service ρ)

/-- The line shows the mood that its mood name means to the owner, however it is spelled. -/
def IsLive (owner : String) (world : World ρ) (line : Line) : Prop :=
  ∀ spelling, foldCase spelling = foldCase line.mood.name →
    (service.getMood owner spelling world).1 = .ok line.mood

/-- The stored line is read as this one, alone and in its conversation. -/
def ReadsLine (world : World ρ) (rows : Rows) (stored : LineRow) (line : Line) : Prop :=
  ∃ home ∈ rows.conversations, home.id = stored.conversation ∧ line.id = stored.publicId ∧
    (service.getLine home.owner home.publicId stored.publicId world).1 = .ok line ∧
    ∃ conversation, (service.getConversation home.owner home.publicId world).1 =
      .ok conversation ∧ line ∈ conversation.lines

/-- Whatever is read at this moment shows live moods, and no stored line is left out. -/
structure ShowsLiveMoods (world : World ρ) : Prop where
  conversation : ∀ owner id, (service.getConversation owner id world).1 = .error .notFound ∨
    ∃ conversation, (service.getConversation owner id world).1 = .ok conversation ∧
      ∀ line ∈ conversation.lines, service.IsLive owner world line
  line : ∀ owner home id, (service.getLine owner home id world).1 = .error .notFound ∨
    ∃ line, (service.getLine owner home id world).1 = .ok line ∧ service.IsLive owner world line
  stored : ∃ rows, world.database.rows = some rows ∧
    ∀ stored ∈ rows.lines, ∃ line, service.ReadsLine world rows stored line

/-- What the owner reads afterwards is what was read before, painted over. -/
structure ReadsPainted (paint : Line → Line) (owner : String) (before after : World ρ) : Prop where
  conversation : ∀ id, (service.getConversation owner id after).1 =
    (service.getConversation owner id before).1.map (Conversation.mapLines paint)
  line : ∀ home id, (service.getLine owner home id after).1 =
    (service.getLine owner home id before).1.map paint

/-- The owner reads afterwards what was read before. -/
def ReadsSame (owner : String) (before after : World ρ) : Prop :=
  (∀ id, (service.getConversation owner id after).1 =
    (service.getConversation owner id before).1) ∧
  ∀ home id, (service.getLine owner home id after).1 = (service.getLine owner home id before).1

lemma ReadsPainted.readsSame {service : Service ρ} {owner : String} {before after : World ρ}
    (h : service.ReadsPainted id owner before after) : service.ReadsSame owner before after := by
  have hid : Conversation.mapLines id = id :=
    funext fun conversation => by simp [Conversation.mapLines]
  refine ⟨fun id => ?_, fun home id => ?_⟩
  · rw [h.conversation, hid, Except.map_id, id_def]
  · rw [h.line, Except.map_id, id_def]

/-- The line painted over, if it is shown with the mood that has this name. -/
def painted (name eyes tongue : String) (line : Line) : Line :=
  { line with mood := Account.repainted (foldCase name) eyes tongue line.mood }

/-- A line that is stored at both moments is shown with a mood of the same name and tier. -/
def KeepsMoods (before after : World ρ) : Prop :=
  ∀ rows rows', before.database.rows = some rows → after.database.rows = some rows' →
    ∀ stored ∈ rows.lines, ∀ stored' ∈ rows'.lines, stored'.id = stored.id →
      ∃ line line', service.ReadsLine before rows stored line ∧
        service.ReadsLine after rows' stored' line' ∧
        line'.mood.name = line.mood.name ∧ line'.mood.tier = line.mood.tier

end Service

namespace Database.Holds

variable {service : Service ρ} {catalogs : Set (Catalog Mood)} {rows rows' : Rows}
  {world after : World ρ}

lemma service_getMood (holds : world.database.Holds catalogs rows) (owner name : String) :
    (service.getMood owner name world).1 = (rows.account owner).getMood service.builtins name := by
  rw [Service.getMood, Service.logged_answer, Operation.reading_apply, holds.getMood_eq]

lemma service_getConversation (holds : world.database.Holds catalogs rows) (owner id : String) :
    (service.getConversation owner id world).1 =
      (rows.account owner).getConversation service.builtins id := by
  rw [Service.getConversation, Service.logged_answer, Operation.reading_apply,
    holds.getConversation_eq]

lemma service_getLine (holds : world.database.Holds catalogs rows) (owner home id : String) :
    (service.getLine owner home id world).1 =
      (rows.account owner).getLine service.builtins home id := by
  rw [Service.getLine, Service.logged_answer, Operation.reading_apply, holds.getLine_eq]

lemma isLive (holds : world.database.Holds catalogs rows) {owner : String} {note : Note}
    {line : Line} (hshows : (rows.account owner).Shows service.builtins note line) :
    service.IsLive owner world line := by
  obtain ⟨mood, hmood, rfl⟩ := hshows
  intro spelling hspelling
  rw [holds.service_getMood,
    Account.getMood_congr (hspelling.trans (Account.foldCase_name_of_getMood hmood))]
  exact hmood

variable (holds : world.database.Holds {service.builtins} rows)

include holds

lemma readsLine {stored : LineRow} (hstored : stored ∈ rows.lines) :
    ∃ home ∈ rows.conversations, home.id = stored.conversation ∧ ∃ line,
      (rows.account home.owner).Shows service.builtins stored.toNote line ∧
        service.ReadsLine world rows stored line := by
  obtain ⟨home, hhome, hid⟩ := holds.2.home stored hstored
  have hdocument : rows.document home ∈ (rows.account home.owner).documents :=
    Rows.mem_documents.mpr ⟨home, hhome, rfl, rfl⟩
  have hnote : stored.toNote ∈ (rows.document home).notes :=
    Rows.mem_notes.mpr ⟨stored, hstored, hid.symm, rfl⟩
  obtain ⟨lines, hlines, hall⟩ := Account.getConversation_of_mem
    (holds.2.account_distinct home.owner) (holds.2.account_readable home.owner) hdocument
  obtain ⟨line, hline, hshows⟩ := exists_of_forall₂ hall hnote
  let conversation : Conversation := ⟨home.publicId, home.heading, lines⟩
  refine ⟨home, hhome, hid, line, hshows, home, hhome, hid, hshows.id_eq, ?_, conversation, ?_,
    hline⟩
  · rw [holds.service_getLine]
    exact (Account.getLine_eq_ok_iff (holds.2.account_distinct home.owner)
      (holds.2.account_readable home.owner)).mpr ⟨conversation, hlines, hline, hshows.id_eq⟩
  · rw [holds.service_getConversation]
    exact hlines

lemma showsLiveMoods : service.ShowsLiveMoods world where
  conversation owner id := by
    rw [holds.service_getConversation]
    cases hdocument : (rows.account owner).document? id with
    | none => exact .inl (by rw [Account.getConversation, hdocument])
    | some document =>
      obtain ⟨hmem, rfl⟩ := (Account.document?_eq_some_iff (holds.2.account_distinct owner)).mp
        hdocument
      obtain ⟨lines, hlines, hall⟩ := Account.getConversation_of_mem
        (holds.2.account_distinct owner) (holds.2.account_readable owner) hmem
      refine .inr ⟨⟨document.id, document.heading, lines⟩, hlines, fun line hline => ?_⟩
      obtain ⟨note, -, hshows⟩ := exists_of_forall₂ hall.flip hline
      exact holds.isLive hshows
  line owner home id := by
    rw [holds.service_getLine]
    cases hnote : (rows.account owner).note? home id with
    | none => exact .inl (by rw [Account.getLine, hnote])
    | some note =>
      obtain ⟨document, hdocument, -, hmem, -⟩ :=
        (Account.note?_eq_some_iff (holds.2.account_distinct owner)).mp hnote
      obtain ⟨line, hline, hshows⟩ := holds.2.account_readable owner document hdocument note hmem
      exact .inr ⟨line, by rw [Account.getLine, hnote]; exact hline, holds.isLive hshows⟩
  stored := by
    refine ⟨rows, holds.1, fun stored hstored => ?_⟩
    obtain ⟨_, -, -, line, -, hread⟩ := holds.readsLine hstored
    exact ⟨line, hread⟩

lemma readsPainted (holds' : after.database.Holds {service.builtins} rows') {paint : Line → Line}
    {owner : String} (alters : (rows.account owner).Alters service.builtins paint
      (rows'.account owner)) :
    service.ReadsPainted paint owner world after where
  conversation id := by
    rw [holds.service_getConversation, holds'.service_getConversation]
    exact alters.getConversation (holds.2.account_readable owner) (holds'.2.account_readable owner)
      id
  line home id := by
    rw [holds.service_getLine, holds'.service_getLine]
    exact alters.getLine (holds.2.account_readable owner) (holds'.2.account_readable owner) home id

lemma keepsMoods (holds' : after.database.Holds {service.builtins} rows')
    (later : rows.Later rows') : service.KeepsMoods world after := by
  intro _ _ hrows hrows' stored hstored stored' hstored' hid
  obtain rfl := Option.some_inj.mp (holds.1.symm.trans hrows)
  obtain rfl := Option.some_inj.mp (holds'.1.symm.trans hrows')
  obtain rfl : stored' = stored := later.lines.eq_of_id holds.2.lines hstored hstored' hid
  obtain ⟨home, hhome, hhomeid, line, hshows, hread⟩ := holds.readsLine hstored
  obtain ⟨home', hhome', hhomeid', line', hshows', hread'⟩ := holds'.readsLine hstored'
  obtain ⟨hbuiltin, howned⟩ := holds.2.mood_of_shows hstored hhome hhomeid hshows
  obtain ⟨hbuiltin', howned'⟩ := holds'.2.mood_of_shows hstored' hhome' hhomeid' hshows'
  refine ⟨line, line', hread, hread', ?_⟩
  by_cases hplace : stored'.mood = none
  · rw [Option.some_inj.mp ((hbuiltin' hplace).symm.trans (hbuiltin hplace))]
    exact ⟨rfl, rfl⟩
  · rw [(howned hplace).1, (howned hplace).2]
    exact howned' hplace

end Database.Holds

/-! ### Writing and deleting moods -/

namespace Account

variable {account : Account} {name : String}

lemma alters_writeMood (hname : builtins.contains name = false) (eyes tongue : String) :
    account.Alters builtins (Service.painted name eyes tongue)
      (account.writeMood name eyes tongue).2 where
  documents := writeMood_documents
  line := by
    rintro _ - note - _ ⟨mood, hmood, rfl⟩
    exact ⟨_, getMood_writeMood hname hmood, rfl⟩

/-- Where all lines can be shown after a deletion, it took the mood of none of them. -/
lemma alters_deleteMood (readable' : (account.deleteMood builtins name).2.Readable builtins) :
    account.Alters builtins id (account.deleteMood builtins name).2 where
  documents := deleteMood_documents
  line := by
    intro document hdocument note hnote line hshows
    obtain ⟨line', -, mood, hmood, rfl⟩ :=
      readable' document (by rwa [deleteMood_documents]) note hnote
    have hbefore : account.Shows builtins note _ := ⟨mood, getMood_of_deleteMood hmood, rfl⟩
    rw [hshows.eq hbefore]
    exact ⟨mood, hmood, rfl⟩

end Account

namespace Database.Holds

variable {service : Service ρ} {rows : Rows} {world : World ρ}
  (holds : world.database.Holds {service.builtins} rows)

include holds

lemma leaves_of_follows {α : Type} {owner : String} {expected : Except Error α × Account}
    {source : ρ} {outcome : Except Error α × World ρ}
    (follows : Follows rows owner expected source outcome) (call : Call)
    (hdatabase : ((Service.mk service.builtins (pure 0)).perform call world).2.database =
      outcome.2.database) :
    ∃ rows', outcome.2.database.Holds {service.builtins} rows' ∧
      rows.Leaves owner expected.2 rows' := by
  obtain ⟨-, ⟨rows', hrows', hleaves⟩, -⟩ := follows
  -- the call does not draw, so a service that draws zeros does the same
  have reaches : Reaches {service.builtins} world.database outcome.2.database := by
    rw [← hdatabase]
    exact .call (.refl _) (Service.mk service.builtins (pure 0)) (Set.mem_singleton _)
      (fun world => .refl world.database) call
  obtain ⟨rows'', holds'', -⟩ := reaches.keeps rows holds
  obtain rfl : rows' = rows'' := Option.some_inj.mp (hrows'.symm.trans holds''.1)
  exact ⟨rows', holds'', hleaves⟩

lemma readsSame {rows' : Rows} {after : World ρ}
    (holds' : after.database.Holds {service.builtins} rows') {owner : String}
    (hsame : rows'.account owner = rows.account owner) : service.ReadsSame owner world after :=
  ⟨fun id => by rw [holds.service_getConversation, holds'.service_getConversation, hsame],
    fun home id => by rw [holds.service_getLine, holds'.service_getLine, hsame]⟩

lemma setMood_reads {owner name eyes tongue : String} {write : MoodWrite}
    (hwrite : (service.setMood owner name eyes tongue world).1 = .ok write) :
    service.ReadsPainted (Service.painted name eyes tongue) owner world
        (service.setMood owner name eyes tongue world).2 ∧
      ∀ other, other ≠ owner →
        service.ReadsSame other world (service.setMood owner name eyes tongue world).2 := by
  have follows := setMood_follows holds service owner name eyes tongue
  obtain ⟨rows', holds', hleaves⟩ := holds.leaves_of_follows follows
    (.setMood owner name eyes tongue) (by rw [Service.perform, Operation.map_apply]; rfl)
  refine ⟨holds.readsPainted holds' ?_, fun other hother =>
    holds.readsSame holds' (hleaves.others other hother)⟩
  have hanswer := follows.answer.symm.trans hwrite
  rw [hleaves.own]
  rw [Account.setMood] at hanswer ⊢
  cases hname : service.builtins.contains name with
  | true =>
    rw [hname, if_pos rfl] at hanswer
    cases hanswer
  | false => exact Account.alters_writeMood hname eyes tongue

lemma deleteMood_reads (owner name other : String) :
    service.ReadsSame other world (service.deleteMood owner name world).2 := by
  have follows := (delete_follows holds service.builtins owner name).logged
    (Call.deleteMood owner name).name
  obtain ⟨rows', holds', hleaves⟩ := holds.leaves_of_follows follows (.deleteMood owner name)
    (by rw [Service.perform, Operation.map_apply]; rfl)
  by_cases hother : other = owner
  · subst hother
    have readable' := holds'.2.account_readable other
    rw [hleaves.own] at readable'
    have alters := Account.alters_deleteMood readable'
    rw [← hleaves.own] at alters
    exact (holds.readsPainted holds' alters).readsSame
  · exact holds.readsSame holds' (hleaves.others other hother)

end Database.Holds

/-! ### Reachable stores -/

/-- **Lines show live moods.** Whatever calls of any owners have been made on a new store through
services with one catalog, and whatever other callers did at each draw of an id, every line that is
read shows the mood that its mood name means at that moment. A write of a mood, under any spelling,
paints all lines with that mood over at once, and nothing that others read; a deletion changes no
line; and whatever happens, a line keeps the name and the tier of its mood. -/
theorem lines_show_live_moods {service : Service ρ} {world : World ρ}
    (reachable : Reachable {service.builtins} world.database) :
    service.ShowsLiveMoods world ∧
      (∀ owner name eyes tongue write,
        (service.setMood owner name eyes tongue world).1 = .ok write →
          service.ReadsPainted (Service.painted name eyes tongue) owner world
              (service.setMood owner name eyes tongue world).2 ∧
            ∀ other, other ≠ owner →
              service.ReadsSame other world (service.setMood owner name eyes tongue world).2) ∧
      (∀ owner name other,
        service.ReadsSame other world (service.deleteMood owner name world).2) ∧
      ∀ later : World ρ, Reaches {service.builtins} world.database later.database →
        service.KeepsMoods world later := by
  obtain ⟨rows, holds⟩ := reachable.holds
  refine ⟨holds.showsLiveMoods, fun owner name eyes tongue write => holds.setMood_reads,
    holds.deleteMood_reads, fun later reaches => ?_⟩
  obtain ⟨rows', holds', hlater⟩ := reaches.keeps rows holds
  exact holds.keepsMoods holds' hlater

/-- Ann writes a line with a mood of hers, paints the mood over under another spelling, and tries
to delete it. -/
theorem line_follows_its_mood :
    let turn (call : Call) (draw : UInt64) : Turn := ⟨builtinMoods, call, fun _ => draw⟩
    let world : World ℕ := ⟨Turn.left [turn (.setMood "ann" "Calm" "oo" "  ") 0,
      turn (.createConversation "ann" "notes") 1,
      turn (.createLine "ann" "cv_1" ⟨"cow", false, "calm", "moo"⟩) 2] .fresh, [], 0⟩
    let service : Service ℕ := ⟨builtinMoods, pure 0⟩
    let painted := (service.setMood "ann" "CALM" "uu" "U " world).2
    Reachable {builtinMoods} world.database ∧
      (service.getLine "ann" "cv_1" "ln_2" world).1 =
        .ok ⟨"ln_2", "cow", false, "moo", .owned "Calm" "oo" "  "⟩ ∧
      (service.getLine "ann" "cv_1" "ln_2" painted).1 =
        .ok ⟨"ln_2", "cow", false, "moo", .owned "Calm" "uu" "U "⟩ ∧
      (service.getLine "ann" "cv_1" "ln_2" (service.deleteMood "ann" "calm" painted).2).1 =
        (service.getLine "ann" "cv_1" "ln_2" painted).1 := by
  intro turn world service painted
  have reachable : Reachable {service.builtins} world.database :=
    Turn.left_reaches _ (by simp [turn, service]) .fresh
  have reaches : Reaches {builtinMoods} world.database painted.database := by
    have hcall := Reaches.call (.refl world.database) service (Set.mem_singleton _)
      (fun world => .refl world.database) (.setMood "ann" "CALM" "uu" "U ")
    rwa [Service.perform, Operation.map_apply] at hcall
  have hline : (service.getLine "ann" "cv_1" "ln_2" world).1 =
      .ok ⟨"ln_2", "cow", false, "moo", .owned "Calm" "oo" "  "⟩ := by decide +kernel
  have hwrite : (service.setMood "ann" "CALM" "uu" "U " world).1 =
      .ok ⟨.owned "Calm" "uu" "U ", .updated⟩ := by decide +kernel
  have reachable' : Reachable {service.builtins} painted.database := reachable.trans reaches
  obtain ⟨-, hpainted, -, -⟩ := lines_show_live_moods reachable
  obtain ⟨-, -, hkept, -⟩ := lines_show_live_moods reachable'
  refine ⟨reachable, hline, ?_, (hkept "ann" "calm" "ann").2 "cv_1" "ln_2"⟩
  rw [(hpainted "ann" "CALM" "uu" "U " _ hwrite).1.line, hline]
  have hkey : foldCase "Calm" = foldCase "CALM" := by decide +kernel
  simp [Except.map, Service.painted, Account.repainted, Account.hasKey, Mood.owned, hkey]

end MoodStore
