import Mathlib.Data.List.Nodup
import MoodStore.Conversation.Held
import MoodStore.Proofs.Json.Members
import MoodStore.Proofs.Json.RoundTrip

/-!
Moods, lines and conversations are read back from their JSON texts.

A record is written with its fields in order, but for some last ones that are left out; reading it
fills one slot for each field that was written. What is read differs from what was written in the
sequence ids only, which are not written.
-/

namespace MoodStore

namespace Json

variable {α β : Type}

/-! ### Records -/

namespace Value

section Records

variable {members : List (String × Value)}

/-- The members of a record, with their keys as texts. -/
def withTexts (members : List (String × Value)) : List (Text × Value) :=
  members.map fun (key, value) => (some key, value)

lemma count_withTexts (key : String) :
    ((withTexts members).map Prod.fst).count (some key) = (members.map Prod.fst).count key := by
  have hkeys : (withTexts members).map Prod.fst = (members.map Prod.fst).map some := by
    rw [withTexts, List.map_map, List.map_map]
    rfl
  rw [hkeys, List.count_map_of_injective _ some fun _ _ => Option.some_inj.mp]

lemma member?_of_mem (hdistinct : (members.map Prod.fst).Nodup) {m : String × Value}
    (hm : m ∈ members) : member? (withTexts members) m.1 = some m.2 := by
  refine member?_of_once ?_ (List.mem_map_of_mem hm)
  rw [count_withTexts]
  exact List.nodup_iff_count_le_one.mp hdistinct m.1

lemma member?_of_not_mem {key : String} (hkey : key ∉ members.map Prod.fst) :
    member? (withTexts members) key = none := by
  refine member?_eq_none fun value hvalue => hkey ?_
  obtain ⟨m, hm, heq⟩ := List.mem_map.mp hvalue
  obtain ⟨hsame, -⟩ := Prod.mk.inj heq
  exact Option.some_inj.mp hsame ▸ List.mem_map_of_mem hm

lemma keysFit_withTexts {fields : List String} (hdistinct : (members.map Prod.fst).Nodup) :
    keysFit fields (withTexts members) = true := by
  refine keysFit_iff.mpr ⟨fun m hm => ?_, fun field _ => ?_⟩
  · obtain ⟨_, -, rfl⟩ := List.mem_map.mp hm
    exact Option.some_ne_none _
  · rw [count_withTexts]
    exact List.nodup_iff_count_le_one.mp hdistinct field

/-- A record whose last fields are left out fills the slots of those that were written. -/
lemma slots?_record (missing : List String) {fields : List String}
    (hfields : members.map Prod.fst ++ missing = fields) (hdistinct : fields.Nodup) :
    (record members).slots? fields =
      some (members.map (fun m => some m.2) ++ List.replicate missing.length none) := by
  subst hfields
  obtain ⟨hkeys, -, hapart⟩ := List.nodup_append.mp hdistinct
  have hwritten : (members.map Prod.fst).map (member? (withTexts members)) =
      members.map fun m => some m.2 := by
    rw [List.map_map]
    exact List.map_congr_left fun m hm => member?_of_mem hkeys hm
  have hmissing : missing.map (member? (withTexts members)) =
      List.replicate missing.length none := by
    rw [← List.map_const']
    refine List.map_congr_left fun key hkey => member?_of_not_mem fun hmem => ?_
    exact hapart key hmem key hkey rfl
  rw [record, slots?, ← withTexts, if_pos (keysFit_withTexts hkeys), List.map_append, hwritten,
    hmissing]

end Records

end Value

/-! ### Codecs -/

namespace Codec

lemma encode_through (codec : Codec β) (shown : α → β) (held : β → α) (x : α) :
    (codec.through shown held).encode x = codec.encode (shown x) := rfl

lemma decode?_through (codec : Codec β) (shown : α → β) (held : β → α) (text : String) :
    (codec.through shown held).decode? text = (codec.decode? text).map held :=
  (Option.map_bind ..).symm

/-- What is written is read back, but for what is not written, and is then written in the same way.
What is read, from any text, is kept by writing and reading it. -/
structure ReadsBack (codec : Codec α) (written : α → α) : Prop where
  back : ∀ x, codec.decode? (codec.encode x) = some (written x)
  again : ∀ x, (codec.decode? (codec.encode x)).map codec.encode = some (codec.encode x)
  kept : ∀ text x, codec.decode? text = some x → codec.decode? (codec.encode x) = some x

/-- All of a value is written, and it is read from what was written. -/
structure Faithful (codec : Codec α) : Prop where
  plain : ∀ x, (codec.toJson x).Plain
  back : ∀ x, codec.ofJson? (codec.toJson x) = some x

namespace Faithful

variable {codec : Codec β} (h : codec.Faithful)

include h

lemma decode?_encode (x : β) : codec.decode? (codec.encode x) = some x := by
  rw [decode?, encode, (h.plain x).parse?_render, Option.bind_some, h.back]

lemma readsBack : codec.ReadsBack id where
  back := h.decode?_encode
  again x := by rw [h.decode?_encode, Option.map_some]
  kept _ x _ := h.decode?_encode x

lemma readsBack_through {shown : α → β} {held : β → α} (hshown : ∀ y, shown (held y) = y) :
    (codec.through shown held).ReadsBack fun x => held (shown x) := by
  have hback : ∀ x, (codec.through shown held).decode? ((codec.through shown held).encode x) =
      some (held (shown x)) := by
    intro x
    rw [decode?_through, encode_through, h.decode?_encode, Option.map_some]
  refine ⟨hback, fun x => ?_, fun text x htext => ?_⟩
  · rw [hback, Option.map_some, encode_through, encode_through, hshown]
  · rw [decode?_through] at htext
    obtain ⟨y, -, rfl⟩ := Option.map_eq_some_iff.mp htext
    rw [hback, hshown]

end Faithful

end Codec

end Json

open Json (Codec Value)

/-! ### Moods, lines and conversations -/

namespace Tier

lemma toJson_plain (tier : Tier) : tier.toJson.Plain := by
  cases tier with
  | dynamic => exact .string "dynamic"
  | static => exact .string "static"

lemma ofJson?_toJson (tier : Tier) : ofJson? tier.toJson = some tier := by
  cases tier with
  | dynamic => rfl
  | static => rfl

end Tier

namespace Mood

lemma toJson_plain (mood : Mood) : mood.toJson.Plain := by
  refine .record ?_
  simp only [List.forall_mem_cons]
  exact ⟨.string _, .string _, .string _, mood.tier.toJson_plain, by simp⟩

lemma ofJson?_toJson (mood : Mood) : ofJson? mood.toJson = some mood := by
  have hslots : mood.toJson.slots? fields = _ := Value.slots?_record [] rfl (by decide)
  rw [ofJson?, hslots]
  simp [Value.required?, Value.asString?, Value.string, Tier.ofJson?_toJson]

end Mood

namespace Line

lemma toJson_plain (line : Line) : line.toJson.Plain := by
  refine .record ?_
  simp only [List.forall_mem_cons]
  exact ⟨.string _, .string _, .bool _, .string _, line.mood.toJson_plain, by simp⟩

lemma ofJson?_toJson (line : Line) : ofJson? line.toJson = some line := by
  have hslots : line.toJson.slots? fields = _ := Value.slots?_record [] rfl (by decide)
  rw [ofJson?, hslots]
  simp [Value.required?, Value.asString?, Value.asBool?, Value.string, Mood.ofJson?_toJson]

lemma listOfJson?_toJson (lines : List Line) :
    listOfJson? (.array (lines.map toJson)) = some lines := by
  have hmap : (lines.map toJson).mapM ofJson? = some lines := by
    induction lines with
    | nil => rfl
    | cons line lines ih =>
      rw [List.map_cons, List.mapM_cons, ofJson?_toJson, ih]
      rfl
  exact hmap

end Line

namespace Conversation

lemma toJson_of_nil {conversation : Conversation} (h : conversation.lines = []) :
    conversation.toJson =
      .record [("id", .string conversation.id), ("heading", .string conversation.heading)] := by
  rw [toJson, if_pos h]
  rfl

lemma toJson_of_ne_nil {conversation : Conversation} (h : conversation.lines ≠ []) :
    conversation.toJson =
      .record [("id", .string conversation.id), ("heading", .string conversation.heading),
        ("lines", .array (conversation.lines.map Line.toJson))] := by
  rw [toJson, if_neg h]
  rfl

lemma toJson_plain (conversation : Conversation) : conversation.toJson.Plain := by
  have hlines : (Value.array (conversation.lines.map Line.toJson)).Plain := by
    refine .array fun item hitem => ?_
    obtain ⟨line, -, rfl⟩ := List.mem_map.mp hitem
    exact line.toJson_plain
  by_cases hempty : conversation.lines = []
  · rw [toJson_of_nil hempty]
    refine .record ?_
    simp only [List.forall_mem_cons]
    exact ⟨.string _, .string _, by simp⟩
  · rw [toJson_of_ne_nil hempty]
    refine .record ?_
    simp only [List.forall_mem_cons]
    exact ⟨.string _, .string _, hlines, by simp⟩

lemma ofJson?_toJson (conversation : Conversation) :
    ofJson? conversation.toJson = some conversation := by
  obtain ⟨id, heading, lines⟩ := conversation
  by_cases hempty : lines = []
  · subst hempty
    rw [toJson_of_nil rfl]
    have hslots : (Value.record [("id", .string id), ("heading", .string heading)]).slots? fields =
      _ := Value.slots?_record ["lines"] rfl (by decide)
    rw [ofJson?, hslots]
    simp [Value.required?, Value.optional?, Value.asString?, Value.string]
  · rw [toJson_of_ne_nil hempty]
    have hslots : (Value.record [("id", .string id), ("heading", .string heading),
        ("lines", .array (lines.map Line.toJson))]).slots? fields = _ :=
      Value.slots?_record [] rfl (by decide)
    rw [ofJson?, hslots]
    simp [Value.required?, Value.optional?, Value.asString?, Value.string, Line.listOfJson?_toJson]

end Conversation

/-! ### Sequence ids -/

lemma Tier.codec_faithful : Tier.codec.Faithful := ⟨toJson_plain, ofJson?_toJson⟩

lemma Mood.codec_faithful : Mood.codec.Faithful := ⟨toJson_plain, ofJson?_toJson⟩

lemma Line.codec_faithful : Line.codec.Faithful := ⟨toJson_plain, ofJson?_toJson⟩

lemma Conversation.codec_faithful : Conversation.codec.Faithful := ⟨toJson_plain, ofJson?_toJson⟩

namespace HeldConversation

lemma shown_ofConversation (conversation : Conversation) :
    (ofConversation conversation).shown = conversation := by
  have hlines : conversation.lines.map (HeldLine.shown ∘ HeldLine.ofLine) = conversation.lines :=
    List.map_id _
  rw [ofConversation, shown, List.map_map, hlines]

lemma ofConversation_shown (conversation : HeldConversation) :
    ofConversation conversation.shown = conversation.unnumbered := by
  rw [ofConversation, shown, List.map_map]
  rfl

end HeldConversation

/-- **Moods, lines and conversations are read back from their JSON texts.** Whatever their texts
contain, and however many lines a conversation has, they are read back without their sequence ids
and then written in the same way. What is read from any text, with its fields in any order or in an
array and with any unknown fields, is kept by writing and reading it. A conversation without lines
is written without the field, and it is read back without lines. -/
theorem models_are_read_back :
    Tier.codec.ReadsBack id ∧
      HeldMood.codec.ReadsBack HeldMood.unnumbered ∧
      HeldLine.codec.ReadsBack HeldLine.unnumbered ∧
      HeldConversation.codec.ReadsBack HeldConversation.unnumbered ∧
      ∀ conversation : HeldConversation, conversation.lines = [] →
        HeldConversation.codec.toJson conversation =
            .record [("id", .string conversation.id), ("heading", .string conversation.heading)] ∧
          HeldConversation.codec.decode? (HeldConversation.codec.encode conversation) =
            some ⟨conversation.id, conversation.heading, [], none⟩ := by
  have hmood : HeldMood.codec.ReadsBack HeldMood.unnumbered :=
    Mood.codec_faithful.readsBack_through fun _ => rfl
  have hline : HeldLine.codec.ReadsBack HeldLine.unnumbered :=
    Line.codec_faithful.readsBack_through fun _ => rfl
  have hconversation : HeldConversation.codec.ReadsBack HeldConversation.unnumbered := by
    have hreads : HeldConversation.codec.ReadsBack _ :=
      Conversation.codec_faithful.readsBack_through HeldConversation.shown_ofConversation
    rwa [funext HeldConversation.ofConversation_shown] at hreads
  refine ⟨Tier.codec_faithful.readsBack, hmood, hline, hconversation, fun conversation hempty => ?_⟩
  have hshown : conversation.shown.lines = [] := by
    rw [HeldConversation.shown, hempty, List.map_nil]
  refine ⟨Conversation.toJson_of_nil hshown, ?_⟩
  rw [hconversation.back, HeldConversation.unnumbered, hempty, List.map_nil]

theorem conversation_of_rows_is_read_back :
    let mood : MoodRow := ⟨3, "ann", "Süß", "süß", "oo", "U "⟩
    let line : HeldLine := ⟨"ln_5", "cow", false, "\"moo\"\n\x01", mood.held⟩
    let conversation : HeldConversation :=
      { ConversationRow.held ⟨9, "cv_7", "ann", "notes"⟩ with lines := [line] }
    HeldConversation.codec.decode? (HeldConversation.codec.encode conversation) =
      some ⟨"cv_7", "notes", [{ line with mood := .ofMood mood.toMood }], none⟩ := by
  intro mood line conversation
  obtain ⟨-, -, -, hconversation, -⟩ := models_are_read_back
  exact hconversation.back conversation

/-- A conversation with an unknown member, its fields in another order and arrays in place of the
line and of its mood. -/
example :
    let line := "[\"ln_5\",\"cow\",true,\"\\u006doo\",[\"borg\",\"==\",\"  \",\"static\"]]"
    let text := "\x7b\"lines\": [" ++ line ++ "], \"x\":[0.5],\"id\":\"cv_7\",\"heading\":\"\"\x7d"
    HeldConversation.codec.decode? text =
      some ⟨"cv_7", "", [⟨"ln_5", "cow", true, "moo", .ofMood (.builtin "borg" "==" "  ")⟩],
        none⟩ := by
  decide +kernel

end MoodStore
