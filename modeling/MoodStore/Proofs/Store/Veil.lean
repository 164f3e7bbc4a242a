import Mathlib.Logic.Function.Basic
import MoodStore.Proofs.Store.Statements
import MoodStore.Store.Database

/-!
Tables under a veil.

The veil hides what the rows are filled with: it blots out the headings of conversations and the
animal, the manner and the text of lines, and it exchanges the eyes and tongues of moods, different
ones for different ones. No statement looks through it: on veiled tables it answers the same and
leaves the same, but for the veil.
-/

namespace MoodStore

/-- Eyes and tongues that are put in the place of others, no two in the place of one. -/
structure Paint where
  eyes : String → String
  tongue : String → String
  eyes_injective : Function.Injective eyes
  tongue_injective : Function.Injective tongue

/-- Every mood keeps its eyes and its tongue. -/
def Paint.none : Paint := ⟨id, id, Function.injective_id, Function.injective_id⟩

/-! ### The veil -/

section Veil

variable (paint : Paint)

def MoodRow.veiled (row : MoodRow) : MoodRow :=
  { row with eyes := paint.eyes row.eyes, tongue := paint.tongue row.tongue }

def ConversationRow.veiled (row : ConversationRow) : ConversationRow := { row with heading := "" }

def LineRow.veiled (line : LineRow) : LineRow :=
  { line with animal := "", think := false, text := "" }

def Rows.veiled (rows : Rows) : Rows :=
  { rows with
    moods := rows.moods.map (MoodRow.veiled paint)
    conversations := rows.conversations.map ConversationRow.veiled
    lines := rows.lines.map LineRow.veiled }

def Database.veiled (db : Database) : Database :=
  { db with rows := db.rows.map (Rows.veiled paint) }

/-- On veiled tables the one statement does what the other does on the tables themselves, and
answers what is seen of the other's answer. -/
def Veils {α γ : Type} (view : α → γ) (statement : Rows → Except Failure α × Rows)
    (veiled : Rows → Except Failure γ × Rows) : Prop :=
  ∀ rows : Rows, veiled (rows.veiled paint) =
    ((statement rows).1.map view, (statement rows).2.veiled paint)

end Veil

namespace Rows

variable {paint : Paint} {rows : Rows}

/-! ### Moods -/

lemma findMood?_veiled (owner key : String) :
    (rows.veiled paint).findMood? owner key =
      (rows.findMood? owner key).map (MoodRow.veiled paint) := by
  rw [findMood?, veiled, List.find?_map]
  rfl

lemma moodsOf_veiled (owner : String) :
    (rows.veiled paint).moodsOf owner = (rows.moodsOf owner).map (MoodRow.veiled paint) := by
  rw [moodsOf, veiled, List.filter_map]
  rfl

lemma outcomeOn_veiled (row : MoodRow) (eyes tongue : String) :
    outcomeOn (row.veiled paint) (paint.eyes eyes) (paint.tongue tongue) =
      outcomeOn row eyes tongue := by
  simp only [outcomeOn, MoodRow.veiled, paint.eyes_injective.eq_iff, paint.tongue_injective.eq_iff]

lemma writeMood_veiled (owner name eyes tongue : String) :
    Veils paint MoodWrite.outcome
      (fun rows => (.ok (rows.writeMood owner name eyes tongue).1,
        (rows.writeMood owner name eyes tongue).2))
      fun rows =>
        (.ok (rows.writeMood owner name (paint.eyes eyes) (paint.tongue tongue)).1.outcome,
          (rows.writeMood owner name (paint.eyes eyes) (paint.tongue tongue)).2) := by
  intro rows
  simp only [writeMood, findMood?_veiled, Except.map, Prod.mk.injEq, Except.ok.injEq]
  cases rows.findMood? owner (foldCase name) with
  | none => exact ⟨rfl, by simp [veiled, MoodRow.veiled]⟩
  | some row =>
    refine ⟨outcomeOn_veiled row eyes tongue, ?_⟩
    have hmoods : ∀ other : MoodRow, (if isMood owner (foldCase name) (other.veiled paint) then
        { row.veiled paint with eyes := paint.eyes eyes, tongue := paint.tongue tongue }
        else other.veiled paint) = (if isMood owner (foldCase name) other then
          { row with eyes, tongue } else other).veiled paint := by
      intro other
      have hsame : isMood owner (foldCase name) (other.veiled paint) =
          isMood owner (foldCase name) other := rfl
      rw [hsame]
      split <;> rfl
    simp only [veiled, Option.map_some, List.map_map, Function.comp_def, hmoods]

lemma filter_isMood_veiled (owner key : String) :
    (rows.veiled paint).moods.filter (isMood owner key) =
      (rows.moods.filter (isMood owner key)).map (MoodRow.veiled paint) := by
  rw [veiled, List.filter_map]
  rfl

lemma isMoodUsed_veiled (row : MoodRow) :
    (rows.veiled paint).isMoodUsed (row.veiled paint) = rows.isMoodUsed row := by
  rw [isMoodUsed, veiled, List.any_map]
  rfl

lemma deleteMood_veiled (owner key : String) :
    Veils paint id (fun rows => rows.deleteMood owner key) fun rows =>
      rows.deleteMood owner key := by
  intro rows
  have hused : (((rows.moods.filter (isMood owner key)).map (MoodRow.veiled paint)).any
      (rows.veiled paint).isMoodUsed) =
      (rows.moods.filter (isMood owner key)).any rows.isMoodUsed := by
    rw [List.any_map]
    exact congrArg _ (funext fun row => isMoodUsed_veiled row)
  have hkept : (rows.veiled paint).moods.filter (fun row => !isMood owner key row) =
      (rows.moods.filter fun row => !isMood owner key row).map (MoodRow.veiled paint) := by
    rw [veiled, List.filter_map]
    rfl
  simp only [deleteMood, filter_isMood_veiled, hused, hkept, List.length_map]
  split
  · rfl
  · rfl

lemma countLinesUsing_veiled (owner key : String) :
    (rows.veiled paint).countLinesUsing owner key = rows.countLinesUsing owner key := by
  simp only [countLinesUsing, veiled, List.filter_map, List.length_map, List.any_map]
  rfl

/-! ### Conversations -/

lemma findConversation?_veiled (owner publicId : String) :
    (rows.veiled paint).findConversation? owner publicId =
      (rows.findConversation? owner publicId).map ConversationRow.veiled := by
  rw [findConversation?, veiled, List.find?_map]
  rfl

lemma conversationsOf_veiled (owner : String) :
    (rows.veiled paint).conversationsOf owner =
      (rows.conversationsOf owner).map ConversationRow.veiled := by
  rw [conversationsOf, veiled, List.filter_map]
  rfl

lemma insertConversation_veiled (publicId owner heading : String) :
    Veils paint ConversationRow.veiled
      (fun rows => rows.insertConversation publicId owner heading)
      fun rows => rows.insertConversation publicId owner "" := by
  intro rows
  beta_reduce
  have htaken : ((rows.veiled paint).conversations.any fun row => row.publicId == publicId) =
      rows.conversations.any fun row => row.publicId == publicId := by
    rw [veiled, List.any_map]
    rfl
  cases hfree : rows.conversations.any fun row => row.publicId == publicId with
  | true =>
    rw [insertConversation_of_taken _ _ hfree,
      insertConversation_of_taken _ _ (htaken.trans hfree)]
    rfl
  | false =>
    rw [insertConversation_of_free _ _ hfree, insertConversation_of_free _ _ (htaken.trans hfree)]
    simp [veiled, ConversationRow.veiled, Except.map]

lemma deleteConversation_veiled (owner publicId : String) :
    Veils paint id (fun rows => (.ok (rows.deleteConversation owner publicId).1,
        (rows.deleteConversation owner publicId).2))
      fun rows => (.ok (rows.deleteConversation owner publicId).1,
        (rows.deleteConversation owner publicId).2) := by
  intro rows
  simp only [deleteConversation, veiled, List.filter_map, List.length_map, List.any_map]
  rfl

/-! ### Lines -/

lemma linesOf_veiled (conversation : Nat) :
    (rows.veiled paint).linesOf conversation = (rows.linesOf conversation).map LineRow.veiled := by
  rw [linesOf, veiled, List.filter_map]
  rfl

lemma moodOf?_veiled (line : LineRow) :
    (rows.veiled paint).moodOf? line.veiled = (rows.moodOf? line).map (MoodRow.veiled paint) := by
  simp only [moodOf?, LineRow.veiled, veiled]
  cases line.mood with
  | none => rfl
  | some id =>
    rw [Option.bind_some, Option.bind_some, List.find?_map]
    rfl

lemma refersToLive_veiled (line : LineRow) :
    (rows.veiled paint).refersToLive line.veiled = rows.refersToLive line := by
  simp only [refersToLive, veiled, LineRow.veiled, List.any_map]
  rfl

lemma insertLine_veiled (line : LineRow) :
    Veils paint LineRow.veiled (fun rows => rows.insertLine line)
      fun rows => rows.insertLine line.veiled := by
  intro rows
  beta_reduce
  have htaken :
      ((rows.veiled paint).lines.any fun other => other.publicId == line.veiled.publicId) =
        rows.lines.any fun other => other.publicId == line.publicId := by
    rw [veiled, List.any_map]
    rfl
  cases hfree : rows.lines.any fun other => other.publicId == line.publicId with
  | true =>
    rw [insertLine_of_taken hfree, insertLine_of_taken (htaken.trans hfree)]
    rfl
  | false =>
    cases hlive : rows.refersToLive line with
    | false =>
      rw [insertLine_of_dangling hfree hlive, insertLine_of_dangling (htaken.trans hfree)
        ((refersToLive_veiled line).trans hlive)]
      rfl
    | true =>
      rw [insertLine_of_live hfree hlive, insertLine_of_live (htaken.trans hfree)
        ((refersToLive_veiled line).trans hlive)]
      simp [veiled, LineRow.veiled, Except.map]

lemma isLineOf_veiled (owner conversation : String) (line : LineRow) :
    (rows.veiled paint).isLineOf owner conversation line.veiled =
      rows.isLineOf owner conversation line := by
  rw [isLineOf, veiled, List.any_map]
  rfl

lemma isLineOf_comp_veiled (owner conversation publicId : String) :
    (fun line : LineRow => line.publicId == publicId &&
        (rows.veiled paint).isLineOf owner conversation line) ∘ LineRow.veiled =
      fun line => line.publicId == publicId && rows.isLineOf owner conversation line :=
  funext fun line => congrArg (line.publicId == publicId && ·) (isLineOf_veiled ..)

lemma findLine?_veiled (owner conversation publicId : String) :
    (rows.veiled paint).findLine? owner conversation publicId =
      (rows.findLine? owner conversation publicId).map LineRow.veiled := by
  have hlines : (rows.veiled paint).lines = rows.lines.map LineRow.veiled := rfl
  rw [findLine?, hlines, List.find?_map, isLineOf_comp_veiled, findLine?]

lemma deleteLine_veiled (owner conversation publicId : String) :
    Veils paint id (fun rows => (.ok (rows.deleteLine owner conversation publicId).1,
        (rows.deleteLine owner conversation publicId).2))
      fun rows => (.ok (rows.deleteLine owner conversation publicId).1,
        (rows.deleteLine owner conversation publicId).2) := by
  intro rows
  have hlines : (rows.veiled paint).lines = rows.lines.map LineRow.veiled := rfl
  have hkept : (fun line : LineRow => !(line.publicId == publicId &&
      (rows.veiled paint).isLineOf owner conversation line)) ∘ LineRow.veiled =
      fun line => !(line.publicId == publicId && rows.isLineOf owner conversation line) :=
    funext fun line => congrArg (!·) (congrFun (isLineOf_comp_veiled ..) line)
  simp only [deleteLine, hlines, List.filter_map, isLineOf_comp_veiled, hkept, List.length_map]
  rfl

end Rows

end MoodStore
