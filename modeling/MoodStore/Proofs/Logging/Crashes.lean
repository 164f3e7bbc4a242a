import Mathlib.Tactic.Common
import MoodStore.Logging.State

/-!
Crash messages in the log.

A message is logged on one line. One that is too long is cut after a number of characters and marked
with three dots; since the marked text is again too long, and cut at the same place, cutting it once
more changes nothing.
-/

namespace MoodStore.Logging

/-- The text takes one line. -/
def IsLine (text : String) : Prop := '\n' ∉ text.toList ∧ '\r' ∉ text.toList

/-- The text with a space in place of each line break. -/
def flattened (text : String) : String :=
  String.ofList (text.toList.map fun c => if c = '\n' ∨ c = '\r' then ' ' else c)

variable {text : String} {cap : ℕ}

@[simp] lemma length_flattened (text : String) : (flattened text).length = text.length := by
  rw [flattened, String.length_ofList, List.length_map, String.length_toList]

lemma isLine_flattened (text : String) : IsLine (flattened text) := by
  have hspace : ∀ c ∈ (flattened text).toList, c ≠ '\n' ∧ c ≠ '\r' := by
    rw [flattened, String.toList_ofList, List.forall_mem_map]
    intro c _
    split_ifs with hbreak
    · decide
    · exact not_or.mp hbreak
  exact ⟨fun h => (hspace _ h).1 rfl, fun h => (hspace _ h).2 rfl⟩

lemma IsLine.flattened_eq (h : IsLine text) : flattened text = text := by
  have hkept : ∀ c ∈ text.toList, (if c = '\n' ∨ c = '\r' then ' ' else c) = c := by
    intro c hc
    refine if_neg ?_
    rintro (rfl | rfl)
    · exact h.1 hc
    · exact h.2 hc
  rw [flattened, List.map_congr_left hkept, List.map_id', String.ofList_toList]

lemma sanitize_eq (text : String) (cap : ℕ) :
    sanitize text cap = String.ofList ((flattened text).toList.take cap) ++
      if cap < text.length then "..." else "" := by
  have hlength : (text.toList.map fun c => if c = '\n' ∨ c = '\r' then ' ' else c).length =
      text.length := by
    rw [List.length_map, String.length_toList]
  simp only [sanitize, flattened, String.toList_ofList, String.ofList_append, hlength]
  split <;> rfl

lemma sanitize_of_le (h : text.length ≤ cap) : sanitize text cap = flattened text := by
  have hall : (flattened text).toList.take cap = (flattened text).toList :=
    List.take_of_length_le (by rwa [String.length_toList, length_flattened])
  rw [sanitize_eq, hall, if_neg (Nat.not_lt.mpr h), String.append_empty, String.ofList_toList]

lemma sanitize_of_lt (h : cap < text.length) :
    sanitize text cap = String.ofList ((flattened text).toList.take cap) ++ "..." := by
  rw [sanitize_eq, if_pos h]

lemma length_take_flattened (h : cap < text.length) :
    ((flattened text).toList.take cap).length = cap := by
  refine List.length_take_of_le ?_
  rw [String.length_toList, length_flattened]
  exact Nat.le_of_lt h

lemma length_sanitize_of_lt (h : cap < text.length) : (sanitize text cap).length = cap + 3 := by
  rw [sanitize_of_lt h, String.length_append, String.length_ofList, length_take_flattened h]
  rfl

lemma length_sanitize_le (text : String) (cap : ℕ) : (sanitize text cap).length ≤ cap + 3 := by
  rcases Nat.lt_or_ge cap text.length with h | h
  · exact Nat.le_of_eq (length_sanitize_of_lt h)
  · rw [sanitize_of_le h, length_flattened]
    omega

lemma isLine_sanitize (text : String) (cap : ℕ) : IsLine (sanitize text cap) := by
  rcases Nat.lt_or_ge cap text.length with h | h
  · obtain ⟨hnewline, hreturn⟩ := isLine_flattened text
    rw [IsLine, sanitize_of_lt h, String.toList_append, String.toList_ofList]
    constructor
    · rw [List.mem_append]
      exact not_or.mpr ⟨fun hmem => hnewline (List.mem_of_mem_take hmem), by decide⟩
    · rw [List.mem_append]
      exact not_or.mpr ⟨fun hmem => hreturn (List.mem_of_mem_take hmem), by decide⟩
  · rw [sanitize_of_le h]
    exact isLine_flattened text

lemma sanitize_sanitize (text : String) (cap : ℕ) :
    sanitize (sanitize text cap) cap = sanitize text cap := by
  have hline := (isLine_sanitize text cap).flattened_eq
  rcases Nat.lt_or_ge cap text.length with h | h
  · -- with its mark the text is longer than the cap, and the mark is what is cut off again
    have hagain : cap < (sanitize text cap).length := by
      rw [length_sanitize_of_lt h]
      omega
    have htake : (sanitize text cap).toList.take cap = (flattened text).toList.take cap := by
      rw [sanitize_of_lt h, String.toList_append, String.toList_ofList,
        List.take_left' (length_take_flattened h)]
    rw [sanitize_of_lt hagain, hline, htake, sanitize_of_lt h]
  · have hagain : (sanitize text cap).length ≤ cap := by
      rwa [sanitize_of_le h, length_flattened]
    rw [sanitize_of_le hagain, hline]

/-- **Crash messages are cut to one line.** Whatever a text contains, what is logged of it takes one
line; a text of at most `cap` characters is logged with a space in place of each line break, and of
a longer one only the first `cap` characters are, with three dots behind them. What is logged is
logged in the same way again. So the event of a crash has a payload on one line of at most 163
characters. -/
theorem crash_messages_are_cut_to_one_line (text : String) (cap : ℕ) :
    ('\n' ∉ (sanitize text cap).toList ∧ '\r' ∉ (sanitize text cap).toList) ∧
      (text.length ≤ cap → sanitize text cap = flattened text) ∧
      (cap < text.length →
        sanitize text cap = String.ofList ((flattened text).toList.take cap) ++ "...") ∧
      (sanitize text cap).length ≤ cap + 3 ∧
      sanitize (sanitize text cap) cap = sanitize text cap ∧
      ∀ location payload, ∃ line, IsLine line ∧ line.length ≤ 163 ∧
        crashed location payload = .of .error "panic_captured" "core" "error"
          [("location", location), ("payload", line)] :=
  ⟨isLine_sanitize text cap, sanitize_of_le, sanitize_of_lt, length_sanitize_le text cap,
    sanitize_sanitize text cap, fun _ payload =>
      ⟨_, isLine_sanitize (payload.getD "non-string panic payload") maxPayloadChars,
        length_sanitize_le _ maxPayloadChars, rfl⟩⟩

theorem cut_at_a_line_break :
    let text := "moo\r\nmoo"
    text.length ≤ 8 ∧ sanitize text 8 = "moo  moo" ∧ 4 < text.length ∧
      sanitize text 4 = "moo ..." ∧ sanitize "moo ..." 4 = "moo ..." := by
  intro text
  obtain ⟨-, hshort, -⟩ := crash_messages_are_cut_to_one_line text 8
  obtain ⟨-, -, hlong, -, hagain, -⟩ := crash_messages_are_cut_to_one_line text 4
  have hcut : sanitize text 4 = "moo ..." := (hlong (by decide +kernel)).trans (by decide +kernel)
  refine ⟨by decide +kernel, (hshort (by decide +kernel)).trans (by decide +kernel),
    by decide +kernel, hcut, ?_⟩
  rwa [hcut] at hagain

end MoodStore.Logging
