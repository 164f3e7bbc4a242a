import Mathlib.Tactic.Common
import MoodStore.Proofs.Json.RoundTrip

/-!
Object texts, member by member.

A text is read in the same way wherever it stands as a part: the scanner only adds to the tokens
before it, and the builder leaves the enclosing arrays and objects alone. So the members of an
object are read one by one, whatever texts stand for their values.
-/

namespace MoodStore.Json

/-! ### Texts inside other texts -/

namespace Scanner

/-- The scanner, with tokens read before. -/
def onto (before : List Token) (s : Scanner) : Scanner := ⟨s.mode, s.tokens ++ before⟩

lemma start_append (tokens before : List Token) (c : Char) :
    start (tokens ++ before) c = (start tokens c).map (onto before) := by
  unfold start
  by_cases hblank : isBlank c
  · rw [if_pos hblank, if_pos hblank]
    rfl
  · rw [if_neg hblank, if_neg hblank]
    cases punctuation? c with
    | some token => rfl
    | none =>
      simp only
      split_ifs <;> rfl

lemma step_onto (before : List Token) (s : Scanner) (c : Char) :
    (s.onto before).step c = (s.step c).map (onto before) := by
  obtain ⟨mode, tokens⟩ := s
  cases mode with
  | between => exact start_append tokens before c
  | word seen =>
    simp only [onto, step]
    split_ifs
    · rfl
    · rw [Option.map_bind]
      exact congrArg _ (funext fun token => start_append (token :: tokens) before c)
  | digits seen =>
    simp only [onto, step]
    split_ifs
    · rfl
    · rw [Option.map_bind]
      exact congrArg _ (funext fun n => start_append (.number n :: tokens) before c)
  | literal pieces =>
    simp only [onto, step]
    split_ifs <;> rfl
  | escape pieces =>
    simp only [onto, step]
    split_ifs
    · rfl
    · rw [Option.map_map]
      rfl
  | hex pieces left value =>
    simp only [onto, step]
    rw [Option.map_map]
    refine congrArg (Option.map · _) (funext fun d => ?_)
    simp only [Function.comp_apply]
    split_ifs <;> rfl

lemma run_onto (before : List Token) (s : Scanner) (cs : List Char) :
    (s.onto before).run cs = (s.run cs).map (onto before) := by
  induction cs generalizing s with
  | nil => rfl
  | cons c cs ih =>
    rw [run_cons, run_cons, step_onto, Option.map_bind, Option.bind_map]
    exact congrArg _ (funext fun t => ih t)

lemma finish_onto (before : List Token) (s : Scanner) :
    (s.onto before).finish = s.finish.map (· ++ before) := by
  obtain ⟨mode, tokens⟩ := s
  cases mode with
  | between => rfl
  | word seen =>
    simp only [onto, finish, Option.map_map]
    rfl
  | digits seen =>
    simp only [onto, finish, Option.map_map]
    rfl
  | literal => rfl
  | escape => rfl
  | hex => rfl

lemma step_punctuation {s : Scanner} {tokens : List Token} (h : s.finish = some tokens) {c : Char}
    {token : Token} (hc : punctuation? c = some token) :
    s.step c = some ⟨.between, token :: tokens⟩ := by
  obtain ⟨-, hlower, hnumeric⟩ := apart_of_punctuation hc
  obtain ⟨mode, before⟩ := s
  cases mode with
  | between =>
    obtain rfl := Option.some_inj.mp h
    exact start_punctuation hc before
  | word seen =>
    obtain ⟨word, hword, rfl⟩ := Option.map_eq_some_iff.mp h
    simp [step, hlower, hword, start_punctuation hc]
  | digits seen =>
    obtain ⟨n, hn, rfl⟩ := Option.map_eq_some_iff.mp h
    simp [step, hnumeric, hn, start_punctuation hc]
  | literal => cases h
  | escape => cases h
  | hex => cases h

/-- The tokens of a text are read after a punctuation mark as they are read at the start. -/
lemma run_part {s : Scanner} {before : List Token} (h : s.finish = some before) {c : Char}
    {token : Token} (hc : punctuation? c = some token) {cs : List Char} {tokens : List Token}
    (hcs : tokens? cs = some tokens) :
    ∃ t, s.run (c :: cs) = some t ∧ t.finish = some (tokens.reverse ++ token :: before) := by
  rw [tokens?, Option.map_eq_some_iff] at hcs
  obtain ⟨read, hread, rfl⟩ := hcs
  obtain ⟨t, hrun, hfinish⟩ := Option.bind_eq_some_iff.mp hread
  refine ⟨t.onto (token :: before), ?_, ?_⟩
  · calc s.run (c :: cs) = run (onto (token :: before) ⟨.between, []⟩) cs := by
          rw [run_cons, step_punctuation h hc, Option.bind_some]
          rfl
      _ = some (t.onto (token :: before)) := by rw [run_onto, hrun, Option.map_some]
  · rw [finish_onto, hfinish, Option.map_some, List.reverse_reverse]

end Scanner

namespace Builder

/-- The builder, inside of enclosing arrays and objects. -/
def onto (outer : List Frame) : Builder → Builder
  | want frames => want (frames ++ outer)
  | arrayStart frames => arrayStart (frames ++ outer)
  | objectStart frames => objectStart (frames ++ outer)
  | key members frames => key members (frames ++ outer)
  | colon members name frames => colon members name (frames ++ outer)
  | done value frames => done value (frames ++ outer)

lemma start_onto {frames : List Frame} {token : Token} {b : Builder}
    (h : start frames token = some b) (outer : List Frame) :
    start (frames ++ outer) token = some (b.onto outer) := by
  cases token <;> cases h <;> rfl

lemma step_onto {b b' : Builder} {token : Token} (h : b.step token = some b')
    (outer : List Frame) : (b.onto outer).step token = some (b'.onto outer) := by
  cases b with
  | want frames => exact start_onto h outer
  | arrayStart frames =>
    by_cases hclose : token = .closeBracket
    · subst hclose
      cases h
      rfl
    · -- any other token is read as the start of the first item
      have hstart : start (.array [] :: frames) token = some b' := by
        cases token <;> first | exact h | exact absurd rfl hclose
      have honto := start_onto hstart outer
      cases token <;> first | exact honto | exact absurd rfl hclose
  | objectStart frames => cases token <;> cases h <;> rfl
  | key members frames =>
    cases token <;> cases h
    rfl
  | colon members name frames =>
    cases token <;> cases h
    rfl
  | done value frames =>
    rcases frames with _ | ⟨_ | _, frames⟩ <;> cases token <;> cases h <;> rfl

lemma run_onto {b b' : Builder} {tokens : List Token} (h : b.run tokens = some b')
    (outer : List Frame) : (b.onto outer).run tokens = some (b'.onto outer) := by
  induction tokens generalizing b with
  | nil =>
    obtain rfl := Option.some_inj.mp h
    rfl
  | cons token tokens ih =>
    obtain ⟨next, hstep, hrun⟩ := Option.bind_eq_some_iff.mp h
    exact Option.bind_eq_some_iff.mpr ⟨_, step_onto hstep outer, ih hrun⟩

end Builder

lemma tokens?_of_parse? {text : String} {value : Value} (h : parse? text = some value) :
    ∃ tokens, tokens? text.toList = some tokens ∧
      ∀ frames, (Builder.want frames).run tokens = some (.done value frames) := by
  obtain ⟨tokens, htokens, hvalue⟩ := Option.bind_eq_some_iff.mp h
  obtain ⟨b, hrun, hfinish⟩ := Option.bind_eq_some_iff.mp hvalue
  have hdone : b = .done value [] := by
    unfold Builder.finish at hfinish
    split at hfinish
    · rw [Option.some_inj.mp hfinish]
    · cases hfinish
  subst hdone
  exact ⟨tokens, htokens, fun frames => Builder.run_onto hrun frames⟩

/-! ### Object texts -/

/-- A member as it is written: a text with its key, which escapes and blanks may spell in many ways,
and any text of its value. -/
structure Written where
  keyText : String
  valueText : String
  key : Text
  value : Value
  key_read : tokens? keyText.toList = some [.text key]
  value_read : parse? valueText = some value

namespace Written

def chars (w : Written) : List Char := w.keyText.toList ++ ':' :: w.valueText.toList

def member (w : Written) : Text × Value := (w.key, w.value)

end Written

/-- The text of an object with these members. -/
def objectText : List Written → String
  | [] => "\x7b\x7d"
  | w :: ws =>
    String.ofList ('\x7b' :: w.chars ++ (ws.flatMap (fun w => ',' :: w.chars) ++ ['\x7d']))

namespace Scanner

/-- The text may stop here, and its tokens take the builder this far. -/
def Leads (s : Scanner) (b : Builder) : Prop :=
  ∃ tokens, s.finish = some tokens ∧ (Builder.want []).run tokens.reverse = some b

namespace Leads

variable {s : Scanner} {b b' : Builder}

lemma start : Leads ⟨.between, []⟩ (.want []) := ⟨[], rfl, rfl⟩

lemma run_part (h : s.Leads b) {c : Char} {token : Token} (hc : punctuation? c = some token)
    {cs : List Char} {tokens : List Token} (hcs : tokens? cs = some tokens)
    (hb : b.run (token :: tokens) = some b') :
    ∃ t, s.run (c :: cs) = some t ∧ t.Leads b' := by
  obtain ⟨before, hfinish, hbuild⟩ := h
  obtain ⟨t, hrun, hfinish'⟩ := Scanner.run_part hfinish hc hcs
  refine ⟨t, hrun, _, hfinish', ?_⟩
  rw [List.reverse_append, List.reverse_reverse, List.reverse_cons, List.append_assoc,
    Builder.run_append, hbuild]
  exact hb

lemma run_member (h : s.Leads b) {c : Char} {token : Token} (hc : punctuation? c = some token)
    (w : Written) {seen : List (Text × Value)}
    (hb : b.run [token, .text w.key] = some (.colon seen w.key [])) :
    ∃ t, s.run (c :: w.chars) = some t ∧ t.Leads (.done w.value [.object seen w.key]) := by
  obtain ⟨tokens, htokens, hbuild⟩ := tokens?_of_parse? w.value_read
  obtain ⟨t, hkey, hcolon⟩ := h.run_part hc w.key_read hb
  obtain ⟨u, hvalue, hdone⟩ := hcolon.run_part (c := ':') rfl htokens (hbuild _)
  refine ⟨u, ?_, hdone⟩
  rw [Written.chars, ← List.cons_append, run_append, hkey, Option.bind_some, hvalue]

lemma run_members (ws : List Written) {last : Value} {name : Text} {seen : List (Text × Value)}
    (h : s.Leads (.done last [.object seen name])) :
    ∃ t, s.run (ws.flatMap (fun w => ',' :: w.chars) ++ ['\x7d']) = some t ∧
      t.Leads (.done (.object (((name, last) :: seen).reverse ++ ws.map Written.member)) []) := by
  induction ws generalizing s last name seen with
  | nil =>
    rw [List.map_nil, List.append_nil]
    have hnothing : tokens? [] = some [] := rfl
    exact h.run_part (c := '\x7d') rfl hnothing rfl
  | cons w ws ih =>
    -- `last` goes to the members that were seen, and the next one takes its place
    have hkey : (Builder.done last [.object seen name]).run [.comma, .text w.key] =
        some (.colon ((name, last) :: seen) w.key []) := rfl
    obtain ⟨t, hmember, hdone⟩ := h.run_member (c := ',') rfl w hkey
    obtain ⟨u, hmembers, hclosed⟩ := ih hdone
    refine ⟨u, ?_, ?_⟩
    · rw [List.flatMap_cons, List.append_assoc, run_append, hmember, Option.bind_some, hmembers]
    · rw [List.reverse_cons, List.append_assoc] at hclosed
      exact hclosed

end Leads

end Scanner

lemma parse?_of_leads {text : String} {value : Value}
    (h : ∃ s, Scanner.run ⟨.between, []⟩ text.toList = some s ∧ s.Leads (.done value [])) :
    parse? text = some value := by
  obtain ⟨s, hrun, tokens, hfinish, hbuild⟩ := h
  rw [parse?, tokens?, hrun, Option.bind_some, hfinish, Option.map_some, Option.bind_some,
    Value.ofTokens?, hbuild, Option.bind_some, Builder.finish]

/-- **An object is read member by member**, whatever texts its keys and values are written as. -/
theorem parse?_objectText (ws : List Written) :
    parse? (objectText ws) = some (.object (ws.map Written.member)) := by
  cases ws with
  | nil => rfl
  | cons w ws =>
    have hkey : (Builder.want []).run [.openBrace, .text w.key] = some (.colon [] w.key []) := rfl
    obtain ⟨s, hfirst, hdone⟩ := Scanner.Leads.start.run_member (c := '\x7b') rfl w hkey
    obtain ⟨t, hrest, hclosed⟩ := hdone.run_members ws
    refine parse?_of_leads ⟨t, ?_, hclosed⟩
    rw [objectText, String.toList_ofList, Scanner.run_append, hfirst, Option.bind_some, hrest]

end MoodStore.Json
