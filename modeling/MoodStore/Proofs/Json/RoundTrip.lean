import Mathlib.Tactic.Common
import MoodStore.Json.Parse
import MoodStore.Json.Render

/-!
What is written is read back.

The scanner gets tokens back from their spellings, and the builder a value from its tokens. So a
value without numbers, all of whose texts have content, is what its rendering is parsed as.
-/

namespace MoodStore.Json

/-! ### Literals -/

lemma hexDigit?_hexDigit : ∀ n < 16, hexDigit? (hexDigit n) = some n := by
  decide

namespace Piece

/-- In front of any other pieces of a literal, the piece is read as the character. -/
def StandsFor (piece : Piece) (c : Char) : Prop :=
  ∀ rest, joinPieces (piece :: rest) = (joinPieces rest).map (c :: ·)

lemma StandsFor.char (c : Char) : (char c).StandsFor c := fun _ => rfl

lemma StandsFor.unit {c : Char} (h : c.toNat < 0x20) : (unit c.toNat).StandsFor c := by
  intro rest
  have hhigh : isHighSurrogate c.toNat = false := by
    simp only [isHighSurrogate, Bool.and_eq_false_iff, decide_eq_false_iff_not]
    omega
  have hlow : isLowSurrogate c.toNat = false := by
    simp only [isLowSurrogate, Bool.and_eq_false_iff, decide_eq_false_iff_not]
    omega
  rw [joinPieces.eq_def]
  simp only [hhigh, hlow, Bool.false_eq_true, if_false, Char.ofNat_toNat]

end Piece

namespace Scanner

variable {pieces : List Piece} {tokens : List Token}

@[simp] lemma run_cons (s : Scanner) (c : Char) (cs : List Char) :
    s.run (c :: cs) = (s.step c).bind fun t => t.run cs := rfl

lemma run_numbered {n : ℕ} (h : n < 0x20) :
    run ⟨.literal pieces, tokens⟩
        ['\\', 'u', '0', '0', hexDigit (n / 16), hexDigit (n % 16)] =
      some ⟨.literal (.unit n :: pieces), tokens⟩ := by
  have hhigh : hexDigit? (hexDigit (n / 16)) = some (n / 16) := hexDigit?_hexDigit _ (by omega)
  have hlow : hexDigit? (hexDigit (n % 16)) = some (n % 16) := hexDigit?_hexDigit _ (by omega)
  have hzero : hexDigit? '0' = some 0 := by decide
  have hsum : 16 * (n / 16) + n % 16 = n := Nat.div_add_mod n 16
  simp [step, hhigh, hlow, hzero, hsum]

lemma run_escapeChar (c : Char) (pieces : List Piece) (tokens : List Token) :
    ∃ piece, run ⟨.literal pieces, tokens⟩ (escapeChar c) =
        some ⟨.literal (piece :: pieces), tokens⟩ ∧ piece.StandsFor c := by
  unfold escapeChar
  split_ifs with hquote hbackslash hb hf hn hr ht hcontrol
  · subst hquote
    exact ⟨_, rfl, .char _⟩
  · subst hbackslash
    exact ⟨_, rfl, .char _⟩
  · subst hb
    exact ⟨_, rfl, .char _⟩
  · subst hf
    exact ⟨_, rfl, .char _⟩
  · subst hn
    exact ⟨_, rfl, .char _⟩
  · subst hr
    exact ⟨_, rfl, .char _⟩
  · subst ht
    exact ⟨_, rfl, .char _⟩
  · exact ⟨_, run_numbered hcontrol, .unit hcontrol⟩
  · refine ⟨.char c, ?_, .char c⟩
    simp [step, hquote, hbackslash, hcontrol]

lemma run_escaped (cs : List Char) (pieces : List Piece) (tokens : List Token) :
    ∃ new, run ⟨.literal pieces, tokens⟩ (cs.flatMap escapeChar) =
        some ⟨.literal (new.reverse ++ pieces), tokens⟩ ∧ joinPieces new = some cs := by
  induction cs generalizing pieces with
  | nil => exact ⟨[], rfl, rfl⟩
  | cons c cs ih =>
    obtain ⟨piece, hpiece, stands⟩ := run_escapeChar c pieces tokens
    obtain ⟨new, hnew, hjoin⟩ := ih (piece :: pieces)
    refine ⟨piece :: new, ?_, ?_⟩
    · rw [List.flatMap_cons, run_append, hpiece, Option.bind_some, hnew, List.reverse_cons,
        List.append_assoc]
      rfl
    · rw [stands, hjoin, Option.map_some]

/-! ### Tokens -/

lemma apart_of_punctuation {c : Char} {token : Token} (h : punctuation? c = some token) :
    isBlank c = false ∧ c.isLower = false ∧ isNumeric c = false := by
  unfold punctuation? at h
  split at h <;> first | exact ⟨rfl, rfl, rfl⟩ | cases h

lemma start_punctuation {c : Char} {token : Token} (h : punctuation? c = some token)
    (tokens : List Token) : start tokens c = some ⟨.between, token :: tokens⟩ := by
  obtain ⟨hblank, -, -⟩ := apart_of_punctuation h
  rw [start, hblank, h, if_neg Bool.false_ne_true]

/-- The scanner has read these tokens, up to a word that any character but a letter ends. -/
structure Settles (s : Scanner) (tokens : List Token) : Prop where
  step_eq : ∀ c, c.isLower = false → s.step c = start tokens c
  finish_eq : s.finish = some tokens

lemma settles_between (tokens : List Token) : Settles ⟨.between, tokens⟩ tokens :=
  ⟨fun _ _ => rfl, rfl⟩

lemma settles_word {seen : List Char} {token : Token}
    (h : wordToken? seen.reverse = some token) (tokens : List Token) :
    Settles ⟨.word seen, tokens⟩ (token :: tokens) where
  step_eq c hc := by
    simp [step, hc, h]
  finish_eq := by
    simp [finish, h]

namespace Settles

variable {s : Scanner}

lemma run_punctuation (h : s.Settles tokens) {token : Token} {c : Char} (hspell : token.spell = [c])
    (hc : punctuation? c = some token) : s.run token.spell = some ⟨.between, token :: tokens⟩ := by
  obtain ⟨-, hlower, -⟩ := apart_of_punctuation hc
  rw [hspell, run_cons, h.step_eq c hlower, start_punctuation hc, Option.bind_some, run_nil]

lemma run_text (h : s.Settles tokens) (content : String) :
    s.run (Token.text (some content)).spell =
      some ⟨.between, .text (some content) :: tokens⟩ := by
  obtain ⟨pieces, hpieces, hjoin⟩ := run_escaped content.toList [] tokens
  have hopen : s.step '"' = some ⟨.literal [], tokens⟩ := h.step_eq '"' rfl
  have hclose : step ⟨.literal (pieces.reverse ++ []), tokens⟩ '"' =
      some ⟨.between, .text (some content) :: tokens⟩ := by
    simp [step, Text.ofPieces, hjoin]
  rw [Token.spell, literal, List.cons_append, run_cons, hopen, Option.bind_some, run_append]
  simp only [Option.getD_some, hpieces, Option.bind_some, run_cons, hclose, run_nil]

end Settles

/-- From this scanner, which has read some tokens before, the spelling of these tokens leads to one
that has read them as well. -/
def Reads (s : Scanner) (before tokens : List Token) : Prop :=
  ∃ t, s.run (tokens.flatMap Token.spell) = some t ∧ t.Settles (tokens.reverse ++ before)

namespace Reads

variable {s : Scanner} {before : List Token}

lemma nil (h : s.Settles before) : s.Reads before [] := ⟨s, rfl, h⟩

lemma append (h : s.Reads before tokens) {more : List Token}
    (hmore : ∀ t : Scanner, t.Settles (tokens.reverse ++ before) →
      t.Reads (tokens.reverse ++ before) more) : s.Reads before (tokens ++ more) := by
  obtain ⟨t, ht, hsettles⟩ := h
  obtain ⟨u, hu, hsettles'⟩ := hmore t hsettles
  refine ⟨u, ?_, ?_⟩
  · rw [List.flatMap_append, run_append, ht, Option.bind_some, hu]
  · rw [List.reverse_append, List.append_assoc]
    exact hsettles'

lemma cons {token : Token} (h : s.run token.spell = some ⟨.between, token :: before⟩)
    (hrest : Reads ⟨.between, token :: before⟩ (token :: before) tokens) :
    s.Reads before (token :: tokens) := by
  obtain ⟨t, ht, hsettles⟩ := hrest
  refine ⟨t, ?_, ?_⟩
  · rw [List.flatMap_cons, run_append, h, Option.bind_some, ht]
  · rw [List.reverse_cons, List.append_assoc]
    exact hsettles

end Reads

end Scanner

/-! ### Values -/

namespace Value

/-- The value has no numbers, and all its texts have content. -/
inductive Plain : Value → Prop
  | null : Plain .null
  | bool (value : Bool) : Plain (.bool value)
  | string (s : String) : Plain (.string s)
  | array {items : List Value} (plain : ∀ item ∈ items, Plain item) : Plain (.array items)
  | record {members : List (String × Value)} (plain : ∀ m ∈ members, Plain m.2) :
    Plain (.record members)

/-- Wherever a value may stand, the scanner reads the tokens of this one. -/
def Scans (value : Value) : Prop :=
  ∀ before, Scanner.Reads ⟨.between, before⟩ before value.tokens

section Scans

variable {s : Scanner} {before : List Token}

lemma reads_items {items : List Value} (h : ∀ item ∈ items, item.Scans) (hs : s.Settles before) :
    s.Reads before (itemTokens items) := by
  induction items generalizing s before with
  | nil => exact .nil hs
  | cons item items ih =>
    rw [itemTokens, List.cons_append]
    -- the comma ends a pending word, so the item is read from a fresh start
    refine .cons (hs.run_punctuation rfl rfl) (.append (h item List.mem_cons_self _) ?_)
    exact fun t ht => ih (fun other hother => h other (List.mem_cons_of_mem item hother)) ht

lemma reads_members {members : List (String × Value)} (h : ∀ m ∈ members, m.2.Scans)
    (hs : s.Settles before) :
    s.Reads before (memberTokens (members.map fun (key, value) => (some key, value))) := by
  induction members generalizing s before with
  | nil => exact .nil hs
  | cons m members ih =>
    rw [List.map_cons, memberTokens, List.cons_append, List.cons_append, List.cons_append]
    refine .cons (hs.run_punctuation rfl rfl) (.cons ((Scanner.settles_between _).run_text _) ?_)
    refine .cons ((Scanner.settles_between _).run_punctuation rfl rfl)
      (.append (h m List.mem_cons_self _) ?_)
    exact fun t ht => ih (fun other hother => h other (List.mem_cons_of_mem m hother)) ht

lemma reads_close {token : Token} {c : Char} (hspell : token.spell = [c])
    (hc : punctuation? c = some token) (hs : s.Settles before) : s.Reads before [token] :=
  .cons (hs.run_punctuation hspell hc) (.nil (Scanner.settles_between _))

lemma Plain.scans {value : Value} (h : value.Plain) : value.Scans := by
  induction h with
  -- a word stays pending until what follows ends it; other values end with their last token
  | null => exact fun before => ⟨_, rfl, Scanner.settles_word rfl before⟩
  | bool value =>
    cases value with
    | true => exact fun before => ⟨_, rfl, Scanner.settles_word rfl before⟩
    | false => exact fun before => ⟨_, rfl, Scanner.settles_word rfl before⟩
  | string s =>
    exact fun before => .cons ((Scanner.settles_between before).run_text s)
      (.nil (Scanner.settles_between _))
  | @array items _ ih =>
    intro before
    have hstart := Scanner.settles_between before
    cases items with
    | nil =>
      exact .cons (hstart.run_punctuation rfl rfl) (reads_close rfl rfl (Scanner.settles_between _))
    | cons item items =>
      have hitems : ∀ other ∈ items, other.Scans := fun other hother =>
        ih other (List.mem_cons_of_mem item hother)
      rw [tokens, List.cons_append, List.cons_append]
      refine .cons (hstart.run_punctuation rfl rfl)
        (.append (.append (ih item List.mem_cons_self _) ?_) ?_)
      · exact fun t ht => reads_items hitems ht
      · exact fun t ht => reads_close rfl rfl ht
  | @record members _ ih =>
    intro before
    have hstart := Scanner.settles_between before
    cases members with
    | nil =>
      exact .cons (hstart.run_punctuation rfl rfl) (reads_close rfl rfl (Scanner.settles_between _))
    | cons m members =>
      have hmembers : ∀ other ∈ members, other.2.Scans := fun other hother =>
        ih other (List.mem_cons_of_mem m hother)
      rw [Value.record, List.map_cons, tokens]
      simp only [List.cons_append]
      refine .cons (hstart.run_punctuation rfl rfl)
        (.cons ((Scanner.settles_between _).run_text _)
          (.cons ((Scanner.settles_between _).run_punctuation rfl rfl)
            (.append (.append (ih m List.mem_cons_self _) ?_) ?_)))
      · exact fun t ht => reads_members hmembers ht
      · exact fun t ht => reads_close rfl rfl ht

lemma Plain.tokens?_render {value : Value} (h : value.Plain) :
    tokens? value.render.toList = some value.tokens := by
  obtain ⟨s, hrun, hsettles⟩ := h.scans []
  rw [tokens?, render, String.toList_ofList, hrun, Option.bind_some, hsettles.finish_eq,
    Option.map_some, List.append_nil, List.reverse_reverse]

end Scans

end Value

/-! ### Builders -/

namespace Value

/-- Wherever a value may stand, the builder reads this one from its tokens. -/
def Builds (value : Value) : Prop :=
  ∀ frames, (Builder.want frames).run value.tokens = some (.done value frames)

section Builds

variable {frames : List Frame}

lemma Builds.run_append {value : Value} (h : value.Builds) (frames : List Frame)
    (tokens : List Token) :
    (Builder.want frames).run (value.tokens ++ tokens) =
      (Builder.done value frames).run tokens := by
  rw [Builder.run_append, h frames, Option.bind_some]

lemma run_arrayStart (value : Value) (tokens : List Token) :
    (Builder.arrayStart frames).run (value.tokens ++ tokens) =
      (Builder.want (.array [] :: frames)).run (value.tokens ++ tokens) := by
  -- no value starts with a closing bracket
  cases value with
  | null => rfl
  | bool value => rfl
  | number value => rfl
  | text value => rfl
  | array items => cases items <;> rfl
  | object members => cases members <;> rfl

lemma run_items {items : List Value} (h : ∀ item ∈ items, item.Builds) (last : Value)
    (seen : List Value) :
    (Builder.done last (.array seen :: frames)).run (itemTokens items ++ [.closeBracket]) =
      some (.done (.array ((last :: seen).reverse ++ items)) frames) := by
  induction items generalizing last seen with
  | nil =>
    rw [List.append_nil]
    rfl
  | cons item items ih =>
    -- `last` goes to the items that were seen, and the next item takes its place
    have hrest : ∀ other ∈ items, other.Builds := fun other hother =>
      h other (List.mem_cons_of_mem item hother)
    calc (Builder.done last (.array seen :: frames)).run
          (itemTokens (item :: items) ++ [.closeBracket])
        = (Builder.want (.array (last :: seen) :: frames)).run
            (item.tokens ++ (itemTokens items ++ [.closeBracket])) := by
          rw [itemTokens, List.append_assoc]
          rfl
      _ = (Builder.done item (.array (last :: seen) :: frames)).run
            (itemTokens items ++ [.closeBracket]) :=
          (h item List.mem_cons_self).run_append _ _
      _ = some (.done (.array ((item :: last :: seen).reverse ++ items)) frames) :=
          ih hrest item (last :: seen)
      _ = some (.done (.array ((last :: seen).reverse ++ item :: items)) frames) := by
          rw [List.reverse_cons, List.append_assoc]
          rfl

lemma run_members {members : List (Text × Value)} (h : ∀ m ∈ members, m.2.Builds) (last : Value)
    (name : Text) (seen : List (Text × Value)) :
    (Builder.done last (.object seen name :: frames)).run (memberTokens members ++ [.closeBrace]) =
      some (.done (.object (((name, last) :: seen).reverse ++ members)) frames) := by
  induction members generalizing last name seen with
  | nil =>
    rw [List.append_nil]
    rfl
  | cons m members ih =>
    have hrest : ∀ other ∈ members, other.2.Builds := fun other hother =>
      h other (List.mem_cons_of_mem m hother)
    calc (Builder.done last (.object seen name :: frames)).run
          (memberTokens (m :: members) ++ [.closeBrace])
        = (Builder.want (.object ((name, last) :: seen) m.1 :: frames)).run
            (m.2.tokens ++ (memberTokens members ++ [.closeBrace])) := by
          rw [memberTokens, List.append_assoc]
          rfl
      _ = (Builder.done m.2 (.object ((name, last) :: seen) m.1 :: frames)).run
            (memberTokens members ++ [.closeBrace]) :=
          (h m List.mem_cons_self).run_append _ _
      _ = some (.done (.object ((m :: (name, last) :: seen).reverse ++ members)) frames) :=
          ih hrest m.2 m.1 ((name, last) :: seen)
      _ = some (.done (.object (((name, last) :: seen).reverse ++ m :: members)) frames) := by
          rw [List.reverse_cons, List.append_assoc]
          rfl

lemma Plain.builds {value : Value} (h : value.Plain) : value.Builds := by
  induction h with
  | null => exact fun _ => rfl
  | bool value => exact fun _ => rfl
  | string s => exact fun _ => rfl
  | @array items _ ih =>
    intro frames
    cases items with
    | nil => rfl
    | cons item items =>
      have hrest : ∀ other ∈ items, other.Builds := fun other hother =>
        ih other (List.mem_cons_of_mem item hother)
      calc (Builder.want frames).run (Value.array (item :: items)).tokens
          = (Builder.arrayStart frames).run
              (item.tokens ++ (itemTokens items ++ [.closeBracket])) := by
            rw [tokens, List.append_assoc]
            rfl
        _ = (Builder.want (.array [] :: frames)).run
              (item.tokens ++ (itemTokens items ++ [.closeBracket])) := run_arrayStart item _
        _ = (Builder.done item (.array [] :: frames)).run (itemTokens items ++ [.closeBracket]) :=
            (ih item List.mem_cons_self).run_append _ _
        _ = some (.done (.array (item :: items)) frames) := run_items hrest item []
  | @record members _ ih =>
    intro frames
    cases members with
    | nil => rfl
    | cons m members =>
      let rest : List (Text × Value) := members.map fun (key, value) => (some key, value)
      have hrest : ∀ other ∈ rest, other.2.Builds := by
        intro other hother
        obtain ⟨kept, hkept, rfl⟩ := List.mem_map.mp hother
        exact ih kept (List.mem_cons_of_mem m hkept)
      calc (Builder.want frames).run (Value.record (m :: members)).tokens
          = (Builder.want (.object [] (some m.1) :: frames)).run
              (m.2.tokens ++ (memberTokens rest ++ [.closeBrace])) := by
            rw [Value.record, List.map_cons, tokens, List.append_assoc]
            rfl
        _ = (Builder.done m.2 (.object [] (some m.1) :: frames)).run
              (memberTokens rest ++ [.closeBrace]) := (ih m List.mem_cons_self).run_append _ _
        _ = some (.done (.record (m :: members)) frames) := run_members hrest m.2 (some m.1) []

end Builds

/-- **A plain value is read back from its rendering.** -/
theorem Plain.parse?_render {value : Value} (h : value.Plain) :
    parse? value.render = some value := by
  rw [parse?, h.tokens?_render, Option.bind_some, ofTokens?, h.builds, Option.bind_some,
    Builder.finish]

end Value

end MoodStore.Json
