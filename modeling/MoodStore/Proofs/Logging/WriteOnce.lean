import Mathlib.Data.List.TakeWhile
import Mathlib.Tactic.Common
import MoodStore.Logging.State

/-!
Logging is started once.

The first call that starts the logger fixes its level and its directory for good. Until then calls
may fail in any way and leave nothing that would keep a later one from starting it; from then on a
call succeeds just when it asks for the same level and the same directory. A level is spelled in
several ways, and so is a directory.
-/

namespace MoodStore

/-! ### White space -/

namespace Text.Blank

variable {before name after cs : List Char}

lemma not_isBlank_of_isAlpha {c : Char} (h : c.isAlpha = true) : isBlank c = false := by
  have hc : 65 ≤ c.toNat ∧ c.toNat ≤ 90 ∨ 97 ≤ c.toNat ∧ c.toNat ≤ 122 := by
    rcases Bool.or_eq_true_iff.mp h with hupper | hlower
    · exact .inl (of_decide_eq_true hupper)
    · exact .inr ((Bool.and_eq_true_iff.mp hlower).imp of_decide_eq_true of_decide_eq_true)
  simp only [isBlank, Bool.or_eq_false_iff, Bool.and_eq_false_iff, decide_eq_false_iff_not,
    beq_eq_false_iff_ne]
  omega

lemma dropWhile_append_of_dense (hname : name ≠ []) (dense : ∀ c ∈ name, isBlank c = false)
    (rest : List Char) : (name ++ rest).dropWhile isBlank = name ++ rest := by
  cases name with
  | nil => exact absurd rfl hname
  | cons c name =>
    rw [List.cons_append, List.dropWhile_cons, dense c List.mem_cons_self,
      if_neg Bool.false_ne_true]

lemma trim_padded (hbefore : ∀ c ∈ before, isBlank c = true)
    (hafter : ∀ c ∈ after, isBlank c = true) (hname : name ≠ [])
    (dense : ∀ c ∈ name, isBlank c = false) : trim (before ++ name ++ after) = name := by
  have hreverse : name.reverse ≠ [] := by simpa using hname
  have hdense : ∀ c ∈ name.reverse, isBlank c = false :=
    fun c hc => dense c (List.mem_reverse.mp hc)
  have hpadding : ∀ c ∈ after.reverse, isBlank c = true :=
    fun c hc => hafter c (List.mem_reverse.mp hc)
  rw [trim, List.append_assoc, List.dropWhile_append_of_pos hbefore,
    dropWhile_append_of_dense hname dense, List.reverse_append,
    List.dropWhile_append_of_pos hpadding]
  have hdrop := dropWhile_append_of_dense hreverse hdense []
  rw [List.append_nil] at hdrop
  rw [hdrop, List.reverse_reverse]

lemma exists_padding (cs : List Char) : ∃ before after, cs = before ++ trim cs ++ after ∧
    (∀ c ∈ before, isBlank c = true) ∧ ∀ c ∈ after, isBlank c = true := by
  let rest := cs.dropWhile isBlank
  refine ⟨cs.takeWhile isBlank, (rest.reverse.takeWhile isBlank).reverse, ?_,
    fun c hc => List.mem_takeWhile_imp hc,
    fun c hc => List.mem_takeWhile_imp (List.mem_reverse.mp hc)⟩
  have hrest : trim cs ++ (rest.reverse.takeWhile isBlank).reverse = rest := by
    rw [trim, ← List.reverse_append, List.takeWhile_append_dropWhile, List.reverse_reverse]
  rw [List.append_assoc, hrest, List.takeWhile_append_dropWhile]

end Text.Blank

/-! ### Directories -/

namespace Text.Path

lemma not_isDotted {path : String} (h : isAbsolute path = true) : isDotted path = false := by
  unfold isAbsolute at h
  unfold isDotted
  cases hpath : path.toList with
  | nil => simp [hpath] at h
  | cons c cs =>
    rw [hpath] at h
    obtain rfl : c = '/' := by simpa using h
    rfl

lemma same_iff {p q : String} (hp : isAbsolute p = true) (hq : isAbsolute q = true) :
    same p q = true ↔ components p = components q := by
  simp [same, hp, hq, not_isDotted hp, not_isDotted hq]

end Text.Path

namespace Logging

/-! ### Levels -/

/-- The ways in which a level is spelled, in small letters. -/
def spellings : Level → List String
  | .trace => ["trace"]
  | .debug => ["debug"]
  | .info => ["info"]
  | .warn => ["warn", "warning"]
  | .error => ["error"]

/-- The setting names the level, in letters of any case and with white space around it. -/
def Spells (setting : String) (level : Level) : Prop :=
  ∃ before name after, setting.toList = before ++ name ++ after ∧
    (∀ c ∈ before, Text.Blank.isBlank c = true) ∧ (∀ c ∈ after, Text.Blank.isBlank c = true) ∧
    ∃ spelling ∈ spellings level, name.map Char.toLower = spelling.toList

lemma level?_eq_some_iff {name : String} {level : Level} :
    level? name = some level ↔ name ∈ spellings level := by
  unfold level?
  split_ifs with h1 h2 h3 h4 h5
  · subst h1
    cases level <;> decide
  · subst h2
    cases level <;> decide
  · subst h3
    cases level <;> decide
  · rcases h4 with rfl | rfl <;> cases level <;> decide
  · subst h5
    cases level <;> decide
  · rw [not_or] at h4
    cases level <;> simp [spellings, h1, h2, h3, h4, h5]

lemma isLower_of_mem_spellings {level : Level} {spelling : String}
    (h : spelling ∈ spellings level) : spelling ≠ "" ∧ ∀ c ∈ spelling.toList, c.isLower = true := by
  have hall : ∀ level, ∀ spelling ∈ spellings level,
      spelling ≠ "" ∧ spelling.toList.all Char.isLower = true := by
    rintro (_ | _ | _ | _ | _) <;> decide +kernel
  obtain ⟨hne, hlower⟩ := hall level spelling h
  exact ⟨hne, List.all_eq_true.mp hlower⟩

lemma isAlpha_of_isLower_toLower {c : Char} (h : c.toLower.isLower = true) : c.isAlpha = true := by
  refine Bool.or_eq_true_iff.mpr ?_
  by_cases hupper : c.isUpper = true
  · exact .inl hupper
  · have hsame : c.toLower = c := dif_neg fun hletter => hupper (decide_eq_true hletter)
    exact .inr (hsame ▸ h)

lemma normalizeLevel_eq_ok_iff {setting : String} {level : Level} :
    normalizeLevel setting = .ok level ↔ Spells setting level := by
  have hlevel : normalizeLevel setting = .ok level ↔ levelName setting ∈ spellings level := by
    rw [← level?_eq_some_iff]
    unfold normalizeLevel
    cases level? (levelName setting) <;> simp
  rw [hlevel]
  constructor
  · intro hspelling
    obtain ⟨before, after, hsplit, hbefore, hafter⟩ :=
      Text.Blank.exists_padding setting.toList
    exact ⟨before, _, after, hsplit, hbefore, hafter, _, hspelling, (String.toList_ofList).symm⟩
  · rintro ⟨before, name, after, hsplit, hbefore, hafter, spelling, hspelling, hname⟩
    obtain ⟨hne, hlower⟩ := isLower_of_mem_spellings hspelling
    have hdense : ∀ c ∈ name, Text.Blank.isBlank c = false := by
      intro c hc
      have hmem : c.toLower ∈ spelling.toList := hname ▸ List.mem_map_of_mem hc
      exact Text.Blank.not_isBlank_of_isAlpha (isAlpha_of_isLower_toLower (hlower _ hmem))
    have hfilled : name ≠ [] := by
      rintro rfl
      exact hne (String.toList_eq_nil_iff.mp hname.symm)
    rw [levelName, hsplit, Text.Blank.trim_padded hbefore hafter hfilled hdense, hname,
      String.ofList_toList]
    exact hspelling

lemma normalizeLevel_eq_error_iff {setting : String} {error : LoggingError} :
    normalizeLevel setting = .error error ↔
      (∀ level, ¬Spells setting level) ∧ error = .unsupportedLevel (levelName setting) := by
  simp only [← normalizeLevel_eq_ok_iff]
  unfold normalizeLevel
  cases level? (levelName setting) <;> simp [eq_comm]

lemma Spells.unique {setting : String} {a b : Level} (ha : Spells setting a)
    (hb : Spells setting b) : a = b := by
  rw [← normalizeLevel_eq_ok_iff] at ha hb
  exact Except.ok.inj (ha.symm.trans hb)

lemma checkDir_of_absolute {dir : String} (h : Text.Path.isAbsolute dir = true) :
    checkDir dir = .ok () := by
  unfold checkDir
  rw [if_neg (by rintro rfl; revert h; decide), h]
  rfl

lemma checkDir_of_relative {dir : String} (h : Text.Path.isAbsolute dir = false) :
    ∃ detail, checkDir dir = .error (.invalidDirectory detail) := by
  unfold checkDir
  rw [h]
  split_ifs
  · exact ⟨_, rfl⟩
  · exact ⟨_, rfl⟩
  · contradiction

/-! ### One call -/

/-- The directory could not be made, or the logger not be installed. -/
def LoggingError.IsStartFailure : LoggingError → Prop
  | .createDirectory _ _ | .backend _ => True
  | _ => False

namespace State

variable {state : State} {config : Config} {level : Level} {active : Active}

lemma openLogFile_active {dir : String} {opened : State}
    (h : state.openLogFile dir = .ok opened) : opened.active = state.active := by
  unfold openLogFile at h
  split at h
  · rw [Except.ok.inj h]
  · cases htree : state.tree.openFile (logFile dir) with
    | error => simp [htree, Except.map] at h
    | ok tree =>
      rw [htree] at h
      rw [← Except.ok.inj h]

lemma emit_active (state : State) (event : Event) : (state.emit event).active = state.active := by
  unfold emit
  split
  · split
    · cases hopen : state.openLogFile _ with
      | ok opened =>
        have hopened : opened.active = state.active := openLogFile_active hopen
        exact hopened
      | error => rfl
    · rfl
  · rfl

lemma occupy_active (state : State) : state.occupy.2.active = state.active := by
  unfold occupy
  split <;> rfl

lemma init_of_unsupported (h : ∀ level, ¬Spells config.level level) :
    state.init config = (.error (.unsupportedLevel (levelName config.level)), state) := by
  unfold init
  rw [normalizeLevel_eq_error_iff.mpr ⟨h, rfl⟩]

lemma init_of_relative (hlevel : Spells config.level level)
    (hdir : Text.Path.isAbsolute config.dir = false) :
    ∃ detail, state.init config = (.error (.invalidDirectory detail), state) := by
  obtain ⟨detail, hcheck⟩ := checkDir_of_relative hdir
  refine ⟨detail, ?_⟩
  simp only [init, normalizeLevel_eq_ok_iff.mpr hlevel, hcheck]

lemma init_of_valid (hlevel : Spells config.level level)
    (hdir : Text.Path.isAbsolute config.dir = true) :
    state.init config = match state.active with
      | some active => (agree active ⟨level, config.dir⟩, state)
      | none => state.start ⟨level, config.dir⟩ := by
  have hnormal := normalizeLevel_eq_ok_iff.mpr hlevel
  have hcheck := checkDir_of_absolute hdir
  cases hactive : state.active with
  | none => simp only [init, hnormal, hcheck, hactive]
  | some active => simp only [init, hnormal, hcheck, hactive]

lemma start_cases (state : State) (wanted : Active) (hnone : state.active = none) :
    (state.tree.createAll wanted.dir).1 = .ok () ∧ state.occupied = false ∧
        (state.start wanted).1 = .ok () ∧ (state.start wanted).2.active = some wanted ∨
      ¬((state.tree.createAll wanted.dir).1 = .ok () ∧ state.occupied = false) ∧
        ∃ error, (state.start wanted).1 = .error error ∧ error.IsStartFailure ∧
          (state.start wanted).2.active = none := by
  unfold start
  rcases state.tree.createAll wanted.dir with ⟨cause | made, tree⟩
  · exact .inr ⟨fun h => (by cases h.1), _, rfl, trivial, hnone⟩
  · cases hoccupied : state.occupied with
    | true => exact .inr ⟨fun h => (by cases h.2), _, rfl, trivial, hnone⟩
    | false => exact .inl ⟨rfl, rfl, rfl, emit_active _ _⟩

/-- What a call says of settings that are valid while logging is active. -/
structure Agrees (active wanted : Active) (answer : Except LoggingError Unit) : Prop where
  ok_iff : answer = .ok () ↔ active.level = wanted.level ∧
    Text.Path.components active.dir = Text.Path.components wanted.dir
  directory : Text.Path.components active.dir ≠ Text.Path.components wanted.dir →
    answer = .error (.conflict "directory" active.dir wanted.dir)
  level : Text.Path.components active.dir = Text.Path.components wanted.dir →
    active.level ≠ wanted.level →
    answer = .error (.conflict "level" active.level.name wanted.level.name)

lemma agrees {wanted : Active} (hactive : Text.Path.isAbsolute active.dir = true)
    (hwanted : Text.Path.isAbsolute wanted.dir = true) :
    Agrees active wanted (agree active wanted) := by
  have hsame := Text.Path.same_iff hactive hwanted
  unfold agree
  by_cases hdir : Text.Path.components active.dir = Text.Path.components wanted.dir
  · rw [hsame.mpr hdir]
    by_cases hlevel : active.level = wanted.level
    · exact ⟨by simp [hlevel, hdir], fun h => absurd hdir h, fun _ h => absurd hlevel h⟩
    · exact ⟨by simp [hlevel], fun h => absurd hdir h, fun _ _ => by simp [hlevel]⟩
  · have hother : Text.Path.same active.dir wanted.dir = false :=
      Bool.eq_false_iff.mpr (mt hsame.mp hdir)
    rw [hother]
    exact ⟨by simp [hdir], fun _ => rfl, fun h => absurd h hdir⟩

/-- How a call is answered, and what becomes of the status. Before logging is active nothing but the
directory and another logger can keep a valid call from starting it, and only a call that starts it
changes the status. -/
structure Ruled (state : State) (config : Config) : Prop where
  unsupported : (∀ level, ¬Spells config.level level) →
    (state.init config).1 = .error (.unsupportedLevel (levelName config.level))
  relative : ∀ level, Spells config.level level → Text.Path.isAbsolute config.dir = false →
    ∃ detail, (state.init config).1 = .error (.invalidDirectory detail)
  start : ∀ level, Spells config.level level → Text.Path.isAbsolute config.dir = true →
    state.active = none →
    (state.tree.createAll config.dir).1 = .ok () ∧ state.occupied = false ∧
        (state.init config).1 = .ok () ∧
        (state.init config).2.active = some ⟨level, config.dir⟩ ∨
      ¬((state.tree.createAll config.dir).1 = .ok () ∧ state.occupied = false) ∧
        ∃ error, (state.init config).1 = .error error ∧ error.IsStartFailure
  agree : ∀ level active, Spells config.level level → Text.Path.isAbsolute config.dir = true →
    state.active = some active → Agrees active ⟨level, config.dir⟩ (state.init config).1
  kept : (state.init config).2.active = state.active ∨
    state.active = none ∧ (state.init config).1 = .ok ()

lemma init_kept (state : State) (config : Config) :
    (state.init config).2.active = state.active ∨
      state.active = none ∧ (state.init config).1 = .ok () := by
  unfold init
  split
  · exact .inl rfl
  · exact .inl rfl
  · cases hactive : state.active with
    | some active => exact .inl hactive
    | none =>
      obtain ⟨-, -, hok, -⟩ | ⟨-, error, -, -, hkept⟩ := state.start_cases _ hactive
      · exact .inr ⟨rfl, hok⟩
      · exact .inl hkept

/-- An active directory is absolute. -/
def Valid (state : State) : Prop :=
  ∀ active, state.active = some active → Text.Path.isAbsolute active.dir = true

lemma Valid.ruled (h : state.Valid) (config : Config) : state.Ruled config where
  unsupported hnone := congrArg Prod.fst (init_of_unsupported hnone)
  relative level hlevel hdir :=
    (init_of_relative hlevel hdir).imp fun _ hinit => congrArg Prod.fst hinit
  start level hlevel hdir hnone := by
    have hstart := state.start_cases ⟨level, config.dir⟩ hnone
    rw [init_of_valid hlevel hdir, hnone]
    exact hstart.imp_right fun ⟨hnot, error, herror, hfailure, _⟩ => ⟨hnot, error, herror, hfailure⟩
  agree level active hlevel hdir hactive := by
    rw [init_of_valid hlevel hdir, hactive]
    exact agrees (h active hactive) hdir
  kept := init_kept state config

end State

/-! ### What happens in a process -/

/-- What can happen to the logging of a process: it is asked for, there is an event, some other
logger is to be installed, or the files are changed. -/
inductive Happening where
  | init (config : Config)
  | event (event : Event)
  | occupy
  | files (tree : FileTree)

namespace State

variable {state : State} {config : Config} {active : Active}

def next (state : State) : Happening → State
  | .init config => (state.init config).2
  | .event event => state.emit event
  | .occupy => state.occupy.2
  | .files tree => { state with tree }

@[simp] lemma next_init (state : State) (config : Config) :
    state.next (.init config) = (state.init config).2 := rfl

/-- The state after all of this has happened. -/
def after (state : State) (history : List Happening) : State := history.foldl next state

@[simp] lemma after_cons (state : State) (happening : Happening) (later : List Happening) :
    state.after (happening :: later) = (state.next happening).after later := rfl

lemma after_append (state : State) (history later : List Happening) :
    state.after (history ++ later) = (state.after history).after later :=
  List.foldl_append

structure Starts (state : State) (config : Config) (active : Active) : Prop where
  idle : state.active = none
  ok : (state.init config).1 = .ok ()
  level : Spells config.level active.level
  dir : config.dir = active.dir

lemma Valid.starts (h : state.Valid) (hnone : state.active = none)
    (hok : (state.init config).1 = .ok ()) :
    ∃ active, state.Starts config active ∧ (state.init config).2.active = some active ∧
      Text.Path.isAbsolute active.dir = true := by
  have hruled := h.ruled config
  by_cases hlevel : ∃ level, Spells config.level level
  · obtain ⟨level, hlevel⟩ := hlevel
    cases hdir : Text.Path.isAbsolute config.dir with
    | false =>
      obtain ⟨detail, hbad⟩ := hruled.relative level hlevel hdir
      cases hok.symm.trans hbad
    | true =>
      obtain ⟨-, -, -, hactive⟩ | ⟨-, error, herror, -⟩ := hruled.start level hlevel hdir hnone
      · exact ⟨⟨level, config.dir⟩, ⟨hnone, hok, hlevel, rfl⟩, hactive, hdir⟩
      · cases hok.symm.trans herror
  · have hbad := hruled.unsupported fun level h => hlevel ⟨level, h⟩
    cases hok.symm.trans hbad

lemma Valid.next_cases (h : state.Valid) (happening : Happening) :
    (state.next happening).active = state.active ∨
      ∃ config active, happening = .init config ∧ state.Starts config active ∧
        (state.next happening).active = some active ∧
        Text.Path.isAbsolute active.dir = true := by
  cases happening with
  | event event => exact .inl (emit_active state event)
  | occupy => exact .inl (occupy_active state)
  | files tree => exact .inl rfl
  | init config =>
    rw [next_init]
    obtain hkept | ⟨hnone, hok⟩ := (h.ruled config).kept
    · exact .inl hkept
    · obtain ⟨active, hstarts, hactive, hdir⟩ := h.starts hnone hok
      exact .inr ⟨config, active, rfl, hstarts, hactive, hdir⟩

lemma Valid.next (h : state.Valid) (happening : Happening) : (state.next happening).Valid := by
  intro active hactive
  obtain hkept | ⟨_, started, -, -, hstarted, hdir⟩ := h.next_cases happening
  · exact h active (hkept ▸ hactive)
  · obtain rfl := Option.some_inj.mp (hstarted.symm.trans hactive)
    exact hdir

lemma Valid.after (h : state.Valid) (history : List Happening) : (state.after history).Valid := by
  induction history generalizing state with
  | nil => exact h
  | cons happening history ih => exact ih (h.next happening)

lemma Valid.active_after (h : state.Valid) (hactive : state.active = some active)
    (history : List Happening) : (state.after history).active = some active := by
  induction history generalizing state with
  | nil => exact hactive
  | cons happening history ih =>
    refine ih (h.next happening) ?_
    obtain hkept | ⟨_, _, -, hstarts, -⟩ := h.next_cases happening
    · exact hkept.trans hactive
    · cases hactive.symm.trans hstarts.idle

/-- The status is that of the call that started the logger. -/
lemma Valid.active_after_iff (h : state.Valid) (hnone : state.active = none)
    (history : List Happening) : (state.after history).active = some active ↔
      ∃ before config later, history = before ++ .init config :: later ∧
        (state.after before).Starts config active := by
  constructor
  · induction history generalizing state with
    | nil =>
      intro hactive
      cases hnone.symm.trans hactive
    | cons happening history ih =>
      intro hactive
      rw [after_cons] at hactive
      -- the first happening that does not keep the status is the call that started the logger
      obtain hkept | ⟨config, started, rfl, hstarts, hstarted, -⟩ := h.next_cases happening
      · obtain ⟨before, config, later, rfl, hstarts⟩ :=
          ih (h.next happening) (hkept.trans hnone) hactive
        exact ⟨happening :: before, config, later, rfl, hstarts⟩
      · have hlater := (h.next _).active_after hstarted history
        obtain rfl := Option.some_inj.mp (hlater.symm.trans hactive)
        exact ⟨[], config, history, rfl, hstarts⟩
  · rintro ⟨before, config, later, rfl, hstarts⟩
    have hvalid := h.after before
    obtain ⟨started, hstarts', hactive, -⟩ := hvalid.starts hstarts.idle hstarts.ok
    have hsame : started = active := by
      have hlevel := hstarts'.level.unique hstarts.level
      have hdir := hstarts'.dir.symm.trans hstarts.dir
      cases started
      cases active
      rw [Active.mk.injEq]
      exact ⟨hlevel, hdir⟩
    have hnext : ((state.after before).next (.init config)).active = some active := by
      rw [next_init, hactive, hsame]
    rw [after_append, after_cons]
    exact (hvalid.next _).active_after hnext later

lemma valid_initial (tree : FileTree) : (initial tree).Valid := by
  rintro active ⟨⟩

/-- **Logging is written once.** Whatever happens in a process, its logging status is nothing until
the first call that starts the logger, and forever the level and the directory of that call. A call
is refused first for its level, then for its directory; while logging is not active, only a
directory that cannot be made or another logger keeps a valid call from starting it, whatever was
refused before; and while it is active, a valid call succeeds just when it asks for the same level
and for the same directory, and is refused for the directory first. -/
theorem logging_is_written_once (tree : FileTree) (history : List Happening) :
    let state := (initial tree).after history
    (∀ active, state.active = some active ↔
      ∃ before config later, history = before ++ .init config :: later ∧
        ((initial tree).after before).Starts config active) ∧
    (∀ active, state.active = some active →
      ∀ later, (state.after later).active = some active) ∧
    ∀ config, state.Ruled config := by
  intro state
  have hinitial := valid_initial tree
  have hstate : state.Valid := hinitial.after history
  exact ⟨fun active => hinitial.active_after_iff rfl history,
    fun active hactive => hstate.active_after hactive, hstate.ruled⟩

/-- Two calls fail, for the level and for a file in the way, before a third one starts the
logger. -/
theorem logging_started_by_third_call :
    let ask (level dir : String) : Config := { Config.ofDir dir with level }
    let tree := FileTree.ofList [(["etc"], .file)]
    let history := [ask "verbose" "/logs", ask "info" "/etc/logs", ask " Warning " "/logs"]
    let state := (initial tree).after (history.map .init)
    let active : Active := ⟨.warn, "/logs"⟩
    state.active = some active ∧
      (∀ later, (state.after later).active = some active) ∧
      (state.init (ask "WARN" "//logs/.")).1 = .ok () ∧
      (state.init (ask "info" "/log")).1 = .error (.conflict "directory" "/logs" "/log") ∧
      (state.init (ask "info" "/logs/")).1 = .error (.conflict "level" "warn" "info") := by
  intro ask tree history state active
  obtain ⟨-, hforever, hruled⟩ := logging_is_written_once tree (history.map .init)
  have hactive : state.active = some active := by decide +kernel
  have hwarn : Spells "WARN" .warn := normalizeLevel_eq_ok_iff.mp (by decide +kernel)
  have hinfo : Spells "info" .info := normalizeLevel_eq_ok_iff.mp (by decide +kernel)
  have hsame := (hruled (ask "WARN" "//logs/.")).agree _ _ hwarn (by decide +kernel) hactive
  have hdir := (hruled (ask "info" "/log")).agree _ _ hinfo (by decide +kernel) hactive
  have hlevel := (hruled (ask "info" "/logs/")).agree _ _ hinfo (by decide +kernel) hactive
  exact ⟨hactive, hforever active hactive, hsame.ok_iff.mpr ⟨rfl, by decide +kernel⟩,
    hdir.directory (by decide +kernel), hlevel.level (by decide +kernel) (by decide)⟩

end State

end Logging

end MoodStore
