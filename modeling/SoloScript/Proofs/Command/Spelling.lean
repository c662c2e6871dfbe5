import Mathlib.Data.List.Nodup
import SoloScript.Command.Run
import SoloScript.Proofs.Outcome

/-!
# Spellings of a command line

An option can be written in many ways: in its long form or as a letter, with its value attached or
as the next word, and letters can share a dash.  However options are written, reading them takes one
after another; and where none comes twice, their order makes no difference.
-/

namespace SoloScript

open Outcome

namespace Command

/-! ## Settings and their spellings -/

/-- An option that sets something for the run. -/
inductive Setting where
  | verbose
  | config (path : String)
  | output (path : String)
deriving DecidableEq, Repr

namespace Setting

def flag : Setting → Flag
  | verbose => .verbose
  | config _ => .config
  | output _ => .output

def value : Setting → Option String
  | verbose => none
  | config path | output path => some path

@[simp] theorem value_verbose : verbose.value = none := rfl

@[simp] theorem value_config (path : String) : (config path).value = some path := rfl

@[simp] theorem value_output (path : String) : (output path).value = some path := rfl

end Setting

/-- Letters behind a dash, with the words behind them that belong to them, and what they set.  Only
the last one can have a value, in one of three ways. -/
inductive Letters : (letters : List Char) → (next : List String) → (settings : List Setting) → Prop
  | nil : Letters [] [] []
  | bare {setting : Setting} {letters : List Char} {next : List String} {settings : List Setting}
      (valueless : setting.value = none) (others : Letters letters next settings) :
      Letters (setting.flag.letter :: letters) next (setting :: settings)
  | next {setting : Setting} {path : String} (valued : setting.value = some path)
      (dashless : path.toList.head? ≠ some '-') :
      Letters [setting.flag.letter] [path] [setting]
  | attached {setting : Setting} {path : String} (valued : setting.value = some path)
      (filled : path ≠ "") (equalless : path.toList.head? ≠ some '=') :
      Letters (setting.flag.letter :: path.toList) [] [setting]
  | equals {setting : Setting} {path : String} (valued : setting.value = some path) :
      Letters (setting.flag.letter :: '=' :: path.toList) [] [setting]

/-- A word, with those behind it that belong to it, and what they set. -/
inductive Spells : (word : String) → (next : List String) → (settings : List Setting) → Prop
  | letters {letters : List Char} {next : List String} {settings : List Setting}
      (filled : settings ≠ []) (letters' : Letters letters next settings) :
      Spells (String.ofList ('-' :: letters)) next settings
  | bare {setting : Setting} (valueless : setting.value = none) :
      Spells ("--" ++ setting.flag.name) [] [setting]
  | next {setting : Setting} {path : String} (valued : setting.value = some path)
      (dashless : path.toList.head? ≠ some '-') :
      Spells ("--" ++ setting.flag.name) [path] [setting]
  | equals {setting : Setting} {path : String} (valued : setting.value = some path) :
      Spells ("--" ++ setting.flag.name ++ "=" ++ path) [] [setting]

/-- A command line and what it sets, in this order. -/
inductive Presents : (words : List String) → (settings : List Setting) → Prop
  | nil : Presents [] []
  | cons {word : String} {next words : List String} {first settings : List Setting}
      (spells : Spells word next first) (others : Presents words settings) :
      Presents (word :: (next ++ words)) (first ++ settings)

/-- What the options of a run set. -/
def Options.settings (options : Options) : List Setting :=
  (if options.verbose then [.verbose] else []) ++
    (options.config.toList.map (.config ·.text)) ++ options.output.toList.map (.output ·.text)

/-- Options with one more setting. -/
def Options.set (options : Options) : Setting → Options
  | .verbose => { options with verbose := true }
  | .config path => { options with config := some ⟨path⟩ }
  | .output path => { options with output := some ⟨path⟩ }

variable {state state' : State} {setting : Setting} {settings first : List Setting}
  {words next : List String} {word path : String} {letters : List Char} {flag : Flag}
  {value : Option String}

/-! ## Taking settings -/

theorem Flag.ofLetter?_letter (flag : Flag) : ofLetter? flag.letter = some flag := by
  cases flag <;> decide

theorem Flag.ofName?_name (flag : Flag) : ofName? flag.name = some flag := by
  cases flag <;> decide

theorem Flag.letter_ne_dash (flag : Flag) : flag.letter ≠ '-' := by cases flag <;> decide

theorem Flag.name_ne_nil (flag : Flag) : flag.name.toList ≠ [] := by cases flag <;> decide

theorem Setting.takesValue_flag (setting : Setting) :
    setting.flag.takesValue = setting.value.isSome := by
  cases setting <;> rfl

namespace State

/-- Takes settings in their order. -/
def acceptAll (state : State) (settings : List Setting) : Except Stop State :=
  settings.foldlM (fun state setting ↦ state.accept setting.flag setting.value) state

/-- A setting is taken if it is not a repetition and its value is not empty. -/
theorem accept_eq (state : State) (setting : Setting) :
    state.accept setting.flag setting.value =
      if state.taken.contains setting.flag then .error (.misuse (.repeated setting.flag))
      else if setting.value = some "" then .error (.misuse (.missingValue setting.flag))
      else .ok { state with
        options := state.options.set setting, taken := state.taken ++ [setting.flag] } := by
  cases setting with
  | verbose => rfl
  | config path | output path =>
    simp only [accept, Setting.flag, Setting.value, Option.some.injEq]
    rfl

/-- A state in which nothing is pending. -/
theorem settle_of_pending (h : state.pending = none) : state.settle = .ok state := by
  rw [settle, h]

theorem pending_of_accept (h : state.accept flag value = .ok state') :
    state'.pending = state.pending := by
  rw [accept.eq_def] at h
  cases flag with
  | help | version => cases h
  | verbose =>
    dsimp only at h
    split at h
    · cases h
    · cases h
      rfl
  | config | output =>
    dsimp only at h
    split at h
    · cases h
    · split at h
      · cases h
      · split at h
        · cases h
        · cases h
          rfl

/-- Once the pending option is taken, nothing is pending. -/
theorem pending_of_settle (h : state.settle = .ok state') : state'.pending = none := by
  rw [settle] at h
  split at h
  · rename_i clear
    cases h
    exact clear
  · rw [pending_of_accept h]

theorem acceptAll_cons (state : State) (setting : Setting) (settings : List Setting) :
    state.acceptAll (setting :: settings) =
      state.accept setting.flag setting.value >>= (·.acceptAll settings) :=
  rfl

/-! ## Words -/

theorem readWords_of_plain (dashless : word.toList.head? ≠ some '-') (state : State)
    (words : List String) :
    state.readWords (word :: words) = state.readPlain word >>= (·.readWords words) := by
  rw [readWords.eq_def]
  dsimp only
  split
  · rename_i dashes
    exact absurd (congrArg List.head? dashes) dashless
  · rename_i dashes
    exact absurd (congrArg List.head? dashes) dashless
  · rename_i dash
    exact absurd (congrArg List.head? dash) dashless
  · rfl

theorem readWords_of_name {text : List Char} (spelled : word.toList = '-' :: '-' :: text)
    (more : text ≠ []) (state : State) (words : List String) :
    state.readWords (word :: words) = state.readName text >>= (·.readWords words) := by
  rw [readWords.eq_def]
  cases text with
  | nil => exact absurd rfl more
  | cons => simp only [spelled]

theorem readWords_of_letters {letter : Char} (spelled : word.toList = '-' :: letter :: letters)
    (other : letter ≠ '-') (state : State) (words : List String) :
    state.readWords (word :: words) =
      state.readLetters (letter :: letters) >>= (·.readWords words) := by
  rw [readWords.eq_def]
  simp only [spelled]
  split
  · rename_i dashes
    exact absurd (List.cons.inj (List.cons.inj dashes).2).1 other
  · rename_i dashes
    exact absurd (List.cons.inj (List.cons.inj dashes).2).1 other
  · rename_i same
    rw [(List.cons.inj same).2]
  · rename_i absent
    exact absurd rfl (absent letter letters)

/-! ## Long forms -/

/-- A name ends at the equals sign behind it, or with the word. -/
theorem readName_of_append (flag : Flag) (rest : List Char) (ends : ∀ d ∈ rest.head?, d = '=')
    (state : State) :
    state.readName (flag.name.toList ++ rest) =
      if flag.takesValue then
        match rest.tail?.map String.ofList with
        | some value => state.take flag value
        | none => state.await flag
      else match rest.tail?.map String.ofList with
        | some value => .error (.misuse (.needlessValue flag value state.taken))
        | none => state.take flag none := by
  have inside : ∀ d ∈ flag.name.toList, decide (d ≠ '=') = true := by
    cases flag <;> simp [Flag.name]
  have taken : rest.takeWhile (· ≠ '=') = [] := by
    cases rest with
    | nil => rfl
    | cons d rest => simp [ends d rfl]
  have left : rest.dropWhile (· ≠ '=') = rest := by
    cases rest with
    | nil => rfl
    | cons d rest => simp [ends d rfl]
  rewrite [readName, List.takeWhile_append_of_pos inside, List.dropWhile_append_of_pos inside,
    taken, left, List.append_nil, String.ofList_toList, Flag.ofName?_name]
  rfl

theorem readName_bare (valueless : setting.value = none) (state : State) :
    state.readName setting.flag.name.toList = state.take setting.flag setting.value := by
  have read := readName_of_append setting.flag [] (by simp) state
  rw [List.append_nil, setting.takesValue_flag, valueless] at read
  rw [read, valueless]
  rfl

theorem readName_next (valued : setting.value = some path) (state : State) :
    state.readName setting.flag.name.toList = state.await setting.flag := by
  have read := readName_of_append setting.flag [] (by simp) state
  rw [List.append_nil, setting.takesValue_flag, valued] at read
  rw [read]
  rfl

theorem readName_equals (valued : setting.value = some path) (state : State) :
    state.readName (setting.flag.name.toList ++ '=' :: path.toList) =
      state.take setting.flag setting.value := by
  rw [readName_of_append setting.flag _ (by simp), setting.takesValue_flag, valued]
  simp only [List.tail?_cons, Option.map_some, String.ofList_toList]
  rfl

/-! ## Letters -/

theorem readLetters_bare (valueless : setting.value = none) (state : State) (letters : List Char) :
    state.readLetters (setting.flag.letter :: letters) =
      state.take setting.flag setting.value >>= (·.readLetters letters) := by
  rw [readLetters, Flag.ofLetter?_letter]
  simp only [setting.takesValue_flag, valueless]
  rfl

theorem readLetters_next (valued : setting.value = some path) (state : State) :
    state.readLetters [setting.flag.letter] = state.await setting.flag := by
  rw [readLetters, Flag.ofLetter?_letter]
  simp only [setting.takesValue_flag, valued]
  rfl

theorem readLetters_attached (valued : setting.value = some path) (filled : path ≠ "")
    (equalless : path.toList.head? ≠ some '=') (state : State) :
    state.readLetters (setting.flag.letter :: path.toList) =
      state.take setting.flag setting.value := by
  rw [readLetters, Flag.ofLetter?_letter]
  simp only [setting.takesValue_flag, valued, Option.isSome_some, if_true]
  split
  · rename_i empty
    exact absurd (String.toList_eq_nil_iff.1 empty) filled
  · rename_i equals
    exact absurd (congrArg List.head? equals) equalless
  · rw [String.ofList_toList]

theorem readLetters_equals (valued : setting.value = some path) (state : State) :
    state.readLetters (setting.flag.letter :: '=' :: path.toList) =
      state.take setting.flag setting.value := by
  rw [readLetters, Flag.ofLetter?_letter]
  simp only [setting.takesValue_flag, valued, String.ofList_toList, Option.isSome_some, if_true]

end State

/-! ## Command lines -/

/-- What goes on from a state takes settings, once what is pending has been taken. -/
def Takes (goOn : State → Except Stop State) (settings : List Setting) : Prop :=
  ∀ state, goOn state = state.settle >>= (·.acceptAll settings)

theorem takes_nil : Takes (·.readWords []) [] := by
  intro state
  show state.settle = state.settle >>= pure
  rw [bind_pure]

/-- A setting that is taken at once. -/
theorem Takes.take {goOn : State → Except Stop State} (takes : Takes goOn settings)
    (setting : Setting) :
    Takes (·.take setting.flag setting.value >>= goOn) (setting :: settings) := by
  intro state
  show state.take setting.flag setting.value >>= goOn = _
  rw [State.take]
  cases met : state.settle with
  | error stop => rfl
  | ok settled =>
    rw [ok_bind, ok_bind, State.acceptAll_cons]
    cases met' : settled.accept setting.flag setting.value with
    | error stop => rfl
    | ok next =>
      have clear : next.pending = none :=
        (State.pending_of_accept met').trans (State.pending_of_settle met)
      rw [ok_bind, ok_bind, takes next, State.settle_of_pending clear, ok_bind]

/-- A setting that waits for the next word. -/
theorem Takes.await (takes : Takes (·.readWords words) settings)
    (valued : setting.value = some path) (dashless : path.toList.head? ≠ some '-') :
    Takes (·.await setting.flag >>= (·.readWords (path :: words))) (setting :: settings) := by
  intro state
  show state.await setting.flag >>= (·.readWords (path :: words)) = _
  rw [State.await]
  cases met : state.settle with
  | error stop => rfl
  | ok settled =>
    have clear : { settled with pending := none } = settled := by
      rw [← State.pending_of_settle met]
    have settles : State.settle { settled with pending := some (setting.flag, some path) } =
        settled.accept setting.flag setting.value := by
      rw [State.settle, valued]
      exact congrArg (State.accept · _ _) clear
    show State.readWords { settled with pending := some (setting.flag, none) } (path :: words) = _
    rw [State.readWords_of_plain dashless, State.readPlain]
    show State.readWords { settled with pending := some (setting.flag, some path) } words = _
    exact (takes _).trans (congrArg (· >>= (·.acceptAll settings)) settles)

theorem Letters.takes (h : Letters letters next first)
    (takes : Takes (·.readWords words) settings) :
    Takes (·.readLetters letters >>= (·.readWords (next ++ words))) (first ++ settings) := by
  induction h with
  | nil => exact takes
  | @bare setting letters next first valueless others ih =>
    intro state
    simp only [State.readLetters_bare valueless, bind_assoc]
    exact ih.take setting state
  | next valued dashless =>
    simp only [State.readLetters_next valued]
    exact takes.await valued dashless
  | attached valued filled equalless =>
    simp only [State.readLetters_attached valued filled equalless]
    exact takes.take _
  | equals valued =>
    simp only [State.readLetters_equals valued]
    exact takes.take _

theorem Letters.exists_letter (h : Letters letters next settings) (filled : settings ≠ []) :
    ∃ (flag : Flag) (others : List Char), letters = flag.letter :: others := by
  cases h with
  | nil => contradiction
  | bare | next | attached | equals => exact ⟨_, _, rfl⟩

theorem Spells.takes (h : Spells word next first) (takes : Takes (·.readWords words) settings) :
    Takes (·.readWords (word :: (next ++ words))) (first ++ settings) := by
  intro state
  cases h with
  | letters filled letters =>
    obtain ⟨flag, others, rfl⟩ := letters.exists_letter filled
    exact (State.readWords_of_letters String.toList_ofList flag.letter_ne_dash state _).trans
      (letters.takes takes state)
  | @bare setting valueless =>
    refine (State.readWords_of_name String.toList_append setting.flag.name_ne_nil state _).trans ?_
    rw [State.readName_bare valueless]
    exact takes.take setting state
  | @next setting path valued dashless =>
    refine (State.readWords_of_name String.toList_append setting.flag.name_ne_nil state _).trans ?_
    rw [State.readName_next valued]
    exact takes.await valued dashless state
  | @equals setting path valued =>
    have spelled : ("--" ++ setting.flag.name ++ "=" ++ path).toList =
        '-' :: '-' :: (setting.flag.name.toList ++ '=' :: path.toList) := by
      simp only [String.toList_append, List.append_assoc]
      rfl
    have more : setting.flag.name.toList ++ '=' :: path.toList ≠ [] :=
      List.append_ne_nil_of_right_ne_nil _ (List.cons_ne_nil _ _)
    refine (State.readWords_of_name spelled more state _).trans ?_
    rw [State.readName_equals valued]
    exact takes.take setting state

/-- A command line is read by taking what it sets, in its order. -/
theorem Presents.takes (h : Presents words settings) : Takes (·.readWords words) settings := by
  induction h with
  | nil => exact takes_nil
  | cons spells others ih => exact spells.takes ih

/-! ## Order -/

/-- Settings that do not repeat a flag are all taken. -/
theorem State.acceptAll_eq_ok (state : State)
    (distinct : (state.taken ++ settings.map Setting.flag).Nodup)
    (filled : ∀ setting ∈ settings, setting.value ≠ some "") :
    ∃ taken, state.acceptAll settings =
      .ok { state with options := settings.foldl Options.set state.options, taken := taken } := by
  induction settings generalizing state with
  | nil => exact ⟨_, rfl⟩
  | cons setting settings ih =>
    have fresh : setting.flag ∉ state.taken := fun mem ↦
      List.disjoint_of_nodup_append distinct mem List.mem_cons_self
    obtain ⟨some, filled⟩ := List.forall_mem_cons.1 filled
    rw [acceptAll_cons, accept_eq, if_neg (by simpa using fresh), if_neg some, ok_bind]
    refine ih _ ?_ filled
    rw [List.append_assoc]
    exact distinct

/-- Settings that repeat a flag are refused. -/
theorem State.exists_misuse_of_acceptAll (state : State) (distinct : state.taken.Nodup)
    (repeated : ¬(state.taken ++ settings.map Setting.flag).Nodup) :
    ∃ misuse, state.acceptAll settings = .error (.misuse misuse) := by
  induction settings generalizing state with
  | nil => exact absurd (by simpa using distinct) repeated
  | cons setting settings ih =>
    rw [acceptAll_cons, accept_eq]
    split
    · exact ⟨_, rfl⟩
    · rename_i fresh
      split
      · exact ⟨_, rfl⟩
      · have fresh : setting.flag ∉ state.taken := by simpa using fresh
        refine ih _ ?_ ?_
        · show (state.taken ++ [setting.flag]).Nodup
          rw [← List.concat_eq_append]
          exact distinct.concat fresh
        · rw [List.append_assoc]
          exact repeated

namespace Options

theorem set_comm (options : Options) {setting setting' : Setting}
    (other : setting.flag ≠ setting'.flag) :
    (options.set setting).set setting' = (options.set setting').set setting := by
  cases setting <;> cases setting' <;> first | rfl | exact absurd rfl other

theorem nodup_settings (options : Options) : (options.settings.map Setting.flag).Nodup := by
  obtain ⟨_ | _, _ | _, _ | _⟩ := options <;> simp [settings, Setting.flag]

theorem foldl_set_settings (options : Options) :
    options.settings.foldl set ⟨none, none, false⟩ = options := by
  obtain ⟨_ | _, _ | _, _ | _⟩ := options <;> rfl

/-- Where no flag is repeated, the order of settings makes no difference. -/
theorem foldl_set_of_perm {options : Options} (same : settings.Perm options.settings) :
    settings.foldl set ⟨none, none, false⟩ = options := by
  have distinct := ((same.map Setting.flag).nodup_iff).2 options.nodup_settings
  rw [same.foldl_eq' ?_, foldl_set_settings]
  intro setting mem setting' mem' others
  by_cases equal : setting.flag = setting'.flag
  · rw [List.inj_on_of_nodup_map distinct mem mem' equal]
  · exact others.set_comm equal

end Options

theorem Presents.ofWords {options : Options} (presents : Presents words settings)
    (same : settings.Perm options.settings)
    (filled : ∀ setting ∈ settings, setting.value ≠ some "") :
    Request.ofWords words = .ok (.bundle options) := by
  have distinct := ((same.map Setting.flag).nodup_iff).2 options.nodup_settings
  obtain ⟨taken, accepted⟩ := State.initial.acceptAll_eq_ok distinct filled
  have read : State.initial.readWords words = State.initial.acceptAll settings :=
    presents.takes .initial
  have set : settings.foldl Options.set State.initial.options = options :=
    Options.foldl_set_of_perm same
  rw [Request.ofWords, read, accepted, set]

theorem Presents.exists_misuse (presents : Presents words settings)
    (repeated : ¬(settings.map Setting.flag).Nodup) :
    ∃ misuse, Request.ofWords words = .error misuse := by
  obtain ⟨misuse, refused⟩ := State.initial.exists_misuse_of_acceptAll List.nodup_nil repeated
  have read : State.initial.readWords words = State.initial.acceptAll settings :=
    presents.takes .initial
  rw [Request.ofWords, read, refused]
  exact ⟨misuse, rfl⟩

/-- Options that are each given once make the same run, in whatever order and however they are
written.  If the configuration or the output path is given twice, the run ends with code 2 before
it does anything. -/
theorem run_of_presents (presents : Presents words settings) :
    (∀ options : Options, settings.Perm options.settings →
      (∀ setting ∈ settings, setting.value ≠ some "") →
      Request.ofWords words = .ok (.bundle options) ∧
      ∀ words' settings', Presents words' settings' → settings'.Perm settings →
        Request.ofWords words' = .ok (.bundle options) ∧
          ∀ tree network, run words' tree network = run words tree network) ∧
    (1 < (settings.map Setting.flag).count .config ∨
        1 < (settings.map Setting.flag).count .output →
      ∀ tree network, (run words tree network).code = 2 ∧
        (run words tree network).tree = tree ∧ (run words tree network).started = []) := by
  refine ⟨fun options same filled ↦ ?_, fun twice tree network ↦ ?_⟩
  · have asked := presents.ofWords same filled
    refine ⟨asked, fun words' settings' presents' same' ↦ ?_⟩
    have asked' := presents'.ofWords (same'.trans same) fun setting mem ↦
      filled setting (same'.mem_iff.1 mem)
    refine ⟨asked', fun tree network ↦ ?_⟩
    simp only [run, asked, asked']
  · have repeated : ¬(settings.map Setting.flag).Nodup := by
      rw [List.nodup_iff_count_le_one]
      intro once
      rcases twice with twice | twice
      · exact absurd twice (Nat.not_lt.2 (once _))
      · exact absurd twice (Nat.not_lt.2 (once _))
    obtain ⟨misuse, asked⟩ := presents.exists_misuse repeated
    simp only [run, asked, and_self]

theorem presents_bundled : Presents ["-vc", "b.js", "--output=d.js"]
    [.verbose, .config "b.js", .output "d.js"] := by
  have waits := Letters.next (Setting.value_config "b.js") (by decide)
  have bundled := Letters.bare Setting.value_verbose waits
  have first : Spells "-vc" ["b.js"] _ := .letters (List.cons_ne_nil _ _) bundled
  have second : Spells "--output=d.js" [] _ := .equals (Setting.value_output "d.js")
  exact .cons first (.cons second .nil)

theorem presents_separate : Presents ["-od.js", "--config", "b.js", "--verbose"]
    [.output "d.js", .config "b.js", .verbose] := by
  have attached := Letters.attached (Setting.value_output "d.js") (by decide) (by decide)
  have first : Spells "-od.js" [] _ := .letters (List.cons_ne_nil _ _) attached
  have second : Spells "--config" ["b.js"] _ := .next (Setting.value_config "b.js") (by decide)
  have third : Spells "--verbose" [] _ := .bare Setting.value_verbose
  exact .cons first (.cons second (.cons third .nil))

theorem presents_twice :
    Presents ["-c=b.js", "--config=d.js"] [.config "b.js", .config "d.js"] := by
  have equals := Letters.equals (Setting.value_config "b.js")
  have first : Spells "-c=b.js" [] _ := .letters (List.cons_ne_nil _ _) equals
  have second : Spells "--config=d.js" [] _ := .equals (Setting.value_config "d.js")
  exact .cons first (.cons second .nil)

theorem two_spellings_of_one_run :
    (∀ tree network, run ["-od.js", "--config", "b.js", "--verbose"] tree network =
      run ["-vc", "b.js", "--output=d.js"] tree network) ∧
    ∀ tree network, (run ["-c=b.js", "--config=d.js"] tree network).code = 2 := by
  constructor
  · have asked := (run_of_presents presents_bundled).1 ⟨some ⟨"b.js"⟩, some ⟨"d.js"⟩, true⟩
      (by decide) (by decide)
    exact (asked.2 _ _ presents_separate (by decide)).2
  · intro tree network
    exact ((run_of_presents presents_twice).2 (.inl (by decide)) tree network).1

end Command

end SoloScript
