import SoloScript.Proofs.Build.Overwrite
import SoloScript.Proofs.Config.Reader
import SoloScript.Proofs.Config.Setting

/-!
# Objects of overrides

Whatever its members are and however they are written, an object is a set of overrides: the order of
its members, the blanks between its tokens and members that name no field make no difference.  What
matters of a member is the text that its key stands for and its value.
-/

namespace SoloScript.Config

open Json Outcome

/-! ## Objects and their members -/

/-- A member of an object, the text that its key stands for and its value, which may be any. -/
inductive Entry : (text : List Char) → (key : String) → (value : List Char) → Prop
  | intro {blanks literal name blanks' blanks'' value : List Char} (blank : Blank blanks)
      (denotes : Denotes literal name) (blank' : Blank blanks') (blank'' : Blank blanks'')
      (valid : Valid .value value) :
      Entry (blanks ++ '"' :: (literal ++ (blanks' ++ ':' :: (blanks'' ++ value))))
        (String.ofList name) value

/-- One member or more, and the brace behind them. -/
inductive Entries : (text : List Char) → (members : List (String × List Char)) → Prop
  | last {text key value blanks} (entry : Entry text key value) (blank : Blank blanks) :
      Entries (text ++ (blanks ++ ['\x7d'])) [(key, value)]
  | more {text key value blanks text' members} (entry : Entry text key value)
      (blank : Blank blanks) (others : Entries text' members) :
      Entries (text ++ (blanks ++ ',' :: text')) ((key, value) :: members)

/-- An object and its members. -/
inductive IsObject : (text : List Char) → (members : List (String × List Char)) → Prop
  | empty {blanks blanks' blanks'' : List Char} (blank : Blank blanks) (blank' : Blank blanks')
      (blank'' : Blank blanks'') : IsObject (blanks ++ '\x7b' :: (blanks' ++ '\x7d' :: blanks'')) []
  | full {blanks text blanks' members} (blank : Blank blanks) (entries : Entries text members)
      (blank' : Blank blanks') : IsObject (blanks ++ '\x7b' :: (text ++ blanks')) members

variable {members members' : List (String × List Char)}

/-- No field is given twice, and what is given to a field is of its kind. -/
structure WellTyped (members : List (String × List Char)) : Prop where
  once : ∀ field : Field, (members.map Prod.fst).count field.key ≤ 1
  typed : ∀ (field : Field) value, (field.key, value) ∈ members →
    ∃ setting, field.kind.Means value setting

/-- What is given to a field is what it is set to, and the other fields are as they were. -/
structure Overrides (members : List (String × List Char)) (config config' : Config) : Prop where
  given : ∀ (field : Field) value setting, (field.key, value) ∈ members →
    field.kind.Means value setting → field.get config' = setting
  kept : ∀ field : Field, field.key ∉ members.map Prod.fst → field.get config' = field.get config

def known (member : String × List Char) : Bool := (Field.ofKey? member.1).isSome

variable {seen : List Field} {config config' : Config} {field : Field} {key : String} {c : Cursor}
  {text rest value : List Char}

/-! ## One member -/

theorem Field.key_of_ofKey? (h : ofKey? key = some field) : field.key = key := by
  simpa using List.find?_some h

theorem Field.key_injective {field' : Field} (h : field.key = field'.key) : field = field' :=
  Option.some.inj (field.ofKey?_key.symm.trans ((congrArg ofKey? h).trans field'.ofKey?_key))

theorem takes_unnamed (config : Config) (valid : Valid .value value) :
    Takes (readValue none config) value config :=
  Takes.map valid.skips fun _ ↦ config

theorem takes_setting {setting : field.kind.Setting} (config : Config)
    (means : field.kind.Means value setting) :
    Takes (readValue (some field) config) value (field.put config setting) := by
  intro blanks rest blank stops c ahead
  rw [readValue, field.read_eq]
  exact (means.takes field.expected).map (field.put config) blanks rest blank stops c ahead

/-- A value is a setting of a field or is refused for it. -/
theorem setting_or_takesNot (field : Field) (config : Config) (valid : Valid .value value) :
    (∃ setting, field.kind.Means value setting) ∨ TakesNot (readValue (some field) config) value := by
  refine (field.kind.means_or_takesNot field.expected valid).imp_right fun refused ↦ ?_
  intro blanks rest blank stops c ahead
  rw [readValue, field.read_eq]
  exact refused.map (field.put config) blanks rest blank stops c ahead

/-- The value of a member is taken or refused. -/
theorem takes_or_takesNot (field : Option Field) (config : Config) (valid : Valid .value value) :
    (∃ config', Takes (readValue field config) value config') ∨
      TakesNot (readValue field config) value := by
  cases field with
  | none => exact .inl ⟨config, takes_unnamed config valid⟩
  | some field =>
    refine (setting_or_takesNot field config valid).imp_left ?_
    rintro ⟨setting, means⟩
    exact ⟨_, takes_setting config means⟩

namespace Entry

theorem valid (h : Entry text key value) : Valid .value value := by
  obtain ⟨-, -, -, -, valid⟩ := h
  exact valid

theorem member (h : Entry text key value) (stops : Stops rest)
    (takes : Takes (readValue (Field.ofKey? key) config) value config') :
    Member config rest text (Field.ofKey? key) config' := by
  obtain ⟨blank, denotes, blank', blank'', -⟩ := h
  have member := Member.intro blank denotes.reads blank' (takes _ rest blank'' stops)
  simpa only [List.append_assoc, List.cons_append, List.nil_append] using member

/-- A member of a field that has come before is refused. -/
theorem refuses_seen (h : Entry text key value)
    (again : (Field.ofKey? key).any seen.contains = true) :
    Refuses (readMembers seen config) text rest := by
  obtain ⟨blank, denotes, -, -, -⟩ := h
  intro c ahead
  obtain ⟨key, keyRead, named, -⟩ := reads_key blank (denotes.reads _) c
    (ahead.trans (by simp only [List.append_assoc, List.cons_append]; rfl))
  rw [readMembers, keyRead, ok_bind, named]
  simp only [again, if_true]
  exact ⟨_, rfl⟩

/-- A member whose value is refused is itself refused. -/
theorem refuses_value (h : Entry text key value) (stops : Stops rest)
    (fresh : (Field.ofKey? key).any seen.contains = false)
    (refused : TakesNot (readValue (Field.ofKey? key) config) value) :
    Refuses (readMembers seen config) text rest := by
  obtain ⟨blank, denotes, blank', blank'', -⟩ := h
  intro c ahead
  obtain ⟨start, shorter, next, met⟩ := exists_readMembers_eq config blank denotes.reads blank' fresh
    (ahead.trans (by
      simp only [List.append_assoc, List.cons_append, List.nil_append]; rfl))
  obtain ⟨fault, met'⟩ := refused _ rest blank'' stops start (next.trans (List.append_assoc ..).symm)
  rw [met]
  exact ⟨fault, bind_eq_error_iff.2 (.inl met')⟩

/-- A member is refused, or else its field is new and its value is taken. -/
theorem takes_or_refuses (h : Entry text key value) (stops : Stops rest) (seen : List Field)
    (config : Config) :
    ((Field.ofKey? key).any seen.contains = false ∧
      ∃ config', Takes (readValue (Field.ofKey? key) config) value config') ∨
    Refuses (readMembers seen config) text rest := by
  cases come : (Field.ofKey? key).any seen.contains with
  | true => exact .inr (h.refuses_seen come)
  | false =>
    rcases takes_or_takesNot (Field.ofKey? key) config h.valid with taken | refused
    · exact .inl ⟨rfl, taken⟩
    · exact .inr (h.refuses_value stops come refused)

end Entry

/-! ## All members -/

/-- A field comes again among keys: after it has been seen, or after it has come among them. -/
def Again (seen : List Field) (keys : List String) (field : Field) : Prop :=
  (field ∈ seen ∧ field.key ∈ keys) ∨ 1 < keys.count field.key

/-- If a field comes again, but not with the first key, it does so behind it. -/
theorem Again.tail {keys : List String} (h : Again seen (key :: keys) field)
    (fresh : (Field.ofKey? key).any seen.contains = false) :
    Again ((Field.ofKey? key).toList ++ seen) keys field := by
  by_cases same : key = field.key
  · subst same
    rw [Field.ofKey?_key] at fresh ⊢
    rcases h with ⟨before, -⟩ | twice
    · exact absurd (by simpa using before) (Bool.eq_false_iff.1 fresh)
    · rw [List.count_cons_self] at twice
      exact .inl ⟨List.mem_cons_self, List.count_pos_iff.1 (Nat.lt_of_succ_lt_succ twice)⟩
  · rw [Again, List.count_cons_of_ne same] at h
    refine h.imp_left fun before ↦ ⟨List.mem_append_right _ before.1, ?_⟩
    exact (List.mem_cons.1 before.2).resolve_left (Ne.symm same)

/-- A field has a value among members that is not of its kind. -/
def Mistyped (members : List (String × List Char)) (field : Field) : Prop :=
  ∃ value, (field.key, value) ∈ members ∧ ∀ setting, ¬field.kind.Means value setting

/-- Where no field is given twice and none has a value of another kind, all is well typed. -/
theorem wellTyped_or_mistyped (once : ∀ field : Field, (members.map Prod.fst).count field.key ≤ 1) :
    WellTyped members ∨ ∃ field, Mistyped members field := by
  by_cases typed : ∀ (field : Field) value, (field.key, value) ∈ members →
      ∃ setting, field.kind.Means value setting
  · exact .inl ⟨once, typed⟩
  · push Not at typed
    obtain ⟨field, value, mem, other⟩ := typed
    exact .inr ⟨field, value, mem, other⟩

/-- A field whose value is taken is not the one with a value of another kind. -/
theorem Mistyped.tail (h : Mistyped ((key, value) :: members) field) (valid : Valid .value value)
    (takes : Takes (readValue (Field.ofKey? key) config) value config') :
    Mistyped members field := by
  obtain ⟨value', mem, other⟩ := h
  rcases List.mem_cons.1 mem with same | mem
  · obtain ⟨rfl, rfl⟩ := Prod.mk.inj same
    rw [Field.ofKey?_key] at takes
    rcases setting_or_takesNot field config valid with ⟨setting, means⟩ | refused
    · exact absurd means (other setting)
    · exact absurd refused takes.not_takesNot
  · exact ⟨value', mem, other⟩

/-- Where a field comes again or has a value of another kind, reading members comes to a fault, at
that member if not earlier. -/
theorem Entries.refuses (h : Entries text members)
    (faulty : Again seen (members.map Prod.fst) field ∨ Mistyped members field) :
    Refuses (readMembers seen config) text rest := by
  induction h generalizing seen config with
  | @last text key value blanks entry blank =>
    intro c ahead
    have ahead := ahead.trans (by simp only [List.append_assoc, List.cons_append, List.nil_append] :
      _ = text ++ (blanks ++ '\x7d' :: rest))
    have stops : Stops (blanks ++ '\x7d' :: rest) := stops_of_mem_separators (by decide) blank
    rcases entry.takes_or_refuses stops seen config with ⟨fresh, config', takes⟩ | refused
    · rcases faulty with again | mistyped
      · rcases again.tail fresh with ⟨-, absent⟩ | absent
        · exact absurd absent List.not_mem_nil
        · exact absurd absent (Nat.not_lt_zero _)
      · obtain ⟨_, absent, -⟩ := mistyped.tail entry.valid takes
        exact absurd absent List.not_mem_nil
    · exact refused c ahead
  | @more text key value blanks text' members entry blank others ih =>
    intro c ahead
    have ahead := ahead.trans (by simp only [List.append_assoc, List.cons_append] :
      _ = text ++ (blanks ++ ',' :: (text' ++ rest)))
    have stops : Stops (blanks ++ ',' :: (text' ++ rest)) :=
      stops_of_mem_separators (by decide) blank
    rcases entry.takes_or_refuses stops seen config with ⟨fresh, config', takes⟩ | refused
    · obtain ⟨next, shorter, other, left, met⟩ :=
        (entry.member stops takes).exists_next fresh blank (by decide) ahead
      have faulty' := faulty.imp (·.tail fresh) (·.tail entry.valid takes)
      obtain ⟨fault, refused⟩ := ih faulty' next left
      rw [met, if_neg (by decide), if_pos rfl]
      exact ⟨fault, map_eq_error_iff.2 refused⟩
    · exact refused c ahead

namespace WellTyped

theorem tail (h : WellTyped ((key, value) :: members)) : WellTyped members where
  once field := Nat.le_trans List.count_le_count_cons (h.once field)
  typed field value mem := h.typed field value (List.mem_cons_of_mem _ mem)

/-- A field that the first member names is not named again. -/
theorem notMem_tail (h : WellTyped ((field.key, value) :: members)) :
    field.key ∉ members.map Prod.fst := by
  have once := h.once field
  rw [List.map_cons, List.count_cons_self] at once
  exact List.count_eq_zero.1 (by omega)

end WellTyped

/-- A member is read if its field has not come before. -/
theorem any_contains_eq_false {keys : List String}
    (fresh : ∀ field ∈ seen, field.key ∉ key :: keys) :
    (Field.ofKey? key).any seen.contains = false := by
  cases named : Field.ofKey? key with
  | none => rfl
  | some field =>
    obtain rfl := Field.key_of_ofKey? named
    simpa using fun come ↦ fresh field come List.mem_cons_self

/-- What the first member gives, the others keep. -/
theorem Overrides.cons {config'' : Config} (first : Overrides [(key, value)] config config')
    (others : Overrides members config' config'')
    (once : ∀ field : Field, field.key = key → field.key ∉ members.map Prod.fst) :
    Overrides ((key, value) :: members) config config'' where
  given field value' setting mem means := by
    rcases List.mem_cons.1 mem with same | mem
    · obtain ⟨rfl, rfl⟩ := Prod.mk.inj same
      rw [others.kept field (once field rfl)]
      exact first.given field _ setting (List.mem_singleton.2 rfl) means
    · exact others.given field value' setting mem means
  kept field absent := by
    rw [List.map_cons, List.mem_cons, not_or] at absent
    rw [others.kept field absent.2]
    exact first.kept field (by simpa using absent.1)

/-- What a field is put to overrides it, and nothing else. -/
theorem overrides_put {setting : field.kind.Setting} (config : Config)
    (means : field.kind.Means value setting) :
    Overrides [(field.key, value)] config (field.put config setting) where
  given field' value' setting' mem means' := by
    obtain ⟨same, rfl⟩ := Prod.mk.inj (List.mem_singleton.1 mem)
    obtain rfl := Field.key_injective same
    rw [Field.get_put]
    exact means.unique means'
  kept field' absent := by
    refine Field.get_put_of_ne (fun same ↦ absent ?_) setting
    rw [same]
    exact List.mem_singleton.2 rfl

/-- A member of which the value is of the kind of its field is taken. -/
theorem Entry.exists_override (h : Entry text key value)
    (typed : WellTyped ((key, value) :: members)) (config : Config) :
    ∃ config', Takes (readValue (Field.ofKey? key) config) value config' ∧
      Overrides [(key, value)] config config' := by
  cases named : Field.ofKey? key with
  | none =>
    refine ⟨config, takes_unnamed config h.valid, fun field _ _ mem _ ↦ ?_, fun _ _ ↦ rfl⟩
    obtain ⟨rfl, -⟩ := Prod.mk.inj (List.mem_singleton.1 mem)
    exact absurd (named.symm.trans field.ofKey?_key) (by simp)
  | some field =>
    obtain rfl := Field.key_of_ofKey? named
    obtain ⟨setting, means⟩ := typed.typed field value List.mem_cons_self
    exact ⟨_, takes_setting config means, overrides_put config means⟩

/-- Members of which no field comes twice, and each has a value of its kind, are read, and make the
configuration that they say. -/
theorem Entries.exists_members (h : Entries text members) (typed : WellTyped members)
    (fresh : ∀ field ∈ seen, field.key ∉ members.map Prod.fst) (config : Config) :
    ∃ config', Members rest seen config text config' ∧ Overrides members config config' := by
  induction h generalizing seen config with
  | @last text key value blanks entry blank =>
    obtain ⟨config', takes, overrides⟩ := entry.exists_override typed config
    have stops : Stops (blanks ++ '\x7d' :: rest) := stops_of_mem_separators (by decide) blank
    exact ⟨config', .last (entry.member stops takes) (any_contains_eq_false fresh) blank, overrides⟩
  | @more text key value blanks text' members entry blank others ih =>
    obtain ⟨config', takes, first⟩ := entry.exists_override typed config
    have stops : Stops (blanks ++ ',' :: (text' ++ rest)) :=
      stops_of_mem_separators (by decide) blank
    have once (field : Field) (same : field.key = key) : field.key ∉ members.map Prod.fst := by
      subst same
      exact typed.notMem_tail
    have fresh' : ∀ field ∈ (Field.ofKey? key).toList ++ seen,
        field.key ∉ members.map Prod.fst := by
      intro field mem
      rcases List.mem_append.1 mem with named | come
      · exact once field (Field.key_of_ofKey? (Option.mem_toList.1 named))
      · exact fun later ↦ fresh field come (List.mem_cons_of_mem _ later)
    obtain ⟨config'', taken, overrides⟩ := ih typed.tail fresh' config'
    exact ⟨config'', .more (entry.member stops takes) (any_contains_eq_false fresh) blank taken,
      first.cons overrides once⟩

/-! ## Objects -/

theorem Entries.exists_quote (h : Entries text members) :
    ∃ blanks others, text = blanks ++ '"' :: others ∧ Blank blanks := by
  cases h with
  | last entry | more entry =>
    obtain ⟨blank, -, -, -, -⟩ := entry
    exact ⟨_, _, by simp only [List.append_assoc, List.cons_append]; rfl, blank⟩

/-- An object whose members are refused is refused. -/
theorem Entries.refuses_object (h : Entries text members)
    (refused : Refuses (readMembers [] default) text rest) : Refuses readObject text rest := by
  intro c ahead
  obtain ⟨blanks, others, rfl, blank⟩ := h.exists_quote
  rw [readObject_of_quote (ahead.trans (List.append_assoc ..)) blank]
  exact refused c ahead

theorem reads_emptyObject {blanks : List Char} (blank : Blank blanks) :
    Reads readObject (blanks ++ ['\x7d']) rest default := by
  intro c ahead
  obtain ⟨token, found, same, left⟩ := Cursor.exists_token?
    (ahead.trans (List.append_assoc ..)) blank (by decide : Cursor.isBlank '}' = false)
  rw [readObject, found]
  exact ⟨_, if_pos same, rfl, left⟩

/-- An object in which no field comes twice and each has a value of its kind is a configuration. -/
theorem IsObject.exists_ofText? {source : String} (h : IsObject source.toList members)
    (typed : WellTyped members) :
    ∃ config, ofText? source = .ok config ∧ Overrides members default config := by
  generalize whole : source.toList = text at h
  cases h with
  | @empty blanks blanks' blanks'' blank blank' blank'' =>
    have whole : source.toList = (blanks ++ '\x7b' :: (blanks' ++ ['\x7d'])) ++ blanks'' :=
      whole.trans (by simp only [List.append_assoc, List.cons_append, List.nil_append])
    have reads : Reads read _ blanks'' default := opens_object.reads blank (reads_emptyObject blank')
    exact ⟨default, ofText?_of_reads whole reads blank'',
      fun _ _ _ mem ↦ absurd mem List.not_mem_nil, fun _ _ ↦ rfl⟩
  | @full blanks text blanks' members blank entries blank' =>
    have whole : source.toList = (blanks ++ '\x7b' :: text) ++ blanks' :=
      whole.trans (by simp only [List.append_assoc, List.cons_append])
    have fresh : ∀ field ∈ ([] : List Field), field.key ∉ members.map Prod.fst := by simp
    obtain ⟨config, members, overrides⟩ := entries.exists_members typed fresh default
    exact ⟨config, ofText?_of_members whole blank members blank', overrides⟩

/-- An object that gives a field twice, or a value of another kind, is malformed. -/
theorem IsObject.exists_fault {source : String} {field : Field}
    (h : IsObject source.toList members)
    (faulty : 1 < (members.map Prod.fst).count field.key ∨ Mistyped members field) :
    ∃ fault, ofText? source = .error fault := by
  generalize whole : source.toList = text at h
  cases h with
  | empty =>
    rcases faulty with twice | ⟨_, absent, -⟩
    · exact absurd twice (Nat.not_lt_zero _)
    · exact absurd absent List.not_mem_nil
  | @full blanks text blanks' members blank entries blank' =>
    have whole : source.toList = (blanks ++ '\x7b' :: text) ++ blanks' :=
      whole.trans (by simp only [List.append_assoc, List.cons_append])
    refine exists_error_of_refuses whole (opens_object.refuses blank ?_)
    exact entries.refuses_object (entries.refuses (faulty.imp_left .inr))

theorem IsObject.exists_error {source : String} (h : IsObject source.toList members)
    (again : ∃ field : Field, 1 < (members.map Prod.fst).count field.key) :
    ∃ fault, ofText? source = .error fault := by
  obtain ⟨field, twice⟩ := again
  exact h.exists_fault (.inl twice)

/-! ## What does not matter -/

theorem mem_filter_known_iff {value : List Char} :
    (field.key, value) ∈ members.filter known ↔ (field.key, value) ∈ members := by
  rw [List.mem_filter, known, field.ofKey?_key]
  exact and_iff_left rfl

theorem count_filter_known :
    ((members.filter known).map Prod.fst).count field.key =
      (members.map Prod.fst).count field.key := by
  rw [List.count_eq_countP, List.count_eq_countP, List.countP_map, List.countP_map,
    List.countP_filter]
  refine List.countP_congr fun member _ ↦ ?_
  simp only [Function.comp_apply, Bool.and_eq_true, beq_iff_eq, and_iff_left_iff_imp]
  intro same
  rw [known, same, field.ofKey?_key]
  rfl

theorem WellTyped.of_perm (h : WellTyped members)
    (same : (members'.filter known).Perm (members.filter known)) : WellTyped members' where
  once field := by
    rw [← count_filter_known, (same.map Prod.fst).count_eq, count_filter_known]
    exact h.once field
  typed field value mem :=
    h.typed field value (mem_filter_known_iff.1 (same.mem_iff.1 (mem_filter_known_iff.2 mem)))

/-- Objects with the same members of fields, in whatever order, say the same. -/
theorem Overrides.of_perm (h : Overrides members' config config')
    (same : (members'.filter known).Perm (members.filter known)) :
    Overrides members config config' where
  given field value setting mem :=
    h.given field value setting
      (mem_filter_known_iff.1 (same.mem_iff.2 (mem_filter_known_iff.2 mem)))
  kept field absent := by
    refine h.kept field fun named ↦ absent ?_
    rw [← List.count_pos_iff, ← count_filter_known, (same.map Prod.fst).count_eq,
      count_filter_known, List.count_pos_iff] at named
    exact named

/-- There is one configuration that an object says. -/
theorem Overrides.unique {config'' : Config} (h : Overrides members config config')
    (typed : WellTyped members) (h' : Overrides members config config'') : config' = config'' := by
  refine ext_get fun field ↦ ?_
  by_cases named : field.key ∈ members.map Prod.fst
  · obtain ⟨⟨_, value⟩, mem, same⟩ := List.mem_map.1 named
    obtain rfl := same
    obtain ⟨setting, means⟩ := typed.typed field value mem
    rw [h.given field value setting mem means, h'.given field value setting mem means]
  · rw [h.kept field named, h'.kept field named]

/-- A file with an object in which no field comes twice and each has a value of its kind is loaded:
the fields that are given are set, the others keep their defaults, and any file with an object that
gives the same to the same fields is loaded as the same configuration.  Where a field comes twice,
the file is malformed, whatever the values are. -/
theorem object_overrides {tree : File.Tree} {path : File.Path} {source : String}
    (object : IsObject source.toList members)
    (kept : tree.read path = .ok (Text.Utf8.encode source)) :
    (WellTyped members → ∃ config, load tree path = .ok config ∧
      (∀ (field : Field) value setting, (field.key, value) ∈ members →
        field.kind.Means value setting → field.get config = setting) ∧
      (∀ field : Field, field.key ∉ members.map Prod.fst → field.get config = field.get default) ∧
      ∀ (tree' : File.Tree) (path' : File.Path) (source' : String) members',
        IsObject source'.toList members' → tree'.read path' = .ok (Text.Utf8.encode source') →
        (members'.filter known).Perm (members.filter known) → load tree' path' = .ok config) ∧
    ((∃ field : Field, 1 < (members.map Prod.fst).count field.key) →
      ∃ fault, load tree path = .error (.configMalformed path fault)) := by
  refine ⟨fun typed ↦ ?_, fun again ↦ ?_⟩
  · obtain ⟨config, met, overrides⟩ := object.exists_ofText? typed
    refine ⟨config, load_of_ofText? kept met, overrides.given, overrides.kept, ?_⟩
    intro tree' path' source' members' object' kept' same
    obtain ⟨config', met', overrides'⟩ := object'.exists_ofText? (typed.of_perm same)
    rw [overrides.unique typed (overrides'.of_perm same)]
    exact load_of_ofText? kept' met'
  · obtain ⟨fault, met⟩ := object.exists_error again
    exact ⟨fault, load_eq_error_of_ofText? kept met⟩

theorem Entry.of_key {blanks literal name blanks' blanks'' : List Char} (named : name = key.toList)
    (blank : Blank blanks) (denotes : Denotes literal name) (blank' : Blank blanks')
    (blank'' : Blank blanks'') (valid : Valid .value value) :
    Entry (blanks ++ '"' :: (literal ++ (blanks' ++ ':' :: (blanks'' ++ value)))) key value := by
  have entry := Entry.intro blank denotes blank' blank'' valid
  rwa [named, String.ofList_toList] at entry

theorem IsObject.of_eq {text' : List Char} (h : IsObject text members) (same : text' = text) :
    IsObject text' members :=
  same ▸ h

/-- An object of three members: one that names no field, one with escapes in its key and its value,
and one with the largest number. -/
def threeMembers : String :=
  "\x7b\"x\" : [\x7b\"\\ud800\":-1e3\x7d ,null],\n\"\\u006coader_file\": \"\\ud83d\\ude00\" " ++
    ",\t\"max_scan_len\":18446744073709551615\x7d\n"

def smile : List Char := ['\\', 'u', 'd', '8', '3', 'd', '\\', 'u', 'd', 'e', '0', '0', '"']

def largest : List Char :=
  ['1', '8', '4', '4', '6', '7', '4', '4', '0', '7', '3', '7', '0', '9', '5', '5', '1', '6', '1',
    '5']

/-- The members of `threeMembers`; the first has `value`. -/
def threeGiven (value : List Char) : List (String × List Char) :=
  [("x", value), (Field.loaderFile.key, '"' :: smile), (Field.maxScanBytes.key, largest)]

theorem keys_threeGiven (value : List Char) :
    (threeGiven value).map Prod.fst = ["x", Field.loaderFile.key, Field.maxScanBytes.key] :=
  rfl

theorem denotes_smile : Denotes smile [Char.ofNat 0x1f600] := by
  have pair := Denotes.pair (by decide : StringLiteral.hexUnit? 'd' '8' '3' 'd' = some 0xd83d)
    (by decide) (by decide : StringLiteral.hexUnit? 'd' 'e' '0' '0' = some 0xde00) (by decide)
    .close
  exact pair

theorem whole_largest : Whole largest := ⟨by decide, by simp [largest]⟩

theorem isObject_threeMembers :
    ∃ value, IsObject threeMembers.toList (threeGiven value) := by
  have alone : Quoted ['\\', 'u', 'd', '8', '0', '0', '"'] := .numbered rfl .close
  have thousand : Exponent ['e', '3'] (some (false, ['3'])) :=
    .present (.inl rfl) .absent (by decide : Digits ['3'])
  have one : Whole ['1'] := ⟨by decide, by simp⟩
  have nested : Valid .members _ := .lastMember blank_nil alone blank_nil blank_nil
    (.number (.negative one .absent thousand)) blank_nil
  have unknown : Valid .value _ := .array (.element blank_nil (.object nested) blank_space
    (.lastElement blank_nil (.keyword List.mem_cons_self) blank_nil))
  have plain : ArePlain ['o', 'a', 'd', 'e', 'r', '_', 'f', 'i', 'l', 'e'] := by decide
  have plain' : ArePlain ['m', 'a', 'x', '_', 's', 'c', 'a', 'n', '_', 'l', 'e', 'n'] := by
    decide
  have escaped : Denotes ('\\' :: 'u' :: '0' :: '0' :: '6' :: 'c' :: _) ('l' :: _) :=
    .numbered rfl (.inl (by decide)) (.append plain .close)
  have first := Entry.of_key (by decide : ['x'] = "x".toList) blank_nil
    (.append (by decide : ArePlain ['x']) .close) blank_space blank_space unknown
  have second := Entry.of_key (by decide : _ = Field.loaderFile.key.toList)
    (by decide : Blank ['\n']) escaped blank_nil blank_space (.string denotes_smile.quoted)
  have third := Entry.of_key (by decide : _ = Field.maxScanBytes.key.toList)
    (by decide : Blank ['\t']) (.append plain' .close) blank_nil blank_nil
    (.number (.positive whole_largest .absent .absent))
  exact ⟨_, (IsObject.full blank_nil (.more first blank_nil (.more second blank_space
    (.last third blank_nil))) (by decide : Blank ['\n'])).of_eq (by decide)⟩

theorem means_smile : Kind.text.Means ('"' :: smile) "😀" := by
  have text := IsText.intro denotes_smile
  rwa [(by decide : String.ofList [Char.ofNat 0x1f600] = "😀")] at text

theorem means_largest : Kind.number.Means largest (Nat.pow 2 64 - 1) :=
  ⟨whole_largest, by decide, by decide⟩

theorem wellTyped_threeGiven (value : List Char) : WellTyped (threeGiven value) where
  once field := by
    rw [keys_threeGiven]
    cases field <;> decide
  typed field value' mem := by
    simp only [threeGiven, List.mem_cons, List.not_mem_nil, or_false, Prod.mk.injEq] at mem
    rcases mem with ⟨same, -⟩ | ⟨same, rfl⟩ | ⟨same, rfl⟩
    · exact absurd same (by cases field <;> decide)
    · obtain rfl := Field.key_injective same
      exact ⟨_, means_smile⟩
    · obtain rfl := Field.key_injective same
      exact ⟨_, means_largest⟩

/-- An object that gives a field twice. -/
def twoMembers : String := "\x7b\"loader_file\":\"\", \"loader_file\":\"\"\x7d"

theorem isObject_twoMembers : IsObject twoMembers.toList
    [(Field.loaderFile.key, ['"', '"']), (Field.loaderFile.key, ['"', '"'])] := by
  have plain : ArePlain ['l', 'o', 'a', 'd', 'e', 'r', '_', 'f', 'i', 'l', 'e'] := by
    decide
  have first := Entry.of_key (by decide : _ = Field.loaderFile.key.toList) blank_nil
    (.append plain .close) blank_nil blank_nil (.string .close)
  have second := Entry.of_key (by decide : _ = Field.loaderFile.key.toList) blank_space
    (.append plain .close) blank_nil blank_nil (.string .close)
  exact (IsObject.full blank_nil (.more first blank_nil (.last second blank_nil))
    blank_nil).of_eq (by decide)

theorem overrides_of_three_members :
    let tree (source : String) := (File.Tree.empty ["w"]).set ["w", "b.js"]
      (.file (Text.Utf8.encode source))
    (∃ config, load (tree threeMembers) ⟨"b.js"⟩ = .ok config ∧ config.loaderFile = "😀" ∧
      config.maxScanBytes = Nat.pow 2 64 - 1 ∧ config.outputPath = default.outputPath) ∧
    ∃ fault, load (tree twoMembers) ⟨"b.js"⟩ = .error (.configMalformed ⟨"b.js"⟩ fault) := by
  intro tree
  have kept (source : String) : (tree source).read ⟨"b.js"⟩ = .ok (Text.Utf8.encode source) :=
    File.Tree.read_of_slot (bare_bundle.slot _) (bare_bundle.fits _) rfl
  constructor
  · obtain ⟨value, object⟩ := isObject_threeMembers
    obtain ⟨config, loaded, given, defaults, -⟩ :=
      (object_overrides object (kept _)).1 (wellTyped_threeGiven value)
    have path : config.outputPath.text = default.outputPath.text :=
      defaults .outputPath (by rw [keys_threeGiven]; decide)
    refine ⟨config, loaded, ?_, ?_, congrArg File.Path.mk path⟩
    · exact given .loaderFile _ _ (List.mem_cons_of_mem _ List.mem_cons_self) means_smile
    · exact given .maxScanBytes _ _
        (List.mem_cons_of_mem _ (List.mem_cons_of_mem _ List.mem_cons_self)) means_largest
  · exact (object_overrides isObject_twoMembers (kept _)).2 ⟨.loaderFile, by decide⟩

end SoloScript.Config
