import Mathlib.Data.List.Nodup
import SoloScript.Proofs.Config.Overrides

/-!
# Arrays of settings

An array gives values to the fields in their order, and may leave out the last ones.  It is read as
the object that gives the same values to the same fields, and refused where that object is.  An
array with more elements than there are fields is refused, whatever they are.
-/

namespace SoloScript.Config

open Json Outcome

/-! ## Arrays and their elements -/

/-- One element or more, and the bracket behind them. -/
inductive Elements : (text : List Char) → (values : List (List Char)) → Prop
  | last {blanks value blanks' : List Char} (blank : Blank blanks) (valid : Valid .value value)
      (blank' : Blank blanks') : Elements ((blanks ++ value) ++ (blanks' ++ [']'])) [value]
  | more {blanks value blanks' text values} (blank : Blank blanks) (valid : Valid .value value)
      (blank' : Blank blanks') (others : Elements text values) :
      Elements ((blanks ++ value) ++ (blanks' ++ ',' :: text)) (value :: values)

/-- An array and its elements. -/
inductive IsArray : (text : List Char) → (values : List (List Char)) → Prop
  | empty {blanks blanks' blanks'' : List Char} (blank : Blank blanks) (blank' : Blank blanks')
      (blank'' : Blank blanks'') : IsArray (blanks ++ '[' :: (blanks' ++ ']' :: blanks'')) []
  | full {blanks text blanks' values} (blank : Blank blanks) (elements : Elements text values)
      (blank' : Blank blanks') : IsArray (blanks ++ '[' :: (text ++ blanks')) values

/-- The members of an object that gives values to fields in their order. -/
def given (fields : List Field) (values : List (List Char)) : List (String × List Char) :=
  (fields.map Field.key).zip values

variable {fields : List Field} {values : List (List Char)} {config config' : Config} {field : Field}
  {c : Cursor} {d : Char} {blanks blanks' text rest value : List Char}

theorem given_cons (field : Field) (fields : List Field) (value : List Char)
    (values : List (List Char)) :
    given (field :: fields) (value :: values) = (field.key, value) :: given fields values :=
  rfl

theorem given_nil (fields : List Field) : given fields [] = [] := List.zip_nil_right

theorem keys_given (fits : values.length ≤ fields.length) :
    (given fields values).map Prod.fst = (fields.take values.length).map Field.key := by
  induction values generalizing fields with
  | nil => simp [given]
  | cons value values ih =>
    cases fields with
    | nil => simp at fits
    | cons field fields => exact congrArg (field.key :: ·) (ih (Nat.le_of_succ_le_succ fits))

/-- No field is given twice. -/
theorem count_given_le (distinct : fields.Nodup) (fits : values.length ≤ fields.length)
    (field : Field) : ((given fields values).map Prod.fst).count field.key ≤ 1 := by
  rw [keys_given fits]
  apply List.nodup_iff_count_le_one.1
  exact (distinct.sublist (List.take_sublist ..)).map fun _ _ ↦ Field.key_injective

/-- The fields behind the last value are not given. -/
theorem key_notMem_given (distinct : fields.Nodup) (fits : values.length ≤ fields.length)
    (behind : field ∈ fields.drop values.length) :
    field.key ∉ (given fields values).map Prod.fst := by
  rw [keys_given fits]
  intro mem
  obtain ⟨field', early, same⟩ := List.mem_map.1 mem
  obtain rfl := Field.key_injective same
  exact List.disjoint_take_drop distinct (Nat.le_refl _) early behind

/-! ## One element -/

theorem Elements.exists_first (h : Elements text values) :
    ∃ blanks d others, text = blanks ++ d :: others ∧ Blank blanks ∧
      Cursor.isBlank d = false ∧ d ≠ ']' := by
  cases h with
  | last blank valid | more blank valid =>
    obtain ⟨d, others, rfl, solid, other⟩ := valid.exists_first
    exact ⟨_, d, _, by simp only [List.append_assoc, List.cons_append]; rfl, blank, solid, other⟩

/-- An element that is taken, and the character behind it. -/
theorem exists_element (blank : Blank blanks)
    (takes : Takes (readValue (some field) config) value config') (blank' : Blank blanks')
    (separates : d ∈ separators) (ahead : c.rest = (blanks ++ value) ++ (blanks' ++ d :: rest)) :
    ∃ (element : Read Config c) (token : Read Char element.next),
      field.read config c = .ok element ∧ element.value = config' ∧
      element.next.token? = some token ∧ token.value = d ∧ token.next.rest = rest := by
  have stops : Stops (blanks' ++ d :: rest) := stops_of_mem_separators separates blank'
  obtain ⟨element, taken, same, next⟩ := takes blanks _ blank stops c ahead
  obtain ⟨token, found, same', left⟩ :=
    Cursor.exists_token? next blank' (isBlank_of_mem_separators separates)
  exact ⟨element, token, taken, same, found, same', left⟩

theorem reads_lastElement (blank : Blank blanks)
    (takes : Takes (readValue (some field) config) value config') (blank' : Blank blanks') :
    Reads (readElements config · (field :: fields)) ((blanks ++ value) ++ (blanks' ++ [']'])) rest
      config' := by
  intro c ahead
  obtain ⟨element, token, taken, rfl, found, closes, left⟩ := exists_element blank takes blank'
    (by decide : ']' ∈ separators) (ahead.trans (by simp only [List.append_assoc, List.cons_append]; rfl))
  show ∃ read, readElements config c (field :: fields) = .ok read ∧ _
  rw [readElements, taken, ok_bind]
  simp only [found, closes, if_true]
  exact ⟨_, rfl, rfl, left⟩

/-- Behind a comma, the next element is for the next field. -/
theorem exists_readElements_eq (blank : Blank blanks)
    (takes : Takes (readValue (some field) config) value config') (blank' : Blank blanks')
    (others : Elements text values) (more : fields ≠ [])
    (ahead : c.rest = (blanks ++ value) ++ (blanks' ++ ',' :: (text ++ rest))) :
    ∃ (next : Cursor) (shorter : next.length ≤ c.length), next.rest = text ++ rest ∧
      readElements config c (field :: fields) =
        (readElements config' next fields).map (Read.since · shorter) := by
  obtain ⟨element, token, taken, rfl, found, comma, left⟩ :=
    exists_element blank takes blank' (by decide) ahead
  obtain ⟨blanks'', e, tail, rfl, blank'', solid, other⟩ := others.exists_first
  obtain ⟨first, found', rfl, -⟩ :=
    Cursor.exists_token? (left.trans (List.append_assoc ..)) blank'' solid
  refine ⟨token.next, Nat.le_trans token.le element.le, left, ?_⟩
  rw [readElements, taken, ok_bind]
  have bracket : (',' : Char) ≠ ']' := by decide
  simp only [found, comma, if_neg bracket, if_neg more, if_true, found', if_neg other]
  rfl

/-- Behind the last field, nothing but the bracket may follow. -/
theorem refuses_surplus (blank : Blank blanks)
    (takes : Takes (readValue (some field) config) value config') (blank' : Blank blanks') :
    Refuses (readElements config · [field]) ((blanks ++ value) ++ (blanks' ++ ',' :: text)) rest := by
  intro c ahead
  obtain ⟨element, token, taken, rfl, found, comma, left⟩ := exists_element blank takes blank'
    (by decide : ',' ∈ separators) (ahead.trans (by simp only [List.append_assoc, List.cons_append]; rfl))
  show ∃ fault, readElements config c [field] = .error fault
  rw [readElements, taken, ok_bind]
  have bracket : (',' : Char) ≠ ']' := by decide
  simp only [found, comma, if_neg bracket, if_true]
  exact ⟨_, rfl⟩

theorem refuses_element (blank : Blank blanks)
    (refused : TakesNot (readValue (some field) config) value) (blank' : Blank blanks')
    (separates : d ∈ separators) : Refuses (readElements config · (field :: fields))
      ((blanks ++ value) ++ (blanks' ++ d :: text)) rest := by
  intro c ahead
  have stops : Stops (blanks' ++ d :: (text ++ rest)) := stops_of_mem_separators separates blank'
  obtain ⟨fault, met⟩ := refused blanks _ blank stops c
    (ahead.trans (by simp only [List.append_assoc, List.cons_append]))
  exact ⟨fault, bind_eq_error_iff.2 (.inl met)⟩

/-! ## All elements -/

/-- Values of the kinds of their fields are read, and make the configuration that they say. -/
theorem Elements.exists_reads (h : Elements text values) (fits : values.length ≤ fields.length)
    (typed : WellTyped (given fields values)) (config : Config) :
    ∃ config', Reads (readElements config · fields) text rest config' ∧
      Overrides (given fields values) config config' := by
  induction h generalizing fields config with
  | @last blanks value blanks' blank valid blank' =>
    cases fields with
    | nil => simp at fits
    | cons field fields =>
      obtain ⟨setting, means⟩ := typed.typed field value List.mem_cons_self
      rw [given_cons, given_nil]
      exact ⟨_, reads_lastElement blank (takes_setting config means) blank',
        overrides_put config means⟩
  | @more blanks value blanks' text values blank valid blank' others ih =>
    cases fields with
    | nil => simp at fits
    | cons field fields =>
      obtain ⟨setting, means⟩ := typed.typed field value List.mem_cons_self
      have fits : values.length ≤ fields.length := Nat.le_of_succ_le_succ fits
      obtain ⟨config', reads, overrides⟩ := ih fits typed.tail (field.put config setting)
      refine ⟨config', fun c ahead ↦ ?_, (overrides_put config means).cons overrides ?_⟩
      · have more : fields ≠ [] := by
          rintro rfl
          cases others <;> simp at fits
        obtain ⟨next, shorter, left, met⟩ := exists_readElements_eq blank
          (takes_setting config means) blank' others more
          (ahead.trans (by simp only [List.append_assoc, List.cons_append]; rfl))
        obtain ⟨read, taken, same, left⟩ := reads next left
        exact ⟨_, met.trans (map_eq_ok_iff.2 ⟨read, taken, rfl⟩), same, left⟩
      · intro field' same
        rw [same]
        exact typed.notMem_tail

/-- Some value has no field, or is of another kind than its field. -/
def Faulty (fields : List Field) (values : List (List Char)) : Prop :=
  fields.length < values.length ∨ ∃ field, Mistyped (given fields values) field

theorem not_faulty_nil : ¬Faulty fields [] := by
  rintro (surplus | ⟨field, value, mem, -⟩)
  · exact Nat.not_lt_zero _ surplus
  · rw [given_nil] at mem
    exact List.not_mem_nil mem

/-- If the first value is one of its field, the fault is behind it. -/
theorem Faulty.tail (h : Faulty (field :: fields) (value :: values)) (valid : Valid .value value)
    {setting : field.kind.Setting} (means : field.kind.Means value setting) :
    Faulty fields values := by
  rcases h with surplus | ⟨field', mistyped⟩
  · exact .inl (Nat.lt_of_succ_lt_succ surplus)
  · have takes := takes_setting default means
    rw [← field.ofKey?_key] at takes
    exact .inr ⟨field', mistyped.tail valid takes⟩

/-- Elements with a fault are refused, whatever else they are. -/
theorem Elements.refuses (h : Elements text values) (faulty : Faulty fields values)
    (config : Config) : Refuses (readElements config · fields) text rest := by
  induction h generalizing fields config with
  | @last blanks value blanks' blank valid blank' =>
    cases fields with
    | nil => exact fun c _ ↦ ⟨_, rfl⟩
    | cons field fields =>
      rcases setting_or_takesNot field config valid with ⟨setting, means⟩ | refused
      · exact absurd (faulty.tail valid means) not_faulty_nil
      · exact refuses_element blank refused blank' (by decide)
  | @more blanks value blanks' text values blank valid blank' others ih =>
    cases fields with
    | nil => exact fun c _ ↦ ⟨_, rfl⟩
    | cons field fields =>
      rcases setting_or_takesNot field config valid with ⟨setting, means⟩ | refused
      · have takes := takes_setting config means
        rcases fields with _ | ⟨field', fields⟩
        · exact refuses_surplus blank takes blank'
        · intro c ahead
          obtain ⟨next, shorter, left, met⟩ := exists_readElements_eq blank takes blank' others
            (List.cons_ne_nil field' fields)
            (ahead.trans (by simp only [List.append_assoc, List.cons_append]; rfl))
          obtain ⟨fault, refused⟩ := ih (faulty.tail valid means) _ next left
          exact ⟨fault, met.trans (map_eq_error_iff.2 refused)⟩
      · exact refuses_element blank refused blank' (by decide)

/-! ## Arrays -/

/-- An array that does not end at once is read by its elements, for all fields. -/
theorem readArray_of_elements (h : Elements text values) (ahead : c.rest = text ++ rest) :
    readArray c = readElements default c Field.all := by
  obtain ⟨blanks, d, others, rfl, blank, solid, other⟩ := h.exists_first
  obtain ⟨token, found, rfl, -⟩ :=
    Cursor.exists_token? (ahead.trans (List.append_assoc ..)) blank solid
  rw [readArray, found]
  exact if_neg other

theorem reads_emptyArray (blank : Blank blanks) : Reads readArray (blanks ++ [']']) rest default := by
  intro c ahead
  obtain ⟨token, found, same, left⟩ := Cursor.exists_token?
    (ahead.trans (List.append_assoc ..)) blank (by decide : Cursor.isBlank ']' = false)
  rw [readArray, found]
  exact ⟨_, if_pos same, rfl, left⟩

/-- An array of no more values than there are fields, each of the kind of its field, is a
configuration. -/
theorem IsArray.exists_ofText? {source : String} (h : IsArray source.toList values)
    (fits : values.length ≤ Field.all.length) (typed : WellTyped (given Field.all values)) :
    ∃ config, ofText? source = .ok config ∧ Overrides (given Field.all values) default config := by
  generalize whole : source.toList = text at h
  cases h with
  | @empty blanks blanks' blanks'' blank blank' blank'' =>
    have whole : source.toList = (blanks ++ '[' :: (blanks' ++ [']'])) ++ blanks'' :=
      whole.trans (by simp only [List.append_assoc, List.cons_append, List.nil_append])
    have reads : Reads read _ blanks'' default := opens_array.reads blank (reads_emptyArray blank')
    exact ⟨default, ofText?_of_reads whole reads blank'',
      fun _ _ _ mem ↦ absurd mem List.not_mem_nil, fun _ _ ↦ rfl⟩
  | @full blanks text blanks' values blank elements blank' =>
    have whole : source.toList = (blanks ++ '[' :: text) ++ blanks' :=
      whole.trans (by simp only [List.append_assoc, List.cons_append])
    obtain ⟨config, reads, overrides⟩ := elements.exists_reads fits typed default
    have reads : Reads readArray text blanks' config := by
      intro c ahead
      rw [readArray_of_elements elements ahead]
      exact reads c ahead
    exact ⟨config, ofText?_of_reads whole (opens_array.reads blank reads) blank', overrides⟩

/-- An array with a fault among its elements is malformed. -/
theorem IsArray.exists_error {source : String} (h : IsArray source.toList values)
    (faulty : Faulty Field.all values) : ∃ fault, ofText? source = .error fault := by
  generalize whole : source.toList = text at h
  cases h with
  | empty => exact absurd faulty not_faulty_nil
  | @full blanks text blanks' values blank elements blank' =>
    have whole : source.toList = (blanks ++ '[' :: text) ++ blanks' :=
      whole.trans (by simp only [List.append_assoc, List.cons_append])
    apply exists_error_of_refuses whole
    apply opens_array.refuses blank
    intro c ahead
    rw [readArray_of_elements elements ahead]
    exact elements.refuses faulty default c ahead

theorem nodup_all : Field.all.Nodup := by decide

/-- An array and the object with the same values come to the same, as far as there are fields. -/
theorem IsArray.ofText?_eq_ok_iff {source source' : String} (h : IsArray source.toList values)
    (object : IsObject source'.toList (given Field.all values))
    (fits : values.length ≤ Field.all.length) :
    ofText? source = .ok config ↔ ofText? source' = .ok config := by
  rcases wellTyped_or_mistyped (count_given_le nodup_all fits) with typed | ⟨field, mistyped⟩
  · obtain ⟨config', met, overrides⟩ := h.exists_ofText? fits typed
    obtain ⟨config'', met', overrides'⟩ := object.exists_ofText? typed
    rw [met, met', overrides.unique typed overrides']
  · obtain ⟨fault, met⟩ := h.exists_error (.inr ⟨field, mistyped⟩)
    obtain ⟨fault', met'⟩ := object.exists_fault (.inr mistyped)
    rw [met, met']
    exact ⟨nofun, nofun⟩

/-- A file with an array of at most ten values is loaded as a file with an object that gives these
values to the first fields, and the fields behind them keep their defaults.  Where one of the two
is malformed, so is the other.  An array of more values is malformed, whatever they are. -/
theorem array_loads_as_object {tree : File.Tree} {path : File.Path} {source : String}
    (array : IsArray source.toList values)
    (kept : tree.read path = .ok (Text.Utf8.encode source)) :
    (values.length ≤ 10 →
      (∀ (tree' : File.Tree) (path' : File.Path) (source' : String),
        IsObject source'.toList ((Field.all.map Field.key).zip values) →
        tree'.read path' = .ok (Text.Utf8.encode source') →
        ∀ config, load tree path = .ok config ↔ load tree' path' = .ok config) ∧
      ∀ config, load tree path = .ok config →
        ∀ field ∈ Field.all.drop values.length, field.get config = field.get default) ∧
    (10 < values.length → ∃ fault, load tree path = .error (.configMalformed path fault)) := by
  refine ⟨fun fits ↦ ⟨?_, ?_⟩, fun surplus ↦ ?_⟩
  · intro tree' path' source' object kept' config
    rw [load_eq_ok_iff kept, load_eq_ok_iff kept']
    exact array.ofText?_eq_ok_iff object fits
  · intro config loaded field behind
    rw [load_eq_ok_iff kept] at loaded
    rcases wellTyped_or_mistyped (count_given_le nodup_all fits) with typed | ⟨field, mistyped⟩
    · obtain ⟨config', met, overrides⟩ := array.exists_ofText? fits typed
      cases loaded.symm.trans met
      exact overrides.kept field (key_notMem_given nodup_all fits behind)
    · obtain ⟨fault, met⟩ := array.exists_error (.inr ⟨field, mistyped⟩)
      cases loaded.symm.trans met
  · obtain ⟨fault, met⟩ := array.exists_error (.inl surplus)
    exact ⟨fault, load_eq_error_of_ofText? kept met⟩

theorem IsArray.of_eq {text' : List Char} (h : IsArray text values) (same : text' = text) :
    IsArray text' values :=
  same ▸ h

/-- An array for the first two fields, with blanks and escapes in it. -/
def twoElements : String := "[ \"\\ud83d\\ude00\" ,\n\"\"]"

/-- The object that says the same. -/
def twoFields : String := "\x7b\"repository_base_url\":\"\\ud83d\\ude00\",\"runtime_file\":\"\"\x7d"

def twoValues : List (List Char) := ['"' :: smile, ['"', '"']]

theorem isArray_twoElements : IsArray twoElements.toList twoValues := by
  have elements := Elements.more blank_space (.string denotes_smile.quoted) blank_space
    (.last (by decide : Blank ['\n']) (.string .close) blank_nil)
  exact (IsArray.full blank_nil elements blank_nil).of_eq (by decide)

theorem isObject_twoFields :
    IsObject twoFields.toList ((Field.all.map Field.key).zip twoValues) := by
  have url : ArePlain "repository_base_url".toList := by decide
  have file : ArePlain "runtime_file".toList := by decide
  have first := Entry.of_key (by decide : _ = Field.repositoryBaseUrl.key.toList) blank_nil
    (.append url .close) blank_nil blank_nil (.string denotes_smile.quoted)
  have second := Entry.of_key (by decide : _ = Field.runtimeFile.key.toList) blank_nil
    (.append file .close) blank_nil blank_nil (.string .close)
  exact (IsObject.full blank_nil (.more first blank_nil (.last second blank_nil))
    blank_nil).of_eq (by decide)

theorem wellTyped_twoValues : WellTyped ((Field.all.map Field.key).zip twoValues) where
  once := count_given_le nodup_all (by decide)
  typed field value mem := by
    simp only [Field.all, twoValues, List.map_cons, List.zip_cons_cons, List.zip_nil_right,
      List.mem_cons, List.not_mem_nil, or_false, Prod.mk.injEq] at mem
    rcases mem with ⟨same, rfl⟩ | ⟨same, rfl⟩
    · obtain rfl := Field.key_injective same
      exact ⟨_, means_smile⟩
    · obtain rfl := Field.key_injective same
      exact ⟨_, IsText.intro .close⟩

/-- An array of eleven values. -/
def elevenElements : String := "[null,null,null,null,null,null,null,null,null,null,null]"

theorem isArray_elevenElements :
    IsArray elevenElements.toList (List.replicate 11 ['n', 'u', 'l', 'l']) := by
  have null : Valid .value ['n', 'u', 'l', 'l'] := .keyword List.mem_cons_self
  have last := Elements.last blank_nil null blank_nil
  have more {text values} (others : Elements text values) :=
    Elements.more blank_nil null blank_nil others
  have elements := more (more (more (more (more (more (more (more (more (more last)))))))))
  exact (IsArray.full blank_nil elements blank_nil).of_eq (by decide)

theorem two_elements_load_as_object :
    let tree (source : String) := (File.Tree.empty ["w"]).set ["w", "b.js"]
      (.file (Text.Utf8.encode source))
    (∃ config, load (tree twoElements) ⟨"b.js"⟩ = .ok config ∧
      load (tree twoFields) ⟨"b.js"⟩ = .ok config ∧
      ∀ field ∈ Field.all.drop 2, field.get config = field.get default) ∧
    ∃ fault, load (tree elevenElements) ⟨"b.js"⟩ = .error (.configMalformed ⟨"b.js"⟩ fault) := by
  intro tree
  have kept (source : String) : (tree source).read ⟨"b.js"⟩ = .ok (Text.Utf8.encode source) :=
    File.Tree.read_of_slot (bare_bundle.slot _) (bare_bundle.fits _) rfl
  constructor
  · obtain ⟨same, defaults⟩ := (array_loads_as_object isArray_twoElements (kept _)).1 (by decide)
    obtain ⟨config, met, -⟩ := isObject_twoFields.exists_ofText? wellTyped_twoValues
    have loaded := load_of_ofText? (kept _) met
    have loaded' := (same _ _ _ isObject_twoFields (kept _) config).2 loaded
    exact ⟨config, loaded', loaded, defaults config loaded'⟩
  · exact (array_loads_as_object isArray_elevenElements (kept _)).2 (by decide)

end SoloScript.Config
