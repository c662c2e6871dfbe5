import SoloScript.Config.Load
import SoloScript.Proofs.Json.Value
import SoloScript.Proofs.Text.Decoding

/-!
# Objects of overrides

The members of an object are read one after another; each changes the configuration that the ones
before it have made.  What a member is told from is its key, however that is written, and what it
does is told from its value.
-/

namespace SoloScript.Config

open Json Outcome

variable {seen : List Field} {config config' : Config} {field : Option Field} {c : Cursor}
  {d : Char} {blanks blanks' literal text rest name : List Char}

/-! ## Members -/

theorem reads_key (blank : Blank blanks) (quoted : Reads StringLiteral.read literal rest name) :
    Reads readKey (blanks ++ '"' :: literal) rest (String.ofList name) := by
  intro c ahead
  obtain ⟨token, found, same, next⟩ := Cursor.exists_token?
    (ahead.trans (List.append_assoc ..)) blank (by decide : Cursor.isBlank '"' = false)
  obtain ⟨read, taken, rfl, left⟩ := quoted token.next next
  rw [readKey, found]
  simp only [if_pos same]
  exact ⟨_, bind_eq_ok_iff.2 ⟨read, taken, rfl⟩, rfl, left⟩

/-- Reads the value of a member; a key that names no field has its value read past. -/
def readValue (field : Option Field) (config : Config) (c : Cursor) :
    Except Fault (Read Config c) :=
  match field with
  | some field => field.read config c
  | none => (Value.skip c).map (Read.map fun _ ↦ config)

/-- A member of an object, which has `rest` behind it: a key, a colon and a value that makes
`config` into another configuration. -/
inductive Member (config : Config) (rest : List Char) :
    (text : List Char) → (field : Option Field) → (config' : Config) → Prop
  | intro {blanks blanks' literal value name : List Char} {config' : Config}
      (blank : Blank blanks) (key : ∀ rest, Reads StringLiteral.read literal rest name)
      (blank' : Blank blanks')
      (takes : Reads (readValue (Field.ofKey? (String.ofList name)) config) value rest config') :
      Member config rest ((blanks ++ '"' :: literal) ++ ((blanks' ++ [':']) ++ value))
        (Field.ofKey? (String.ofList name)) config'

/-- A member whose key is written as any text is. -/
theorem member_of_key {key : String} (blank : Blank blanks) (named : Field.ofKey? key = field)
    (takes : Reads (readValue field config) text rest config') :
    Member config rest (blanks ++ (StringLiteral.encode key).toList ++ ':' :: text) field
      config' := by
  subst named
  rw [← String.ofList_toList (s := key)] at takes
  have quoted (rest : List Char) := StringLiteral.reads_write key.toList rest
  have member := Member.intro blank quoted blank_nil takes
  rw [String.ofList_toList] at member
  rw [StringLiteral.encode, String.toList_ofList]
  exact member

theorem Field.ofKey?_key (field : Field) : ofKey? field.key = some field := by
  cases field <;> decide

/-- A field that takes a text takes any, written as a literal. -/
theorem member_of_text {field : Field} {expected : String} {set : String → Config}
    (takes : ∀ c, field.read config c = (Value.text expected c).map (Read.map set))
    (blank : Blank blanks) (blank' : Blank blanks') (value : String) :
    Member config rest (blanks ++ (StringLiteral.encode field.key).toList ++
        ':' :: (blanks' ++ (StringLiteral.encode value).toList)) (some field) (set value) := by
  refine member_of_key blank field.ofKey?_key fun c ahead ↦ ?_
  rw [readValue, takes]
  exact (Value.reads_text expected blank' value).map set c ahead

/-- One member or more, and the brace behind them.  No field comes twice, nor does one of `seen`. -/
inductive Members (rest : List Char) :
    (seen : List Field) → (config : Config) → (text : List Char) → (config' : Config) → Prop
  | last {seen : List Field} {config config' : Config} {field : Option Field}
      {text blanks : List Char}
      (member : Member config (blanks ++ '\x7d' :: rest) text field config')
      (fresh : field.any seen.contains = false) (blank : Blank blanks) :
      Members rest seen config (text ++ (blanks ++ ['\x7d'])) config'
  | more {seen : List Field} {config config' config'' : Config} {field : Option Field}
      {text text' blanks : List Char}
      (member : Member config (blanks ++ ',' :: (text' ++ rest)) text field config')
      (fresh : field.any seen.contains = false) (blank : Blank blanks)
      (others : Members rest (field.toList ++ seen) config' text' config'') :
      Members rest seen config (text ++ (blanks ++ ',' :: text')) config''

/-- Reads what is behind the value of a member: the brace, or a comma and the other members. -/
def readBehind {start : Cursor} (seen : List Field) (value : Read Config start)
    (shorter : start.length ≤ c.length) : Except Fault (Read Config c) :=
  match value.next.token? with
  | none => .error (value.next.faultAtToken .endInObject)
  | some token =>
    have within : token.next.length < c.length :=
      Nat.lt_of_lt_of_le (Nat.lt_trans token.progress value.progress) shorter
    if token.value = '\x7d' then .ok ⟨value.value, token.next, within⟩
    else if token.value = ',' then
      (readMembers seen value.value token.next).map (Read.since · (Nat.le_of_lt within))
    else .error (value.next.faultAtToken .noObjectComma)

/-- Where a key and a colon come first, reading members goes on with the value. -/
theorem exists_readMembers_eq (config : Config) (blank : Blank blanks)
    (quoted : ∀ rest, Reads StringLiteral.read literal rest name) (blank' : Blank blanks')
    (fresh : (Field.ofKey? (String.ofList name)).any seen.contains = false)
    (ahead : c.rest = (blanks ++ '"' :: literal) ++ ((blanks' ++ [':']) ++ rest)) :
    ∃ (start : Cursor) (shorter : start.length ≤ c.length), start.rest = rest ∧
      readMembers seen config c = readValue (Field.ofKey? (String.ofList name)) config start >>=
        (readBehind ((Field.ofKey? (String.ofList name)).toList ++ seen) · shorter) := by
  obtain ⟨key, keyRead, named, next⟩ := reads_key blank (quoted _) c ahead
  obtain ⟨colon, colonRead, -, next⟩ := Value.reads_colon blank' key.next next
  refine ⟨colon.next, Nat.le_trans colon.le key.le, next, ?_⟩
  rw [readMembers, keyRead, ok_bind, named]
  -- From here on nothing but the field depends on the key; without one the value is skipped.
  generalize Field.ofKey? _ = field at *
  simp only [fresh, Bool.false_eq_true, if_false, colonRead, ok_bind]
  cases field with
  | none | some =>
    refine bind_congr fun value ↦ ?_
    rw [readBehind]
    cases value.next.token? <;> rfl

/-- What reading members does with the first one: the character behind it tells how it goes on. -/
theorem Member.exists_next (member : Member config (blanks ++ d :: rest) text field config')
    (fresh : field.any seen.contains = false) (blank : Blank blanks)
    (solid : Cursor.isBlank d = false) (ahead : c.rest = text ++ (blanks ++ d :: rest)) :
    ∃ (next : Cursor) (shorter : next.length < c.length) (fault : Fault), next.rest = rest ∧
      readMembers seen config c =
        if d = '\x7d' then .ok ⟨config', next, shorter⟩
        else if d = ',' then
          (readMembers (field.toList ++ seen) config' next).map
            (Read.since · (Nat.le_of_lt shorter))
        else .error fault := by
  obtain ⟨blank', quoted, blank'', takes⟩ := member
  obtain ⟨start, within, next, met⟩ := exists_readMembers_eq config blank' quoted blank'' fresh
    (ahead.trans ((List.append_assoc ..).trans (congrArg (_ ++ ·) (List.append_assoc ..))))
  obtain ⟨value, valueRead, rfl, next⟩ := takes start next
  obtain ⟨token, found, rfl, left⟩ := Cursor.exists_token? next blank solid
  refine ⟨token.next, Nat.lt_of_lt_of_le (Nat.lt_trans token.progress value.progress) within,
    value.next.faultAtToken .noObjectComma, left, ?_⟩
  rw [met, valueRead, ok_bind, readBehind, found]

/-- Members are read up to the brace behind them. -/
theorem Members.reads (h : Members rest seen config text config') :
    Reads (readMembers seen config) text rest config' := by
  induction h with
  | last member fresh blank =>
    intro c ahead
    obtain ⟨next, shorter, fault, left, met⟩ := member.exists_next fresh blank (by decide)
      (ahead.trans (by simp))
    rw [met, if_pos rfl]
    exact ⟨_, rfl, rfl, left⟩
  | more member fresh blank others ih =>
    intro c ahead
    obtain ⟨next, shorter, fault, left, met⟩ := member.exists_next fresh blank (by decide)
      (ahead.trans (by simp))
    obtain ⟨read, found, same, left⟩ := ih next left
    rw [met, if_neg (by decide), if_pos rfl]
    exact ⟨_, map_eq_ok_iff.2 ⟨read, found, rfl⟩, same, left⟩

/-! ## Objects -/

theorem Members.exists_quote (h : Members rest seen config text config') :
    ∃ blanks tail, text = blanks ++ '"' :: tail ∧ Blank blanks := by
  cases h with
  | last member _ _ =>
    obtain ⟨blank, -, -, -⟩ := member
    exact ⟨_, _, (List.append_assoc ..).trans (List.append_assoc ..), blank⟩
  | more member _ _ _ =>
    obtain ⟨blank, -, -, -⟩ := member
    exact ⟨_, _, (List.append_assoc ..).trans (List.append_assoc ..), blank⟩

/-- An object that starts with a quote is read by its members. -/
theorem readObject_of_quote {others : List Char} (ahead : c.rest = blanks ++ '"' :: others)
    (blank : Blank blanks) : readObject c = readMembers [] default c := by
  obtain ⟨quote, found, same, -⟩ := Cursor.exists_token? ahead blank
    (by decide : Cursor.isBlank '"' = false)
  have more : quote.value ≠ '\x7d' := by
    rw [same]
    decide
  rw [readObject, found]
  exact if_neg more

theorem reads_object (members : Members rest [] default text config) :
    Reads readObject text rest config := by
  intro c ahead
  obtain ⟨blanks, tail, rfl, blank⟩ := members.exists_quote
  rw [readObject_of_quote (ahead.trans (List.append_assoc ..)) blank]
  exact members.reads c ahead

/-! ## Texts -/

/-- A text with `d` in front goes on as `reader` reads it. -/
def Opens (d : Char) (reader : (c : Cursor) → Except Fault (Read Config c)) : Prop :=
  ∀ (c : Cursor) (blanks text : List Char), c.rest = blanks ++ d :: text → Blank blanks →
    ∃ opening : Read Char c, opening.next.rest = text ∧
      read c = (reader opening.next).map (Read.since · opening.le)

theorem opens_object : Opens '\x7b' readObject := by
  intro c blanks text ahead blank
  obtain ⟨opening, found, same, next⟩ :=
    Cursor.exists_token? ahead blank (by decide : Cursor.isBlank '{' = false)
  have bracket : opening.value ≠ '[' := by
    rw [same]
    decide
  refine ⟨opening, next, ?_⟩
  rw [read, found]
  simp only [if_neg bracket, if_pos same]

theorem opens_array : Opens '[' readArray := by
  intro c blanks text ahead blank
  obtain ⟨opening, found, same, next⟩ :=
    Cursor.exists_token? ahead blank (by decide : Cursor.isBlank '[' = false)
  refine ⟨opening, next, ?_⟩
  rw [read, found]
  simp only [if_pos same]

namespace Opens

variable {reader : (c : Cursor) → Except Fault (Read Config c)}

theorem reads (h : Opens d reader) (blank : Blank blanks) (reads : Reads reader text rest config) :
    Reads read (blanks ++ d :: text) rest config := by
  intro c ahead
  obtain ⟨opening, next, met⟩ := h c blanks (text ++ rest) (ahead.trans (List.append_assoc ..)) blank
  obtain ⟨inner, innerRead, same, left⟩ := reads opening.next next
  rw [met]
  exact ⟨_, map_eq_ok_iff.2 ⟨inner, innerRead, rfl⟩, same, left⟩

theorem refuses (h : Opens d reader) (blank : Blank blanks) (refuses : Refuses reader text rest) :
    Refuses read (blanks ++ d :: text) rest := by
  intro c ahead
  obtain ⟨opening, next, met⟩ := h c blanks (text ++ rest) (ahead.trans (List.append_assoc ..)) blank
  obtain ⟨fault, refused⟩ := refuses opening.next next
  rw [met]
  exact ⟨fault, map_eq_error_iff.2 refused⟩

end Opens

/-- What can be read is a configuration, if nothing but blanks is behind it. -/
theorem ofText?_of_reads {source : String} (whole : source.toList = text ++ rest)
    (reads : Reads read text rest config) (blank : Blank rest) : ofText? source = .ok config := by
  obtain ⟨found, taken, rfl, left⟩ := reads (.ofText source) whole
  have ended : found.next.token? = none := Cursor.token?_eq_none (left ▸ blank)
  rw [ofText?, taken, ok_bind]
  simp only [ended]
  rfl

theorem exists_error_of_refuses {source : String} (whole : source.toList = text ++ rest)
    (refuses : Refuses read text rest) : ∃ fault, ofText? source = .error fault := by
  obtain ⟨fault, refused⟩ := refuses (.ofText source) whole
  exact ⟨fault, bind_eq_error_iff.2 (.inl refused)⟩

theorem ofText?_of_members {source : String}
    (whole : source.toList = (blanks ++ '\x7b' :: text) ++ rest) (blank : Blank blanks)
    (members : Members rest [] default text config) (blank' : Blank rest) :
    ofText? source = .ok config :=
  ofText?_of_reads whole (opens_object.reads blank (reads_object members)) blank'

/-! ## Files -/

theorem readText_of_read {tree : File.Tree} {path : File.Path} {source : String}
    (kept : tree.read path = .ok (Text.Utf8.encode source)) : readText tree path = .ok source := by
  rw [readText, kept, ok_bind, Text.Utf8.decode?_encode]
  rfl

theorem load_eq_ok_iff {tree : File.Tree} {path : File.Path} {source : String}
    (kept : tree.read path = .ok (Text.Utf8.encode source)) :
    load tree path = .ok config ↔ ofText? source = .ok config := by
  rw [load, readText_of_read kept]
  cases met : ofText? source <;> simp [met]

theorem load_of_ofText? {tree : File.Tree} {path : File.Path} {source : String}
    (kept : tree.read path = .ok (Text.Utf8.encode source)) (met : ofText? source = .ok config) :
    load tree path = .ok config :=
  (load_eq_ok_iff kept).2 met

theorem load_eq_error_of_ofText? {tree : File.Tree} {path : File.Path} {source : String}
    {fault : Fault} (kept : tree.read path = .ok (Text.Utf8.encode source))
    (met : ofText? source = .error fault) :
    load tree path = .error (.configMalformed path fault) := by
  rw [load, readText_of_read kept]
  simp only [met]

end SoloScript.Config
