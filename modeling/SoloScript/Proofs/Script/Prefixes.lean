import SoloScript.Proofs.Build.Overwrite
import SoloScript.Proofs.Config.Reader
import SoloScript.Proofs.Script.Assemble
import SoloScript.Proofs.Text.Substring

/-!
# The prefixes of a script

The statement that starts the loader hands both prefixes over as literals, from which they can be
read back, whatever characters they have.  The same literals do in a configuration file.
-/

namespace SoloScript

open Json Text Outcome

variable {profilesPrefix memoryPrefix : String}

namespace Script

/-! ## Reading the statement back -/

/-- The prefixes that a statement hands over. -/
def prefixes? (statement : String) : Option (String × String) := do
  let rest ← dropStart? "Quiet.init(\x7bprofilesPrefix: ".toList statement.toList
  let first ← (Value.text "a string" ⟨rest, .origin⟩).toOption
  let rest ← dropStart? ", memoryInitializerPrefix: ".toList first.next.rest
  let second ← (Value.text "a string" ⟨rest, .origin⟩).toOption
  if second.next.rest = "\x7d)".toList then some (first.value, second.value) else none

theorem reads_encode (expected value : String) (rest : List Char) :
    Reads (Value.text expected) (StringLiteral.encode value).toList rest value := by
  rw [← List.nil_append (StringLiteral.encode value).toList]
  exact Value.reads_text expected blank_nil value

theorem toList_around {opening between closing : String} {before middle behind : List Char}
    (h : opening.toList = before) (h' : between.toList = middle) (h'' : closing.toList = behind)
    (first second : String) :
    (opening ++ first ++ between ++ second ++ closing).toList =
      before ++ (first.toList ++ (middle ++ (second.toList ++ behind))) := by
  simp only [String.toList_append, List.append_assoc, h, h', h'']

theorem prefixes?_initialise (profilesPrefix memoryPrefix : String) :
    prefixes? (initialise profilesPrefix memoryPrefix) = some (profilesPrefix, memoryPrefix) := by
  obtain ⟨second, secondRead, same', ended⟩ := reads_encode "a string" memoryPrefix
    "\x7d)".toList ⟨_, .origin⟩ rfl
  obtain ⟨first, firstRead, same, next⟩ := reads_encode "a string" profilesPrefix
    (", memoryInitializerPrefix: ".toList ++ ((StringLiteral.encode memoryPrefix).toList ++
      "\x7d)".toList)) ⟨_, .origin⟩ rfl
  simp only [prefixes?, Option.bind_eq_bind, Option.bind_eq_some_iff, dropStart?_eq_some_iff]
  refine ⟨_, toList_around rfl rfl rfl .., first, ?_, _, next, second, ?_, ?_⟩
  · rw [firstRead]
    rfl
  · rw [secondRead]
    rfl
  · rw [if_pos ended, same, same']

/-- The third statement is made of the prefixes alone. -/
theorem third_of_assemble {replacer : Replacer} {assets : Assets} {fragments : Fragments}
    (assembled : assemble replacer profilesPrefix memoryPrefix assets = .ok fragments) :
    fragments.toList[2]? = some (initialise profilesPrefix memoryPrefix) := by
  obtain ⟨_, _, _, _, _, _, -, -, -, -, -, -, rfl⟩ := assemble_eq_ok_iff.1 assembled
  rfl

/-- Only the third statement depends on the prefixes, and no failure does. -/
theorem assemble_eq_map (replacer : Replacer)
    (profilesPrefix memoryPrefix profilesPrefix' memoryPrefix' : String) (assets : Assets) :
    assemble replacer profilesPrefix' memoryPrefix' assets =
      (assemble replacer profilesPrefix memoryPrefix assets).map fun fragments ↦
        ⟨fragments.toList.set 2 (initialise profilesPrefix' memoryPrefix')⟩ := by
  simp only [assemble, map_bind]
  rfl

end Script

/-! ## Configuration files -/

namespace Config

open Script

/-- A configuration file that gives the two prefixes and nothing else. -/
def prefixesFile (profilesPrefix memoryPrefix : String) : String :=
  "\x7b\"profiles_prefix\": " ++ StringLiteral.encode profilesPrefix ++
    ", \"memory_initializer_prefix\": " ++ StringLiteral.encode memoryPrefix ++ "\x7d"

theorem ofText?_prefixesFile (profilesPrefix memoryPrefix : String) :
    ofText? (prefixesFile profilesPrefix memoryPrefix) =
      .ok { default with profilesPrefix, memoryPrefix } := by
  have first (c : Cursor) : Field.profilesPrefix.read default c = (Value.text "a string" c).map
      (Read.map fun value ↦ { default with profilesPrefix := value }) := rfl
  have second (c : Cursor) : Field.memoryPrefix.read { default with profilesPrefix } c =
      (Value.text "a string" c).map
        (Read.map fun value ↦ { default with profilesPrefix, memoryPrefix := value }) := rfl
  have members : Members [] [] default _ { default with profilesPrefix, memoryPrefix } :=
    .more (member_of_text first blank_nil blank_space profilesPrefix) rfl blank_nil
      (.last (member_of_text second blank_space blank_space memoryPrefix) rfl blank_nil)
  refine ofText?_of_members ?_ blank_nil members blank_nil
  have opening : "\x7b\"profiles_prefix\": ".toList =
      '\x7b' :: ((StringLiteral.encode Field.profilesPrefix.key).toList ++ [':', ' ']) := by
    decide
  have between : ", \"memory_initializer_prefix\": ".toList =
      [',', ' '] ++ ((StringLiteral.encode Field.memoryPrefix.key).toList ++ [':', ' ']) := by
    decide
  have closing : "\x7d".toList = ['\x7d'] := by decide
  refine (toList_around opening between closing ..).trans ?_
  simp only [List.append_assoc, List.cons_append, List.nil_append, List.append_nil]

end Config

namespace Script

/-- Both prefixes can be read off the third statement, and no other pair of prefixes has that
statement: a literal is read as the text that it was written for, whatever follows.  A configuration
file with the two literals is loaded, and the script of the configuration is that of the default one
but for the third statement. -/
theorem prefixes_kept (profilesPrefix memoryPrefix : String) :
    (∀ expected value rest,
      Reads (Value.text expected) (StringLiteral.encode value).toList rest value) ∧
    (∀ replacer assets fragments,
      assemble replacer profilesPrefix memoryPrefix assets = .ok fragments →
      fragments.toList[2]? = some ("Quiet.init(\x7bprofilesPrefix: " ++
        StringLiteral.encode profilesPrefix ++ ", memoryInitializerPrefix: " ++
        StringLiteral.encode memoryPrefix ++ "\x7d)") ∧
      fragments.toList[2]?.bind prefixes? = some (profilesPrefix, memoryPrefix) ∧
      ∀ replacer' assets' profilesPrefix' memoryPrefix' fragments',
        assemble replacer' profilesPrefix' memoryPrefix' assets' = .ok fragments' →
        fragments'.toList[2]? = fragments.toList[2]? →
        profilesPrefix' = profilesPrefix ∧ memoryPrefix' = memoryPrefix) ∧
    ∀ tree path,
      tree.read path = .ok (Utf8.encode (Config.prefixesFile profilesPrefix memoryPrefix)) →
      ∃ config, Config.load tree path = .ok config ∧
        config = { Config.default with profilesPrefix, memoryPrefix } ∧
        (∀ assets, ofConfig config assets = (ofConfig .default assets).map fun fragments ↦
          ⟨fragments.toList.set 2 (initialise profilesPrefix memoryPrefix)⟩) ∧
        ∀ assets fragments, ofConfig config assets = .ok fragments →
          fragments.toList[2]? = some (initialise profilesPrefix memoryPrefix) := by
  refine ⟨reads_encode, fun replacer assets fragments assembled ↦ ?_, fun tree path kept ↦ ?_⟩
  · have third := third_of_assemble assembled
    refine ⟨third, by rw [third, Option.bind_some, prefixes?_initialise], ?_⟩
    intro replacer' assets' profilesPrefix' memoryPrefix' fragments' assembled' same
    rw [third_of_assemble assembled', third] at same
    have pairs := congrArg prefixes? (Option.some.inj same)
    rw [prefixes?_initialise, prefixes?_initialise] at pairs
    exact Prod.mk.inj (Option.some.inj pairs)
  · exact ⟨_, Config.load_of_ofText? kept (Config.ofText?_prefixesFile ..), rfl,
      fun assets ↦ assemble_eq_map .., fun assets fragments ↦ third_of_assemble⟩

/-- A prefix with a quote, a backslash, a line feed, a control character and a letter beyond ASCII,
and one with nothing. -/
theorem prefixes_kept_from_file :
    let tree := (File.Tree.empty ["w"]).set ["w", "b.js"]
      (.file (Utf8.encode (Config.prefixesFile "\"\\\n\x01é" "")))
    ∃ config, Config.load tree ⟨"b.js"⟩ = .ok config ∧
      config.profilesPrefix = "\"\\\n\x01é" ∧
      ∀ assets fragments, ofConfig config assets = .ok fragments →
        fragments.toList[2]? = some ("Quiet.init(\x7bprofilesPrefix: \"\\\"\\\\\\n\\u0001é\"" ++
          ", memoryInitializerPrefix: \"\"\x7d)") := by
  intro tree
  have kept : tree.read ⟨"b.js"⟩ = .ok (Utf8.encode (Config.prefixesFile "\"\\\n\x01é" "")) :=
    File.Tree.read_of_slot (bare_bundle.slot tree) (bare_bundle.fits tree.base) rfl
  obtain ⟨-, -, loads⟩ := prefixes_kept "\"\\\n\x01é" ""
  obtain ⟨config, loaded, same, -, third⟩ := loads tree _ kept
  refine ⟨config, loaded, by rw [same], fun assets fragments assembled ↦ ?_⟩
  rw [third assets fragments assembled]
  decide +kernel

end Script

end SoloScript
