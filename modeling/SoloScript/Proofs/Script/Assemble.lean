import SoloScript.Proofs.Outcome
import SoloScript.Script.Assemble

/-!
# When a script is assembled

An assembly succeeds exactly if the four assets are there, each of the kind that its statement
needs, and the two bodies are replaced.  Its six statements are then determined by these parts.
Assets are looked up in a fixed order before any body is replaced, and the first that is refused
decides the failure.
-/

namespace SoloScript.Script

open Outcome

/-! ## Assets by kind -/

theorem textAsset_eq_ok_iff {assets : Assets} {name text : String} :
    textAsset assets name = .ok text ↔ assets.get? name = some (.text text) := by
  rw [textAsset]
  cases assets.get? name with
  | none => simp
  | some asset => cases asset <;> simp [Asset.text?]

theorem binaryAsset_eq_ok_iff {assets : Assets} {name : String} {bytes : List UInt8} :
    binaryAsset assets name = .ok bytes ↔ assets.get? name = some (.binary bytes) := by
  rw [binaryAsset]
  cases assets.get? name with
  | none => simp
  | some asset => cases asset <;> simp [Asset.bytes?]

/-! ## Statements -/

theorem bindMemory_eq (memory : List UInt8) :
    bindMemory memory = "let mem=" ++ BinaryLiteral.encode memory := rfl

theorem passProfiles_eq (profiles : String) :
    passProfiles profiles = "onProfilesFetch(" ++ TemplateLiteral.encode profiles ++ ")" := rfl

theorem passMemory_eq : passMemory = "onload(mem);" := rfl

theorem profilesAnchor_eq : profilesAnchor = "setProfilesPrefix" := rfl

theorem memoryAnchor_eq : memoryAnchor = "Module[\"readAsync\"]" := rfl

theorem braces_eq_ok_iff {bound : Nat} {source anchor replacement text : String} :
    Replacer.braces bound source anchor replacement = .ok text ↔
      ∃ body, Body.find source anchor bound = .ok body ∧ body.splice replacement = text := by
  rw [Replacer.braces, mapError_eq_ok_iff, Body.replace, map_eq_ok_iff]

theorem braces_of_find {bound : Nat} {source anchor : String} {found : Body}
    (located : Body.find source anchor bound = .ok found) (replacement : String) :
    Replacer.braces bound source anchor replacement = .ok (found.splice replacement) :=
  braces_eq_ok_iff.2 ⟨found, located, rfl⟩

theorem assemble_eq_ok_iff {replacer : Replacer} {profilesPrefix memoryPrefix : String}
    {assets : Assets} {fragments : Fragments} :
    assemble replacer profilesPrefix memoryPrefix assets = .ok fragments ↔
      ∃ memory profiles loader runtime loader' runtime',
        assets.get? Asset.memory = some (.binary memory) ∧
        assets.get? Asset.profiles = some (.text profiles) ∧
        assets.get? Asset.loader = some (.text loader) ∧
        assets.get? Asset.runtime = some (.text runtime) ∧
        replacer loader profilesAnchor (passProfiles profiles) = .ok loader' ∧
        replacer runtime memoryAnchor passMemory = .ok runtime' ∧
        fragments = ⟨[bindMemory memory, loader', initialise profilesPrefix memoryPrefix, runtime',
          attachModule, exportLoader]⟩ := by
  simp only [assemble, bind_eq_ok_iff, textAsset_eq_ok_iff, binaryAsset_eq_ok_iff]
  constructor
  · rintro ⟨memory, hm, profiles, hp, loader, hl, runtime, hr, loader', hl', runtime', hr', h⟩
    exact ⟨memory, profiles, loader, runtime, loader', runtime', hm, hp, hl, hr, hl', hr',
      (Except.ok.inj h).symm⟩
  · rintro ⟨memory, profiles, loader, runtime, loader', runtime', hm, hp, hl, hr, hl', hr', rfl⟩
    exact ⟨memory, hm, profiles, hp, loader, hl, runtime, hr, loader', hl', runtime', hr', rfl⟩

/-! ## Refused assets -/

/-- The assets that a script needs, in the order in which they are looked up. -/
def required : List (String × Asset.Kind) :=
  [(Asset.memory, .binary), (Asset.profiles, .text), (Asset.loader, .text), (Asset.runtime, .text)]

/-- Why there is no asset of a name and a kind. -/
def refusal? (assets : Assets) (name : String) (kind : Asset.Kind) : Option Failure :=
  match assets.get? name with
  | none => some (.missingAsset name)
  | some asset => if asset.kind = kind then none else some (.wrongKind name kind)

/-- The first refusal among the assets that a script needs. -/
def firstRefusal? (assets : Assets) : Option Failure :=
  required.findSome? fun need ↦ refusal? assets need.1 need.2

theorem binaryAsset_cases (assets : Assets) (name : String) :
    (∃ failure, refusal? assets name .binary = some failure ∧
      binaryAsset assets name = .error failure) ∨
    refusal? assets name .binary = none ∧ ∃ bytes, assets.get? name = some (.binary bytes) ∧
      binaryAsset assets name = .ok bytes := by
  cases found : assets.get? name with
  | none => exact .inl ⟨.missingAsset name, by simp [refusal?, found], by simp [binaryAsset, found]⟩
  | some asset =>
    cases asset with
    | text content =>
      exact .inl ⟨.wrongKind name .binary, by simp [refusal?, found, Asset.kind],
        by simp [binaryAsset, found, Asset.bytes?]⟩
    | binary bytes =>
      exact .inr ⟨by simp [refusal?, found, Asset.kind], bytes, rfl, binaryAsset_eq_ok_iff.2 found⟩

theorem textAsset_cases (assets : Assets) (name : String) :
    (∃ failure, refusal? assets name .text = some failure ∧
      textAsset assets name = .error failure) ∨
    refusal? assets name .text = none ∧ ∃ text, assets.get? name = some (.text text) ∧
      textAsset assets name = .ok text := by
  cases found : assets.get? name with
  | none => exact .inl ⟨.missingAsset name, by simp [refusal?, found], by simp [textAsset, found]⟩
  | some asset =>
    cases asset with
    | binary bytes =>
      exact .inl ⟨.wrongKind name .text, by simp [refusal?, found, Asset.kind],
        by simp [textAsset, found, Asset.text?]⟩
    | text content =>
      exact .inr ⟨by simp [refusal?, found, Asset.kind], content, rfl, textAsset_eq_ok_iff.2 found⟩

/-- An assembly ends with the first refusal, and without one it goes on to the replacements. -/
theorem assemble_cases (replacer : Replacer) (profilesPrefix memoryPrefix : String)
    (assets : Assets) :
    (∃ failure, firstRefusal? assets = some failure ∧
      assemble replacer profilesPrefix memoryPrefix assets = .error failure) ∨
    firstRefusal? assets = none ∧ ∃ memory profiles loader runtime,
      assets.get? Asset.memory = some (.binary memory) ∧
      assets.get? Asset.profiles = some (.text profiles) ∧
      assets.get? Asset.loader = some (.text loader) ∧
      assets.get? Asset.runtime = some (.text runtime) ∧
      assemble replacer profilesPrefix memoryPrefix assets = (do
        let loader ← replacer loader profilesAnchor (passProfiles profiles)
        let runtime ← replacer runtime memoryAnchor passMemory
        return ⟨[bindMemory memory, loader, initialise profilesPrefix memoryPrefix, runtime,
          attachModule, exportLoader]⟩) := by
  simp only [firstRefusal?, required, assemble]
  rcases binaryAsset_cases assets Asset.memory with
    ⟨failure, refused, met⟩ | ⟨memoryFits, memory, image, hm⟩
  · exact .inl ⟨failure, by simp [refused], by simp [met]⟩
  rcases textAsset_cases assets Asset.profiles with
    ⟨failure, refused, met⟩ | ⟨profilesFit, profiles, listed, hp⟩
  · exact .inl ⟨failure, by simp [memoryFits, refused], by simp [hm, met]⟩
  rcases textAsset_cases assets Asset.loader with
    ⟨failure, refused, met⟩ | ⟨loaderFits, loader, base, hl⟩
  · exact .inl ⟨failure, by simp [memoryFits, profilesFit, refused], by simp [hm, hp, met]⟩
  rcases textAsset_cases assets Asset.runtime with
    ⟨failure, refused, met⟩ | ⟨runtimeFits, runtime, engine, hr⟩
  · exact .inl ⟨failure, by simp [memoryFits, profilesFit, loaderFits, refused],
      by simp [hm, hp, hl, met]⟩
  exact .inr ⟨by simp [memoryFits, profilesFit, loaderFits, runtimeFits], memory, profiles, loader,
    runtime, image, listed, base, engine, by simp [hm, hp, hl, hr]⟩

/-- Replacing a body fails only if there is none. -/
theorem exists_missing_of_braces {bound : Nat} {source anchor replacement : String}
    {failure : Failure} (h : Replacer.braces bound source anchor replacement = .error failure) :
    ∃ missing, failure = .body anchor missing := by
  rw [Replacer.braces] at h
  cases replaced : Body.replace source anchor replacement bound with
  | error missing =>
    rw [replaced] at h
    exact ⟨missing, (Except.error.inj h).symm⟩
  | ok text =>
    rw [replaced] at h
    cases h

end SoloScript.Script
