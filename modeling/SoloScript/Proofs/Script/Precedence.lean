import SoloScript.Proofs.Script.Assemble

/-!
# Which check of an assembly decides

An assembly makes six checks in a fixed order: four assets must be there, each of its kind, and two
bodies must be replaced.  The first check that fails decides the failure, whatever way of replacing
is used.  Nothing but the four assets is looked at, and of the statements only the two that are
replaced depend on the way of replacing.
-/

namespace SoloScript

/-- The text of that name. -/
def Assets.text? (assets : Assets) (name : String) : Option String :=
  (assets.get? name).bind Asset.text?

namespace Script

open Outcome

/-! ## Checks -/

/-- Why a body of a text is not replaced; where there is no text, there is nothing to fail. -/
def Replacer.failure? (replacer : Replacer) (anchor : String)
    (source replacement : Option String) : Option Failure := do
  match replacer (← source) anchor (← replacement) with
  | .error failure => some failure
  | .ok _ => none

/-- The checks of an assembly in their order: each is the failure that it ends with, if any. -/
def checks (replacer : Replacer) (assets : Assets) : List (Option Failure) :=
  required.map (fun need ↦ refusal? assets need.1 need.2) ++
    [replacer.failure? profilesAnchor (assets.text? Asset.loader)
      ((assets.text? Asset.profiles).map passProfiles),
    replacer.failure? memoryAnchor (assets.text? Asset.runtime) (some passMemory)]

variable {replacer : Replacer} {profilesPrefix memoryPrefix : String} {assets assets' : Assets}
  {failure : Failure}

theorem findSome?_checks (replacer : Replacer) (assets : Assets) :
    (checks replacer assets).findSome? id =
      ((firstRefusal? assets).or
        (replacer.failure? profilesAnchor (assets.text? Asset.loader)
          ((assets.text? Asset.profiles).map passProfiles))).or
        (replacer.failure? memoryAnchor (assets.text? Asset.runtime) (some passMemory)) := by
  rw [checks, List.append_cons, List.findSome?_append, List.findSome?_append, List.findSome?_map,
    List.findSome?_singleton, List.findSome?_singleton]
  rfl

/-- The first check that fails ends an assembly, and one in which none fails has all that it needs:
four assets and two texts with another body. -/
theorem checks_cases (replacer : Replacer) (profilesPrefix memoryPrefix : String)
    (assets : Assets) :
    (∃ failure, (checks replacer assets).findSome? id = some failure ∧
      assemble replacer profilesPrefix memoryPrefix assets = .error failure) ∨
    (checks replacer assets).findSome? id = none ∧
      ∃ memory profiles loader runtime loader' runtime',
        assets.get? Asset.memory = some (.binary memory) ∧
        assets.get? Asset.profiles = some (.text profiles) ∧
        assets.get? Asset.loader = some (.text loader) ∧
        assets.get? Asset.runtime = some (.text runtime) ∧
        replacer loader profilesAnchor (passProfiles profiles) = .ok loader' ∧
        replacer runtime memoryAnchor passMemory = .ok runtime' ∧
        assemble replacer profilesPrefix memoryPrefix assets =
          .ok ⟨[bindMemory memory, loader', initialise profilesPrefix memoryPrefix, runtime',
            attachModule, exportLoader]⟩ := by
  rw [findSome?_checks]
  rcases assemble_cases replacer profilesPrefix memoryPrefix assets with
    ⟨failure, refused, met⟩ | ⟨free, memory, profiles, loader, runtime, hm, hp, hl, hr, met⟩
  · exact .inl ⟨failure, by rw [refused]; rfl, met⟩
  have profilesText : assets.text? Asset.profiles = some profiles := by rw [Assets.text?, hp]; rfl
  have loaderText : assets.text? Asset.loader = some loader := by rw [Assets.text?, hl]; rfl
  have runtimeText : assets.text? Asset.runtime = some runtime := by rw [Assets.text?, hr]; rfl
  rw [met, free, profilesText, loaderText, runtimeText, Option.none_or]
  cases first : replacer loader profilesAnchor (passProfiles profiles) with
  | error failure =>
    have stops : replacer.failure? profilesAnchor (some loader)
        ((some profiles).map passProfiles) = some failure := by
      simp [Replacer.failure?, first]
    exact .inl ⟨failure, by rw [stops]; rfl, rfl⟩
  | ok loader' =>
    have passes : replacer.failure? profilesAnchor (some loader)
        ((some profiles).map passProfiles) = none := by
      simp [Replacer.failure?, first]
    rw [passes, Option.none_or]
    cases second : replacer runtime memoryAnchor passMemory with
    | error failure =>
      exact .inl ⟨failure, by simp [Replacer.failure?, second], by rw [ok_bind, error_bind]⟩
    | ok runtime' =>
      refine .inr ⟨by simp [Replacer.failure?, second], memory, profiles, loader, runtime, loader',
        runtime', hm, hp, hl, hr, first, second, ?_⟩
      rw [ok_bind, ok_bind]
      rfl

/-! ## What does not count -/

/-- Only the assets that a script needs are looked at. -/
theorem assemble_congr
    (same : ∀ need ∈ required, assets'.get? need.1 = assets.get? need.1) :
    assemble replacer profilesPrefix memoryPrefix assets' =
      assemble replacer profilesPrefix memoryPrefix assets := by
  simp only [required, List.forall_mem_cons] at same
  obtain ⟨memory, profiles, loader, runtime, -⟩ := same
  simp only [assemble, binaryAsset, textAsset, memory, profiles, loader, runtime]

/-- The first check that fails decides the failure of an assembly.  If none fails, the script has
six statements: the loader and the runtime as they were replaced, and four that the way of replacing
has no part in.  No asset under another name plays any part. -/
theorem first_check_decides (replacer : Replacer) (profilesPrefix memoryPrefix : String)
    (assets : Assets) :
    (∀ failure, assemble replacer profilesPrefix memoryPrefix assets = .error failure ↔
      ∃ before after, checks replacer assets = before ++ some failure :: after ∧
        ∀ check ∈ before, check = none) ∧
    ((∀ check ∈ checks replacer assets, check = none) ↔
      ∃ memory profiles loader runtime loader' runtime',
        assets.get? Asset.memory = some (.binary memory) ∧
        assets.get? Asset.profiles = some (.text profiles) ∧
        assets.get? Asset.loader = some (.text loader) ∧
        assets.get? Asset.runtime = some (.text runtime) ∧
        replacer loader profilesAnchor (passProfiles profiles) = .ok loader' ∧
        replacer runtime memoryAnchor passMemory = .ok runtime' ∧
        assemble replacer profilesPrefix memoryPrefix assets =
          .ok ⟨[bindMemory memory, loader', initialise profilesPrefix memoryPrefix, runtime',
            attachModule, exportLoader]⟩) ∧
    (∀ replacer' fragments fragments',
      assemble replacer profilesPrefix memoryPrefix assets = .ok fragments →
      assemble replacer' profilesPrefix memoryPrefix assets = .ok fragments' →
      ∀ i ∈ [0, 2, 4, 5], fragments.toList[i]? = fragments'.toList[i]?) ∧
    ∀ assets', (∀ need ∈ required, assets'.get? need.1 = assets.get? need.1) →
      assemble replacer profilesPrefix memoryPrefix assets' =
        assemble replacer profilesPrefix memoryPrefix assets := by
  have first (failure : Failure) : (checks replacer assets).findSome? id = some failure ↔
      ∃ before after, checks replacer assets = before ++ some failure :: after ∧
        ∀ check ∈ before, check = none := by
    rw [List.findSome?_eq_some_iff]
    constructor
    · rintro ⟨before, _, after, split, rfl, free⟩
      exact ⟨before, after, split, free⟩
    · rintro ⟨before, after, split, free⟩
      exact ⟨before, some failure, after, split, rfl, free⟩
  have none : (checks replacer assets).findSome? id = .none ↔
      ∀ check ∈ checks replacer assets, check = .none := List.findSome?_eq_none_iff
  refine ⟨fun failure ↦ ?_, ?_, ?_, fun assets' same ↦ assemble_congr same⟩
  · rw [← first]
    rcases checks_cases replacer profilesPrefix memoryPrefix assets with
      ⟨other, fails, met⟩ | ⟨free, _, _, _, _, _, _, -, -, -, -, -, -, met⟩
    · rw [fails, met, Option.some.injEq, Except.error.injEq]
    · simp [free, met]
  · rw [← none]
    rcases checks_cases replacer profilesPrefix memoryPrefix assets with
      ⟨failure, fails, met⟩ | ⟨free, parts⟩
    · simp [fails, met]
    · exact iff_of_true free parts
  · intro replacer' fragments fragments' assembled assembled'
    obtain ⟨memory, _, _, _, _, _, image, -, -, -, -, -, rfl⟩ := assemble_eq_ok_iff.1 assembled
    obtain ⟨memory', _, _, _, _, _, image', -, -, -, -, -, rfl⟩ := assemble_eq_ok_iff.1 assembled'
    rw [image] at image'
    cases image'
    simp

/-- A way of replacing that keeps the loader and refuses every runtime; another asset does not
matter. -/
theorem runtime_refused_last :
    let replacer : Replacer := fun source anchor _ ↦
      if anchor = memoryAnchor then .error (.missingAsset source) else .ok source
    let assets := Assets.ofList [(Asset.memory, .binary []), (Asset.profiles, .text "p"),
      (Asset.loader, .text "l"), (Asset.runtime, .text "r")]
    assemble replacer "" "" assets = .error (.missingAsset "r") ∧
      assemble replacer "" "" (assets.insert "other" (.binary [])) =
        .error (.missingAsset "r") := by
  intro replacer assets
  obtain ⟨fails, -, -, same⟩ := first_check_decides replacer "" "" assets
  have refused : assemble replacer "" "" assets = .error (.missingAsset "r") :=
    (fails _).2 ⟨[none, none, none, none, none], [], rfl, by simp⟩
  refine ⟨refused, (same _ fun need mem ↦ ?_).trans refused⟩
  have others : need.1 ≠ "other" := by
    revert need
    decide
  exact Assets.get?_insert_of_ne others

end Script

end SoloScript
