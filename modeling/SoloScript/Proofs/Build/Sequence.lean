import SoloScript.Proofs.Build.Course
import SoloScript.Proofs.Build.Overwrite
import SoloScript.Proofs.Build.Store

/-!
# Sequences of builds

Any number of builds with the same output path, and of scripts stored there, leave either what was
there at first or the script that was stored last, whatever became of each of them.  A step that
fails at most makes directories.  The first that succeeds puts its script in the slot of the path,
and each that follows replaces it there.
-/

namespace SoloScript

open File Text

/-- The script of a build that gets as far as writing it. -/
def Config.code? (config : Config) (fetcher : Fetcher) : Option String :=
  match (config.resolution fetcher).result with
  | .error _ => none
  | .ok assets =>
    match Script.ofConfig config assets with
    | .error _ => none
    | .ok script => some script.render

namespace Sequence

/-- Something that writes a script to `path`. -/
inductive Step (path : Path) where
  | store (code : String)
  | build (config : Config) (fetcher : Fetcher) (aims : config.outputPath = path)

/-- A tree, and the script that has been stored last. -/
structure State where
  tree : Tree
  stored : Option String

variable {path : Path} {tree after prepared initial : Tree} {draft slot : Tree.Slot} {state : State}
  {code name : String}

/-- The script that a step stores if it succeeds. -/
def Step.code? : Step path → Option String
  | .store code => some code
  | .build config fetcher _ => config.code? fetcher

/-- Whether a step succeeds, and the tree after it. -/
def Step.run (tree : Tree) : Step path → Except Failure Unit × Tree
  | .store code => ((Build.store tree path code).1, (Build.store tree path code).2.1)
  | .build config fetcher _ =>
    ((SoloScript.build config fetcher tree).result.map fun _ ↦ (),
      (SoloScript.build config fetcher tree).tree)

def State.next (state : State) (step : Step path) : State :=
  match step.run state.tree with
  | (.ok (), tree) => ⟨tree, step.code?⟩
  | (.error _, tree) => ⟨tree, state.stored⟩

/-- The state after some steps from a tree in which none has succeeded yet. -/
def run (tree : Tree) (steps : List (Step path)) : State :=
  steps.foldl State.next ⟨tree, none⟩

/-! ## Steps -/

/-- The outcome of a step for a script, by how far it has got. -/
inductive Course (path : Path) (tree : Tree) : Option String → Except Failure Unit × Tree → Prop
  | idle {code? : Option String} {failure : Failure} : Course path tree code? (.error failure, tree)
  | refused {code : String} {failure : Failure} {fault : Fault}
      (failed : (Artifact.write tree path (Utf8.encode code)).result = .error fault) :
      Course path tree (some code)
        (.error failure, (Artifact.write tree path (Utf8.encode code)).tree)
  | stored {code : String}
      (written : (Artifact.write tree path (Utf8.encode code)).result = .ok ()) :
      Course path tree (some code) (.ok (), (Artifact.write tree path (Utf8.encode code)).tree)

theorem course_run (step : Step path) (tree : Tree) :
    Course path tree step.code? (step.run tree) := by
  cases step with
  | store code =>
    simp only [Step.code?, Step.run, Build.store]
    cases written : (Artifact.write tree path (Utf8.encode code)).result with
    | error fault => exact .refused written
    | ok => exact .stored written
  | build config fetcher aims =>
    cases aims
    have course := course_build config fetcher tree
    simp only [Step.code?, Step.run]
    generalize (build config fetcher tree).result = result at course ⊢
    generalize (build config fetcher tree).tree = after at course ⊢
    cases course with
    | unresolved | unassembled => exact .idle
    | unwritten resolved assembled failed =>
      rw [Config.code?, resolved]
      simp only [assembled]
      exact .refused failed
    | written resolved assembled written =>
      rw [Config.code?, resolved]
      simp only [assembled]
      exact .stored written

/-! ## What a sequence has come to -/

/-- The tree is spared until a script is put in the slot of the path, and from then on as well. -/
inductive From (initial : Tree) (path : Path) : State → Prop
  | waiting {tree : Tree} (spares : Artifact.Spares initial tree path) :
      From initial path ⟨tree, none⟩
  | stored {prepared tree : Tree} {draft slot : Tree.Slot} {code : String}
      (spares : Artifact.Spares initial prepared path)
      (slots : Artifact.Slots prepared path draft slot)
      (since : Artifact.Spares (prepared.set slot.location (.file (Utf8.encode code))) tree path) :
      From initial path ⟨tree, some code⟩

namespace From

theorem clear (h : From initial path state) : state.tree.entryAt? path.draft = none := by
  cases h with
  | waiting spares => exact spares.draft
  | stored _ _ since => exact since.draft

theorem spared (h : From initial path state) (spares : Artifact.Spares state.tree after path) :
    From initial path ⟨after, state.stored⟩ := by
  cases h with
  | waiting before => exact .waiting (before.trans spares)
  | stored before slots since => exact .stored before slots (since.trans spares)

/-- A script goes where the one before it is. -/
theorem store (h : From initial path state) (spares : Artifact.Spares state.tree prepared path)
    (slots : Artifact.Slots prepared path draft slot) (code : String) :
    From initial path ⟨prepared.set slot.location (.file (Utf8.encode code)), some code⟩ := by
  cases h with
  | waiting before => exact .stored (before.trans spares) slots (.refl slots.entryAt?_draft)
  | @stored first tree _ place last before placed since =>
    by_cases through : first.RunsThroughItself path
    · -- The way to the slot is gone, so that no other script can have been stored.
      have within := since.within.trans spares.within
      exact absurd slots.placed (placed.slot_ne_ok_of_within through within slot)
    · have there : (first.set place.location (.file (Utf8.encode last))).entryAt? path =
          some (.file (Utf8.encode last)) := placed.entryAt?_output through
      obtain rfl := since.contents (by simp [there])
      obtain rfl := spares.contents (by simp [there])
      obtain rfl : place = slot :=
        Except.ok.inj (placed.placed.symm.trans (placed.slot_eq_of_set slots.placed))
      rw [Tree.set_set]
      exact .stored before placed (.refl placed.entryAt?_draft)

theorem next (h : From initial path state) (wellFormed : state.tree.WellFormed)
    (named : path.fileName? = some name) (ascends : ".." ∉ path.segments) (step : Step path) :
    From initial path (state.next step) := by
  have course := course_run step state.tree
  rw [State.next]
  generalize step.run state.tree = outcome at course ⊢
  generalize step.code? = code? at course ⊢
  cases course with
  | idle => exact h
  | refused failed =>
    exact h.spared (Artifact.spares_of_error wellFormed named ascends h.clear failed)
  | stored written =>
    obtain ⟨spares, draft, slot, slots, same⟩ :=
      Artifact.exists_slots_of_write wellFormed named ascends h.clear written
    rw [same]
    exact h.store spares slots _

end From

theorem wellFormed_next (wellFormed : state.tree.WellFormed) (step : Step path) :
    (state.next step).tree.WellFormed := by
  have course := course_run step state.tree
  rw [State.next]
  generalize step.run state.tree = outcome at course ⊢
  generalize step.code? = code? at course ⊢
  cases course with
  | idle => exact wellFormed
  | refused | stored => exact Artifact.wellFormed_write wellFormed _ _

/-! ## Whole sequences -/

/-- What holds at any time of a sequence that has begun in the tree `initial`. -/
structure State.Sound (initial : Tree) (path : Path) (state : State) : Prop where
  /-- Until a step succeeds, the path leads to what it led to at first. -/
  output : state.stored = none → state.tree.entryAt? path = initial.entryAt? path
  script : ∀ code, state.stored = some code → ¬initial.RunsThroughItself path →
    state.tree.entryAt? path = some (.file (Utf8.encode code))
  /-- With the link that it ran through, the way to the script is gone. -/
  lost : ∀ code, state.stored = some code → initial.RunsThroughItself path →
    state.tree.entryAt? path = none ∧ ∃ slot, initial.slot path = .ok slot ∧
      state.tree.get? slot.location = some (.file (Utf8.encode code))
  draft : state.tree.entryAt? path.draft = none
  /-- Whatever was there at first, but not in the slot of the path, is still there. -/
  others : ∀ location entry, initial.get? location = some entry →
    (∀ slot, initial.slot path = .ok slot → slot.location ≠ location) →
    state.tree.get? location = some entry

theorem From.sound (h : From initial path state) : state.Sound initial path := by
  cases h with
  | waiting spares =>
    constructor
    case output => exact fun _ ↦ spares.output
    case script => simp
    case lost => simp
    case draft => exact spares.draft
    case others => exact fun _ _ there _ ↦ spares.within.get? there
  | @stored prepared tree draft slot code spares slots since =>
    constructor
    case output => simp
    case script =>
      rintro _ ⟨⟩ direct
      rw [← spares.runsThroughItself_iff] at direct
      exact since.output.trans (slots.entryAt?_output direct)
    case lost =>
      rintro _ ⟨⟩ through
      obtain ⟨_, target, _, link, _⟩ := id through
      obtain rfl := spares.contents (by simp [link])
      refine ⟨since.output.trans (slots.entryAt?_lost through), slot, slots.placed, ?_⟩
      exact since.within.get? (Tree.get?_set slots.outside)
    case draft => exact since.draft
    case others =>
      intro location entry there apart
      refine since.within.get? ?_
      have kept := spares.within.get? there
      rw [Tree.get?_set_of_ne, kept]
      rintro rfl
      -- What is in the slot has kept the path as it was.
      have found := Tree.entryAt?_eq_of_slot slots.placed slots.fits.isName
      rw [kept, spares.output] at found
      obtain rfl := spares.contents (by simp [found])
      exact apart slot slots.placed rfl

/-- At any time of a sequence of steps that aim at one path, and that began without a draft, the
path leads to what was there at first or to the script stored last, there is no draft, and all else
is kept. -/
theorem run_sound (initial : Tree) (path : Path) (name : String) (wellFormed : initial.WellFormed)
    (named : path.fileName? = some name) (ascends : ".." ∉ path.segments)
    (clear : initial.entryAt? path.draft = none) (steps : List (Step path)) :
    (run initial steps).Sound initial path := by
  have invariant (state : State) (wellFormed : state.tree.WellFormed)
      (start : From initial path state) : From initial path (steps.foldl State.next state) := by
    induction steps generalizing state with
    | nil => exact start
    | cons step steps ih =>
      exact ih (state.next step) (wellFormed_next wellFormed step)
        (start.next wellFormed named ascends step)
  exact (invariant ⟨initial, none⟩ wellFormed (.waiting (.refl clear))).sound

/-- A script that has been stored survives a build of which all fetches fail. -/
theorem script_survives_failed_build :
    let config : Config := { Config.default with outputPath := ⟨"b.js"⟩ }
    let fetcher : Fetcher := fun source ↦ ⟨0, .error (.status source 404)⟩
    let steps : List (Step ⟨"b.js"⟩) := [.store "let mem=", .build config fetcher rfl]
    (run (Tree.empty ["w"]) steps).tree.entryAt? ⟨"b.js"⟩ =
      some (.file (Utf8.encode "let mem=")) := by
  intro config fetcher steps
  have absent : (Tree.empty ["w"]).get? ["w", "b.js.partial"] = none := rfl
  have unlinked (target : Path) :
      (Tree.empty ["w"]).get? ["w", "b.js.partial"] ≠ some (.link target) := by
    simp [absent]
  have places := bare_bundle.places bare_draft (bare_draft.locate unlinked)
    (Tree.isEnd_of_get?_eq_none absent) (by decide)
  have stored : (Build.store (Tree.empty ["w"]) ⟨"b.js"⟩ "let mem=").1 = .ok () := by
    rw [Build.store, bare_bundle.write, places.store_of_not_link unlinked]
    rfl
  have failed (tree : Tree) : (build config fetcher tree).result =
      .error (.status (config.source Asset.runtime config.runtimeFile) 404) := by
    cbv
  have last : (run (Tree.empty ["w"]) steps).stored = some "let mem=" := by
    simp [run, steps, State.next, Step.run, Step.code?, stored, failed, Except.map]
  have clear : (Tree.empty ["w"]).entryAt? (Path.draft ⟨"b.js"⟩) = none :=
    (bare_draft.entryAt?_eq _).trans absent
  have named : Path.fileName? ⟨"b.js"⟩ = some "b.js" := by decide +kernel
  have sound := run_sound (Tree.empty ["w"]) ⟨"b.js"⟩ "b.js" (Tree.wellFormed_empty ["w"]) named
    (by decide +kernel) clear steps
  exact sound.script "let mem=" last bare_bundle.not_runsThroughItself

/-- A path that runs through the link at its end leads nowhere when a script has been stored. -/
theorem script_lost_through_link :
    let tree := (Tree.empty ["w"]).set ["w", "x"] (.link ⟨"."⟩)
    let steps : List (Step ⟨"x/x"⟩) := [.store "let mem="]
    tree.entryAt? (Path.draft ⟨"x/x"⟩) = none ∧ (run tree steps).stored = some "let mem=" ∧
      (run tree steps).tree.entryAt? ⟨"x/x"⟩ = none := by
  intro tree steps
  obtain ⟨accepts, limits, clear, through⟩ := accepts_through_link
  have wellFormed : tree.WellFormed :=
    (Tree.wellFormed_empty ["w"]).set (Tree.get?_base (.empty ["w"])) (by decide)
  have named : Path.fileName? ⟨"x/x"⟩ = some "x" := by decide +kernel
  have ascends : ".." ∉ Path.segments ⟨"x/x"⟩ := by decide +kernel
  have written := (Artifact.write_eq_ok_iff wellFormed named ascends limits clear
    (Utf8.encode "let mem=")).2 accepts
  have stored : (Build.store tree ⟨"x/x"⟩ "let mem=").1 = .ok () :=
    Outcome.mapError_eq_ok_iff.2 written
  have last : (run tree steps).stored = some "let mem=" := by
    simp [run, steps, State.next, Step.run, Step.code?, stored]
  have start : From tree ⟨"x/x"⟩ ⟨tree, none⟩ := .waiting (.refl clear)
  have sound := (start.next wellFormed named ascends (.store "let mem=")).sound
  exact ⟨clear, last, (sound.lost "let mem=" last through).1⟩

end Sequence

end SoloScript
