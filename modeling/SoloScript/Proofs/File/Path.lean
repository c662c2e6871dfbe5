import Mathlib.Data.List.DropRight
import SoloScript.File.Artifact
import SoloScript.Proofs.Text.Substring

/-!
# Lemmas on paths

A path is its segments joined by slashes.  The main result splits the segments of a path with a
parent into those of the parent, the last name, and idle segments in between and behind.
-/

namespace SoloScript.File.Path

open Text

/-! ## Segments and text -/

theorem slash_notMem_of_mem_segments {path : Path} {segment : String}
    (h : segment ∈ path.segments) : '/' ∉ segment.toList := by
  obtain ⟨piece, mem, rfl⟩ := List.mem_map.1 h
  simpa using sep_notMem_of_mem_pieces mem

/-- Segments joined by slashes make a path with these segments. -/
theorem segments_join {segments : List String} (nonempty : segments ≠ [])
    (free : ∀ segment ∈ segments, '/' ∉ segment.toList) :
    Path.segments ⟨"/".intercalate segments⟩ = segments := by
  have slash : "/".toList = ['/'] := rfl
  rw [Path.segments, String.toList_intercalate, slash, pieces_intercalate (by simpa using nonempty)]
  · simp [Function.comp_def]
  · simpa using free

theorem ofSegments_of_ne {segments : List String} (root : segments ≠ [""]) :
    ofSegments segments = ⟨"/".intercalate segments⟩ :=
  if_neg root

theorem segments_ofSegments {segments : List String} (nonempty : segments ≠ [])
    (root : segments ≠ [""]) (free : ∀ segment ∈ segments, '/' ∉ segment.toList) :
    (ofSegments segments).segments = segments := by
  rw [ofSegments_of_ne root, segments_join nonempty free]

/-- Only from no segments comes an empty text. -/
theorem eq_nil_of_text_ofSegments {segments : List String}
    (free : ∀ segment ∈ segments, '/' ∉ segment.toList) (empty : (ofSegments segments).text = "") :
    segments = [] := by
  by_contra nonempty
  by_cases root : segments = [""]
  · simp [root, ofSegments] at empty
  · have same := segments_ofSegments nonempty root free
    rw [Path.segments, empty] at same
    exact root (by simpa [pieces] using same.symm)

/-- A path is absolute if it has an empty first segment and one more. -/
theorem isAbsolute_iff (path : Path) :
    path.isAbsolute ↔ path.segments.head? = some "" ∧ path.segments ≠ [""] := by
  rw [isAbsolute, segments]
  cases path.text.toList with
  | nil => simp [pieces]
  | cons c cs =>
    by_cases slash : c = '/'
    · simp [slash, pieces, pieces_ne_nil]
    · obtain ⟨piece, others, -, cut⟩ := pieces_cons_of_ne slash cs
      simp [slash, cut]

/-! ## Where a walk starts -/

/-- Where a walk along segments starts, seen from a directory. -/
def origin (segments : List String) (directory : Location) : Location :=
  if segments.head? = some "" then [] else directory

theorem start_eq_origin {path : Path} (h : path.segments ≠ [""]) (directory : Location) :
    path.start directory = origin path.segments directory := by
  simp only [start, origin, isAbsolute_iff]
  simp [h]

theorem append_cons_ne_root {segments rest : List String} {name : String} (named : name ≠ "") :
    segments ++ name :: rest ≠ [""] := by
  intro root
  have mem : name ∈ [""] := by
    rw [← root]
    simp
  exact named (by simpa using mem)

theorem origin_append_cons {segments rest : List String} {name : String} (named : name ≠ "")
    (directory : Location) :
    origin (segments ++ name :: rest) directory = origin segments directory := by
  cases segments with
  | nil => simp [origin, named]
  | cons first others => simp [origin]

theorem origin_append {segments : List String} (nonempty : segments ≠ []) (rest : List String)
    (directory : Location) : origin (segments ++ rest) directory = origin segments directory := by
  cases segments with
  | nil => exact absurd rfl nonempty
  | cons first others => simp [origin]

/-! ## Idle segments -/

theorem dropIdle_eq_rdropWhile (segments : List String) :
    dropIdle segments = segments.rdropWhile isIdle := rfl

theorem exists_eq_dropIdle_append (segments : List String) :
    ∃ idle, segments = dropIdle segments ++ idle ∧ ∀ segment ∈ idle, isIdle segment := by
  refine ⟨segments.rtakeWhile isIdle, ?_, ?_⟩
  · rw [dropIdle_eq_rdropWhile, List.rdropWhile_append_rtakeWhile]
  · intro segment mem
    exact List.mem_rtakeWhile_imp mem

/-- What is left without the idle segments at the end ends with a name or with two dots. -/
theorem eq_nil_or_dropIdle_eq_append (segments : List String) :
    dropIdle segments = [] ∨ ∃ init last, dropIdle segments = init ++ [last] ∧ ¬isIdle last := by
  by_cases empty : dropIdle segments = []
  · exact .inl empty
  · refine .inr ⟨_, _, (List.dropLast_append_getLast empty).symm, ?_⟩
    exact List.rdropWhile_last_not isIdle segments empty

/-- Only slashes, or a last segment with slashes behind it. -/
theorem exists_eq_append_blank (segments : List String) :
    ∃ blank, (∀ segment ∈ blank, segment = "") ∧
      (segments = blank ∨ ∃ init last, segments = init ++ [last] ++ blank ∧ last ≠ "") := by
  have blank : ∀ segment ∈ segments.rtakeWhile (· = ""), segment = "" := by
    intro segment mem
    simpa using List.mem_rtakeWhile_imp mem
  refine ⟨segments.rtakeWhile (· = ""), blank, ?_⟩
  have cut := (List.rdropWhile_append_rtakeWhile (p := (· = "")) (l := segments)).symm
  by_cases bare : segments.rdropWhile (· = "") = []
  · rw [bare] at cut
    exact .inl cut
  · have busy := List.rdropWhile_last_not (· = "") segments bare
    refine .inr ⟨(segments.rdropWhile (· = "")).dropLast, _, ?_, by simpa using busy⟩
    rw [List.dropLast_append_getLast bare]
    exact cut

/-! ## Parents -/

/-- Segments with nothing idle at the end, unless it is the first of them. -/
def Tidy (segments : List String) : Prop :=
  ∀ init last, segments = init ++ [last] → init = [] ∨ ¬isIdle last

theorem tidy_nil : Tidy [] := by
  intro init last h
  simp at h

theorem tidy_cons_dropIdle (first : String) (others : List String) :
    Tidy (first :: dropIdle others) := by
  intro init last h
  rcases eq_nil_or_dropIdle_eq_append others with empty | ⟨init', last', found, busy⟩
  · rw [empty] at h
    rcases List.append_eq_singleton_iff.1 h.symm with ⟨none, -⟩ | ⟨-, none⟩
    · exact .inl none
    · simp at none
  · rw [found, ← List.cons_append] at h
    obtain ⟨-, same⟩ := List.append_inj' h rfl
    obtain rfl : last' = last := by simpa using same
    exact .inr busy

/-- `segments` are those of `parent`, then `last`, with idle ones in between and behind. -/
structure IsChild (parent : List String) (last : String) (segments : List String) : Prop where
  tidy : Tidy parent
  split : ∃ idle trailing, segments = parent ++ idle ++ last :: trailing ∧
    (∀ segment ∈ idle, isIdle segment) ∧ (∀ segment ∈ trailing, isIdle segment) ∧
    (parent = [] → idle = [])
  nonempty : last ≠ ""
  busy : parent ≠ [] → ¬isIdle last

theorem isChild_of_parentSegments? {first : String} {others parent : List String}
    (h : parentSegments? (first :: others) = some parent) :
    IsChild parent ((dropIdle others).getLast?.getD first) (first :: others) := by
  obtain ⟨trailing, split, idle⟩ := exists_eq_dropIdle_append others
  simp only [parentSegments?] at h
  rcases eq_nil_or_dropIdle_eq_append others with empty | ⟨init, last, found, busy⟩
  · rw [if_pos empty] at h
    rw [empty, List.nil_append] at split
    split at h
    · simp at h
    · rename_i named
      obtain rfl : [] = parent := by simpa using h
      simp only [empty, List.getLast?_nil, Option.getD_none]
      exact ⟨tidy_nil, ⟨[], others, rfl, by simp, split ▸ idle, fun _ ↦ rfl⟩, named, by simp⟩
  · rw [if_neg (by simp [found]), found, List.dropLast_concat] at h
    obtain rfl := Option.some.inj h
    obtain ⟨between, split', idle'⟩ := exists_eq_dropIdle_append init
    simp only [found, List.getLast?_concat, Option.getD_some]
    refine ⟨tidy_cons_dropIdle first init, ⟨between, trailing, ?_, idle', idle, by simp⟩, ?_,
      fun _ ↦ busy⟩
    · have joined : others = dropIdle init ++ between ++ last :: trailing := by
        rw [← split']
        simpa [found] using split
      simp [joined]
    · rintro rfl
      exact busy rfl

namespace IsChild

variable {parent segments : List String} {last : String}

/-- Nothing stands behind the last segment of tidy segments. -/
theorem eq_append_of_tidy (h : IsChild parent last segments) (tidy : Tidy segments) :
    ∃ idle, segments = parent ++ idle ++ [last] ∧ (∀ segment ∈ idle, isIdle segment) ∧
      (parent = [] → idle = []) := by
  obtain ⟨idle, trailing, rfl, between, behind, apart⟩ := h.split
  rcases List.eq_nil_or_concat' trailing with rfl | ⟨init, final, rfl⟩
  · exact ⟨idle, rfl, between, apart⟩
  · rcases tidy (parent ++ idle ++ last :: init) final (by simp) with none | busy
    · simp at none
    · exact absurd (behind final (by simp)) busy

theorem mem_of_tidy (h : IsChild parent last segments) (tidy : Tidy segments) :
    last ∈ segments := by
  obtain ⟨idle, rfl, -⟩ := h.eq_append_of_tidy tidy
  simp

theorem ne_root (h : IsChild parent last segments) : segments ≠ [""] := by
  obtain ⟨idle, trailing, rfl, -⟩ := h.split
  exact append_cons_ne_root h.nonempty

theorem mem_of_mem_parent (h : IsChild parent last segments) {segment : String}
    (mem : segment ∈ parent) : segment ∈ segments := by
  obtain ⟨idle, trailing, rfl, -, -, -⟩ := h.split
  simp [mem]

end IsChild

/-! ## Names -/

/-- A segment that names an entry of the directory it is looked up in. -/
def IsName (segment : String) : Prop := ¬isIdle segment ∧ segment ≠ ".."

theorem IsName.ne_empty {segment : String} (h : IsName segment) : segment ≠ "" := by
  rintro rfl
  exact h.1 (by simp [isIdle])

theorem tidy_of_getLast? {segments : List String} {name : String}
    (last : segments.getLast? = some name) (named : IsName name) : Tidy segments := by
  rintro init final rfl
  rw [List.getLast?_concat] at last
  cases last
  exact .inr named.1

/-- Tidy segments and a name behind them. -/
theorem IsChild.concat {parent : List String} {name : String} (tidy : Tidy parent)
    (named : IsName name) : IsChild parent name (parent ++ [name]) where
  tidy := tidy
  split := ⟨[], [], by simp, by simp, by simp, fun _ ↦ rfl⟩
  nonempty := named.ne_empty
  busy _ := named.1

/-- What is looked up in a directory is a name, but for a single dot that starts a path. -/
theorem IsChild.isName_or {parent segments : List String} {last : String}
    (h : IsChild parent last segments) (level : last ≠ "..") :
    IsName last ∨ parent = [] ∧ last = "." := by
  by_cases idle : isIdle last
  · have dot : last = "." := by simpa [isIdle, h.nonempty] using idle
    exact .inr ⟨not_not.1 fun more ↦ h.busy more idle, dot⟩
  · exact .inl ⟨idle, level⟩

/-- A path with a file name has a parent, in which the file name is looked up. -/
theorem isChild_of_fileName? {path : Path} {name : String} (h : path.fileName? = some name) :
    IsName name ∧ ∃ parent, parentSegments? path.segments = some parent ∧
      IsChild parent name path.segments := by
  rw [fileName?] at h
  cases segments : path.segments with
  | nil => simp [segments] at h
  | cons first others =>
    simp only [segments] at h
    split at h
    · simp at h
    · rename_i named
      obtain rfl := Option.some.inj h
      refine ⟨not_or.1 named, ?_⟩
      have parent : ∃ parent, parentSegments? (first :: others) = some parent := by
        simp only [parentSegments?]
        split
        · rename_i empty
          simp only [empty, List.getLast?_nil, Option.getD_none] at named
          rw [if_neg]
          · exact ⟨_, rfl⟩
          · rintro rfl
            exact named (.inl rfl)
        · exact ⟨_, rfl⟩
      obtain ⟨parent, found⟩ := parent
      exact ⟨parent, found, isChild_of_parentSegments? found⟩

/-- The name that a path ends with is its file name. -/
theorem fileName?_of_concat {path : Path} {init : List String} {name : String}
    (split : path.segments = init ++ [name]) (named : IsName name) :
    path.fileName? = some name := by
  have proper : ¬(isIdle name ∨ name = "..") := not_or.2 named
  rw [fileName?, split]
  cases init with
  | nil =>
    have bare : dropIdle [] = [] := rfl
    simp only [List.nil_append, bare, List.getLast?_nil, Option.getD_none, if_neg proper]
  | cons first others =>
    have busy : dropIdle (others ++ [name]) = others ++ [name] := by simp [dropIdle, named.1]
    simp only [List.cons_append, busy, List.getLast?_concat, Option.getD_some, if_neg proper]

/-! ## Drafts -/

/-- Joined segments end with the last of them. -/
theorem exists_join_concat (init : List String) (last : String) :
    ∃ before, "/".intercalate (init ++ [last]) = before ++ last := by
  by_cases first : init = []
  · exact ⟨"", by simp [first]⟩
  · refine ⟨"/".intercalate init ++ "/", ?_⟩
    rw [String.intercalate_append_of_ne_nil first (by simp), String.intercalate_singleton]

/-- The path of a name below a path has one more segment. -/
theorem child_ofSegments {parent : List String} {name : String} (tidy : Tidy parent)
    (free : ∀ segment ∈ parent, '/' ∉ segment.toList) :
    (ofSegments parent).child name = ⟨"/".intercalate (parent ++ [name])⟩ := by
  rcases List.eq_nil_or_concat' parent with rfl | ⟨init, last, rfl⟩
  · simp [ofSegments, child]
  · by_cases root : init ++ [last] = [""]
    · simp [root, ofSegments, child]
    · have nonempty : last ≠ "" := by
        rintro rfl
        rcases tidy init "" rfl with rfl | busy
        · exact root rfl
        · exact busy rfl
      obtain ⟨before, joined⟩ := exists_join_concat init last
      have open_ : ¬("/".intercalate (init ++ [last]) = "" ∨
          ("/".intercalate (init ++ [last])).toList.getLast? = some '/') := by
        rw [joined, not_or]
        refine ⟨by simp [nonempty], fun slash ↦ ?_⟩
        have end_ : last.toList ≠ [] := by simpa using nonempty
        rw [String.toList_append, List.getLast?_append_of_ne_nil _ end_] at slash
        exact free last (by simp) (List.mem_of_getLast? slash)
      have longer := String.intercalate_append_of_ne_nil (s := "/") (l := init ++ [last])
        (m := [name]) (by simp) (by simp)
      rw [ofSegments_of_ne root, child, if_neg open_, longer, String.intercalate_singleton]

theorem isName_append_partial (name : String) : IsName (name ++ ".partial") := by
  have longer : 8 ≤ (name ++ ".partial").length := by
    have : ".partial".length = 8 := by decide
    rw [String.length_append]
    omega
  refine ⟨?_, ?_⟩
  · simp only [isIdle, Bool.or_eq_true, decide_eq_true_eq, not_or]
    refine ⟨by simp, fun same ↦ ?_⟩
    rw [same] at longer
    exact absurd longer (by decide)
  · intro same
    rw [same] at longer
    exact absurd longer (by decide)

/-- The path of a name ends with that name. -/
theorem exists_segments_child (path : Path) {name : String} (free : '/' ∉ name.toList) :
    ∃ parent, (path.child name).segments = parent ++ [name] := by
  have single : (pieces '/' name.toList).map String.ofList = [name] := by
    rw [pieces_of_notMem free, List.map_singleton, String.ofList_toList]
  have slash : "/".toList = ['/'] := rfl
  rw [child]
  split
  · rename_i bare
    rcases List.eq_nil_or_concat' path.text.toList with empty | ⟨init, last, split⟩
    · exact ⟨[], by rw [segments, String.toList_append, empty, List.nil_append, single]; rfl⟩
    · have ends : last = '/' := by simpa [← String.toList_eq_nil_iff, split] using bare
      refine ⟨(pieces '/' init).map String.ofList, ?_⟩
      rw [segments, String.toList_append, split, ends, List.append_assoc, List.singleton_append,
        pieces_append_sep, List.map_append, single]
  · refine ⟨path.segments, ?_⟩
    rw [segments, String.toList_append, String.toList_append, slash, List.append_assoc,
      List.singleton_append, pieces_append_sep, List.map_append, single]
    rfl

/-- The draft of any path ends with a name. -/
theorem exists_segments_draft (path : Path) :
    ∃ parent name, path.draft.segments = parent ++ [name] ∧ IsName name := by
  have free : '/' ∉ (path.fileName?.getD "" ++ ".partial").toList := by
    cases named : path.fileName? with
    | none => decide
    | some name =>
      obtain ⟨-, parent, -, child⟩ := isChild_of_fileName? named
      obtain ⟨idle, trailing, split, -⟩ := child.split
      have mem : name ∈ path.segments := by
        rw [split]
        simp
      simpa using slash_notMem_of_mem_segments mem
  have ends : ∃ parent, path.draft.segments = parent ++ [path.fileName?.getD "" ++ ".partial"] := by
    rw [draft, withFileName]
    split
    · exact exists_segments_child _ free
    · exact exists_segments_child _ free
  obtain ⟨parent, split⟩ := ends
  exact ⟨parent, _, split, isName_append_partial _⟩

/-- The draft of a path has the segments of its parent and one more. -/
theorem segments_draft {path : Path} {name : String} {parent : List String}
    (named : path.fileName? = some name) (above : parentSegments? path.segments = some parent)
    (child : IsChild parent name path.segments) :
    path.draft.segments = parent ++ [name ++ ".partial"] := by
  have free : ∀ segment ∈ parent, '/' ∉ segment.toList := by
    intro segment mem
    exact slash_notMem_of_mem_segments (child.mem_of_mem_parent mem)
  have nameFree : '/' ∉ (name ++ ".partial").toList := by
    obtain ⟨idle, trailing, split, -⟩ := child.split
    have mem : name ∈ path.segments := by
      rw [split]
      simp
    simpa using slash_notMem_of_mem_segments mem
  simp only [draft, withFileName, named, Option.getD_some, parent?, above, Option.map_some]
  rw [child_ofSegments child.tidy free, segments_join (by simp)]
  intro segment mem
  rcases List.mem_append.1 mem with mem | mem
  · exact free segment mem
  · rwa [List.mem_singleton.1 mem]

/-! ## Lineages -/

theorem lineage_of_none {segments : List String} (h : parentSegments? segments = none) :
    lineage segments = [] := by
  rw [lineage]
  split
  · rfl
  · simp_all

theorem lineage_of_some {segments parent : List String}
    (h : parentSegments? segments = some parent) :
    lineage segments = segments :: lineage parent := by
  rw [lineage]
  split
  · simp_all
  · simp_all

/-- The ancestors of a path of tidy segments are the paths of their lineage. -/
theorem ancestors_ofSegments {segments : List String} (free : ∀ s ∈ segments, '/' ∉ s.toList) :
    (ofSegments segments).ancestors = (lineage segments).map ofSegments := by
  rw [ancestors]
  by_cases none : segments = []
  · have empty : (ofSegments []).segments = [""] := by simp [ofSegments, Path.segments, pieces]
    rw [none, empty, lineage_of_none rfl, lineage_of_none rfl]
  · by_cases root : segments = [""]
    · have slash : (ofSegments [""]).segments = ["", ""] := by
        simp [ofSegments, Path.segments, pieces]
      rw [root, slash, lineage_of_none rfl, lineage_of_none rfl]
    · rw [segments_ofSegments none root free]

/-- `paths` lead to where `segments` lead and to all above that, from the inside out. -/
inductive Descends : List String → List Path → Prop where
  | top {segments : List String} (top : parentSegments? segments = none) : Descends segments []
  | under {parent segments : List String} {last : String} {path : Path} {paths : List Path}
      (above : Descends parent paths) (child : IsChild parent last segments)
      (tidy : Tidy segments) (level : last ≠ "..") (same : path.segments = segments) :
      Descends segments (path :: paths)

theorem descends_lineage {segments : List String} (tidy : Tidy segments)
    (free : ∀ segment ∈ segments, '/' ∉ segment.toList) (ascends : ".." ∉ segments) :
    Descends segments ((lineage segments).map ofSegments) := by
  induction segments using lineage.induct with
  | case1 segments none =>
    rw [lineage_of_none none]
    exact .top none
  | case2 segments parent above _ ih =>
    cases segments with
    | nil => simp [parentSegments?] at above
    | cons first others =>
      have child := isChild_of_parentSegments? above
      obtain ⟨idle, split, -⟩ := child.eq_append_of_tidy tidy
      rw [lineage_of_some above, List.map_cons]
      refine .under (ih child.tidy ?_ ?_) child tidy ?_ ?_
      · intro segment mem
        exact free segment (child.mem_of_mem_parent mem)
      · intro mem
        exact ascends (child.mem_of_mem_parent mem)
      · intro up
        exact ascends (by rw [split, up]; simp)
      · exact segments_ofSegments (by simp) child.ne_root free

end SoloScript.File.Path
