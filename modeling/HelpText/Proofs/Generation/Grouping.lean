import HelpText.Proofs.Generation.Names
import HelpText.Proofs.Generation.Stages

/-!
How names that several files give are grouped. Main statement: there is one group for each of these
names, in the order in which the names first appear, with exactly the files that give it, and the
reports and the failure of the check list each of these files once and no others.
-/

namespace HelpText

namespace Generation

open Log (Event)

/-- The groups of the names that stand in several of these pairs of a name and a file. -/
structure Grouped (pairs : List (Text × Text)) (groups : List (Text × List Text)) : Prop where
  once : (Table.keys groups).Nodup
  repeated : ∀ name, name ∈ Table.keys groups ↔ 2 ≤ (pairs.map Prod.fst).count name
  ascending : (Table.keys groups).Pairwise fun first second =>
    (pairs.map Prod.fst).idxOf first < (pairs.map Prod.fst).idxOf second
  complete : ∀ group ∈ groups, group.2 = (pairs.filter fun pair => pair.1 = group.1).map Prod.snd

/-- The files at all positions whose name stands at another position too. -/
def collidingFiles (pairs : List (Text × Text)) : List Text :=
  (pairs.filter fun pair => 2 ≤ (pairs.map Prod.fst).count pair.1).map Prod.snd

/-- The files that a report lists. -/
def listedFiles (event : Event) : List Text :=
  match Table.get? event.extra (.of "files") with
  | some (.list items) => items.filterMap fun item =>
    match item with
    | .text file => some file
    | _ => none
  | _ => []

theorem listedFiles_sharedName (name : Text) (files : List Text) :
    listedFiles (sharedName name files) = files := by
  change (files.map Log.Value.text).filterMap _ = files
  rw [List.filterMap_map]
  exact List.filterMap_some

theorem filesOf_eq (pairs : List (Text × Text)) (name : Text) :
    filesOf pairs name = (pairs.filter fun pair => pair.1 = name).map Prod.snd := by
  induction pairs with
  | nil => rfl
  | cons pair pairs ih =>
    rw [filesOf] at ih ⊢
    by_cases h : pair.1 = name <;> simp [h, ih]

/-- Freed of repetitions, names stand in the order in which they first appear. -/
theorem eraseDups_ascending (names : List Text) :
    names.eraseDups.Pairwise fun first second => names.idxOf first < names.idxOf second := by
  induction names using List.reverseRecOn with
  | nil => exact List.Pairwise.nil
  | append_singleton names name ih =>
    -- A further name moves none of those that have appeared.
    have hstays {other : Text} (h : other ∈ names.eraseDups) :
        (names ++ [name]).idxOf other = names.idxOf other :=
      List.idxOf_append_of_mem (List.mem_eraseDups.mp h)
    have hbefore : names.eraseDups.Pairwise fun first second =>
        (names ++ [name]).idxOf first < (names ++ [name]).idxOf second := by
      apply ih.imp_of_mem
      intro first second hfirst hsecond hlt
      rwa [hstays hfirst, hstays hsecond]
    rw [eraseDups_concat]
    split
    · exact hbefore
    · next hnew =>
      rw [List.pairwise_append]
      refine ⟨hbefore, List.pairwise_singleton _ _, ?_⟩
      intro first hfirst last hlast
      obtain rfl := List.mem_singleton.mp hlast
      have hlt : names.idxOf first < names.length :=
        List.idxOf_lt_length_of_mem (List.mem_eraseDups.mp hfirst)
      rw [hstays hfirst, List.idxOf_append_of_notMem hnew]
      omega

/-- Sorted by names that differ, the pairs with one of these names stay the same. -/
theorem flatMap_filter_perm {names : List Text} (h : names.Nodup) (pairs : List (Text × Text)) :
    (names.flatMap fun name => pairs.filter fun pair => pair.1 = name).Perm
      (pairs.filter fun pair => pair.1 ∈ names) := by
  induction names with
  | nil => simp
  | cons name names ih =>
    obtain ⟨hname, hnames⟩ := List.nodup_cons.mp h
    have hfirst : (pairs.filter fun pair => pair.1 ∈ name :: names).filter
        (fun pair => pair.1 = name) = pairs.filter fun pair => pair.1 = name := by
      rw [List.filter_filter]
      apply List.filter_congr
      intro pair _
      by_cases hpair : pair.1 = name <;> simp [hpair]
    have hrest : (pairs.filter fun pair => pair.1 ∈ name :: names).filter
        (fun pair => !decide (pair.1 = name)) = pairs.filter fun pair => pair.1 ∈ names := by
      rw [List.filter_filter]
      apply List.filter_congr
      intro pair _
      by_cases hpair : pair.1 = name
      · simp [hpair, hname]
      · simp [hpair]
    have hparts := List.filter_append_perm (fun pair : Text × Text => decide (pair.1 = name))
      (pairs.filter fun pair => pair.1 ∈ name :: names)
    rw [hfirst, hrest] at hparts
    rw [List.flatMap_cons]
    exact ((ih hnames).append_left _).trans hparts

theorem grouped_collisions (names filenames : List Text) :
    Grouped (names.zip filenames) (collisions names filenames) := by
  have hkeys : Table.keys (collisions names filenames) =
      ((names.zip filenames).map Prod.fst).eraseDups.filter fun name =>
        1 < ((names.zip filenames).map Prod.fst).count name := by
    rw [collisions_zip, Table.keys, List.map_map]
    exact List.map_id _
  have hascending : (Table.keys (collisions names filenames)).Pairwise fun first second =>
      ((names.zip filenames).map Prod.fst).idxOf first <
        ((names.zip filenames).map Prod.fst).idxOf second := by
    rw [hkeys]
    exact (eraseDups_ascending _).filter _
  constructor
  case once =>
    apply hascending.imp
    rintro first second hlt rfl
    omega
  case repeated =>
    intro name
    rw [hkeys, List.mem_filter, List.mem_eraseDups, decide_eq_true_eq]
    constructor
    · intro h
      exact h.2
    · intro h
      exact ⟨List.count_pos_iff.mp (by omega), h⟩
  case ascending => exact hascending
  case complete =>
    intro group hgroup
    rw [collisions_zip] at hgroup
    obtain ⟨name, -, rfl⟩ := List.mem_map.mp hgroup
    exact filesOf_eq _ name

/-- All groups together list the files of the names that collide. -/
theorem Grouped.files_perm {pairs : List (Text × Text)} {groups : List (Text × List Text)}
    (h : Grouped pairs groups) : (groups.flatMap Prod.snd).Perm (collidingFiles pairs) := by
  have hfiles : groups.flatMap Prod.snd =
      ((Table.keys groups).flatMap fun name => pairs.filter fun pair => pair.1 = name).map
        Prod.snd := by
    rw [Table.keys, List.flatMap_map, List.map_flatMap]
    exact List.flatMap_congr h.complete
  have hcolliding : (pairs.filter fun pair => pair.1 ∈ Table.keys groups) =
      pairs.filter fun pair => 2 ≤ (pairs.map Prod.fst).count pair.1 := by
    apply List.filter_congr
    intro pair _
    simp only [h.repeated]
  rw [hfiles, collidingFiles, ← hcolliding]
  exact (flatMap_filter_perm h.once pairs).map Prod.snd

/-- Names that collide are grouped exactly; there are no groups exactly if the names differ; and the
check reports the groups one by one, lists with them every file of a name that collides once and no
other, and where it stops, its message holds the same groups. -/
theorem collisions_grouped (documents : List Document) (filenames : List Text) :
    let pairs := (documents.map Document.name).zip filenames
    let groups := collisions (documents.map Document.name) filenames
    Grouped pairs groups ∧ (groups = [] ↔ (pairs.map Prod.fst).Nodup) ∧
      ∀ (strict : Bool) (sources : List Source) (s : Journal),
        sources.map Source.name = filenames →
        let warnings := groups.map fun group => sharedName group.1 group.2
        (warnings.flatMap listedFiles).Perm (collidingFiles pairs) ∧
          checkNames journal strict documents sources s =
            (if strict ∧ groups ≠ [] then .error (.failure (.duplicateNames groups)) else .ok (),
              { s with events := s.events ++ warnings }) ∧
          (groups.flatMap Prod.snd).Perm (collidingFiles pairs) ∧
          (Failure.duplicateNames groups).message =
            .of "Duplicate document names: " ++ Text.join (.of "; ")
              (groups.map fun group => group.1 ++ .of ": " ++ Text.join (.of ", ") group.2) := by
  intro pairs groups
  have hgrouped : Grouped pairs groups := grouped_collisions _ _
  refine ⟨hgrouped, collisions_zip_eq_nil_iff _ _, ?_⟩
  rintro strict sources s rfl warnings
  have hlisted : warnings.flatMap listedFiles = groups.flatMap Prod.snd := by
    rw [List.flatMap_map]
    apply List.flatMap_congr
    intro group _
    exact listedFiles_sharedName group.1 group.2
  refine ⟨?_, ?_, hgrouped.files_perm, rfl⟩
  · rw [hlisted]
    exact hgrouped.files_perm
  · have hstops : ((strict && !groups.isEmpty) = true) = (strict = true ∧ groups ≠ []) := by
      simp
    rw [checkNames_journal]
    simp only [← hstops]
    rfl

/-- Documents whose names cross, with one more of them than there are files. -/
def crossedDocuments : List Document :=
  [{ name := .of "Get" }, { name := .of "Set" }, { name := .of "Get" }, { name := .of "Put" },
    { name := .of "Set" }, { name := .of "Get" }, { name := .of "Put" }]

def crossedSources : List Source :=
  [.of "get.md", .of "set.md", .of "-get.md", .of "put.md", .of "set-.md", .of "get-.md"].map
    fun name => { path := { names := [name] }, content := [] }

theorem collisions_grouped_crossed :
    let filenames := crossedSources.map Source.name
    let start : Journal := { files := { home := { names := [] } } }
    let groups := [(Text.of "Get", [.of "get.md", .of "-get.md", .of "get-.md"]),
      (.of "Set", [.of "set.md", .of "set-.md"])]
    let warnings := groups.map fun group => sharedName group.1 group.2
    collisions (crossedDocuments.map Document.name) filenames = groups ∧
      Grouped ((crossedDocuments.map Document.name).zip filenames) groups ∧
      (warnings.flatMap listedFiles).Perm
        [.of "get.md", .of "set.md", .of "-get.md", .of "set-.md", .of "get-.md"] ∧
      checkNames journal true crossedDocuments crossedSources start =
        (.error (.failure (.duplicateNames groups)), { start with events := warnings }) := by
  intro filenames start groups warnings
  have hgroups : collisions (crossedDocuments.map Document.name) filenames = groups := by decide
  obtain ⟨hgrouped, -, hchecked⟩ := collisions_grouped crossedDocuments filenames
  obtain ⟨hlisted, hcheck, -⟩ := hchecked true crossedSources start rfl
  rw [hgroups] at hgrouped hlisted hcheck
  exact ⟨hgroups, hgrouped, hlisted, hcheck⟩

end Generation

end HelpText
