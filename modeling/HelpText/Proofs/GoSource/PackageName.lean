import HelpText.GoSource
import HelpText.Proofs.FileSystem.PathText
import Mathlib.Data.List.Induction

/-!
The package name of a destination. `Path.EndsAt` says which name a path ends at: the last one that
no later `..` takes back. Main statement: the package clause names that one, and it names something
exactly if there is one.
-/

namespace HelpText

namespace Path

/-- Names that lead back to where they began: every name that leads down is taken back later. -/
inductive Returns : List Text → Prop
  | nil : Returns []
  | back {name : Text} {inner rest : List Text} (hname : Descends name) (hinner : Returns inner)
      (hrest : Returns rest) : Returns (name :: (inner ++ ['.', '.'] :: rest))

/-- `name` is the last name that is not taken back. -/
def EndsAt (names : List Text) (name : Text) : Prop :=
  ∃ before after, names = before ++ name :: after ∧ Descends name ∧ Returns after

/-- The names that remain of a path, latest first, when each `..` has taken back what it can. -/
def remaining (rooted : Bool) (names : List Text) : List Text :=
  names.foldl (pushPiece rooted) []

section Stack

variable {rooted : Bool} {kept names : List Text} {name piece : Text}

theorem pushPiece_of_descends (h : Descends name) : pushPiece rooted kept name = name :: kept := by
  rw [pushPiece.eq_def, h.1, Bool.not_true, if_neg Bool.false_ne_true, if_pos h.2]

theorem pushPiece_above (h : name ≠ ['.', '.']) :
    pushPiece rooted (name :: kept) ['.', '.'] = kept := by
  rw [pushPiece.eq_def, if_neg (by decide), if_neg (fun hne => hne rfl)]
  exact if_neg h

theorem remaining_concat :
    remaining rooted (names ++ [piece]) = pushPiece rooted (remaining rooted names) piece :=
  List.foldl_concat ..

theorem Returns.append {more : List Text} (h : Returns names) (hmore : Returns more) :
    Returns (names ++ more) := by
  induction h with
  | nil => exact hmore
  | back hname hinner _ _ ih =>
    rw [List.cons_append, List.append_assoc, List.cons_append]
    exact .back hname hinner ih

/-- What leads back leaves everything before it. -/
theorem Returns.foldl_pushPiece (h : Returns names) (kept : List Text) :
    names.foldl (pushPiece rooted) kept = kept := by
  induction h generalizing kept with
  | nil => rfl
  | back hname _ _ ihinner ihrest =>
    rw [List.foldl_cons, pushPiece_of_descends hname, List.foldl_append, ihinner, List.foldl_cons,
      pushPiece_above hname.2, ihrest]

theorem EndsAt.remaining_eq (h : EndsAt names name) (rooted : Bool) :
    ∃ kept, remaining rooted names = name :: kept := by
  obtain ⟨before, after, rfl, hname, hafter⟩ := h
  refine ⟨remaining rooted before, ?_⟩
  rw [remaining, List.foldl_append, List.foldl_cons, pushPiece_of_descends hname]
  exact hafter.foldl_pushPiece _

/-- Where the names that remain come from: each but the leading `..` stands somewhere in the path,
behind it the names return, and what remains below it comes from before it. -/
inductive Leaves : List Text → List Text → Prop
  | above {names kept : List Text} (h : ∀ name ∈ kept, name = ['.', '.']) : Leaves names kept
  | name {before after kept : List Text} {name : Text} (hname : Descends name)
      (hafter : Returns after) (hbefore : Leaves before kept) :
      Leaves (before ++ name :: after) (name :: kept)

theorem Leaves.append {more : List Text} (h : Leaves names kept) (hmore : Returns more) :
    Leaves (names ++ more) kept := by
  cases h with
  | above h => exact .above h
  | name hname hafter hbefore =>
    rw [List.append_assoc, List.cons_append]
    exact .name hname (hafter.append hmore) hbefore

/-- One more name keeps track of what remains. -/
theorem Leaves.pushPiece (h : Leaves names kept) (hpiece : isName piece = true) :
    Leaves (names ++ [piece]) (pushPiece rooted kept piece) := by
  by_cases hup : piece = ['.', '.']
  · subst hup
    cases h with
    | above h =>
      -- Behind `..` alone another one stays, or is dropped right below the root.
      apply Leaves.above
      rw [pushPiece.eq_def, if_neg (by decide), if_neg (fun hne => hne rfl)]
      cases kept with
      | nil => cases rooted <;> simp
      | cons last rest =>
        have hlast : last = ['.', '.'] := h last List.mem_cons_self
        simp only [hlast, if_true, List.forall_mem_cons, true_and]
        exact fun name hin => h name (List.mem_cons_of_mem _ hin)
    | @name before after kept name hname hafter hbefore =>
      -- The name that remained last is taken back, with all that is behind it.
      have hback : Returns (name :: (after ++ ['.', '.'] :: [])) := .back hname hafter .nil
      rw [pushPiece_above hname.2, List.append_assoc, List.cons_append]
      exact hbefore.append hback
  · have hname : Descends piece := ⟨hpiece, hup⟩
    rw [pushPiece_of_descends hname]
    exact .name hname .nil h

theorem leaves_remaining (rooted : Bool) (hnames : ∀ name ∈ names, isName name = true) :
    Leaves names (remaining rooted names) := by
  induction names using List.reverseRecOn with
  | nil => exact .above (by simp [remaining])
  | append_singleton names piece ih =>
    rw [remaining_concat]
    apply Leaves.pushPiece
    · exact ih fun name hin => hnames name (List.mem_append_left _ hin)
    · exact hnames piece (List.mem_append_right _ List.mem_cons_self)

/-- The name that remains last is the one at which the path ends, unless it is `..`. -/
theorem Leaves.endsAt (h : Leaves names (name :: kept)) (hup : name ≠ ['.', '.']) :
    EndsAt names name := by
  cases h with
  | above h => exact absurd (h name List.mem_cons_self) hup
  | @name before after _ _ hname hafter hbefore => exact ⟨before, after, rfl, hname, hafter⟩

theorem mem_remaining (h : name ∈ remaining rooted names) : name ∈ names := by
  have hpush (kept : List Text) (piece : Text) (hin : name ∈ pushPiece rooted kept piece) :
      name ∈ kept ∨ name = piece := by
    rw [pushPiece.eq_def] at hin
    split at hin
    · exact Or.inl hin
    · split at hin
      · exact (List.mem_cons.mp hin).symm
      · cases kept with
        | nil => cases rooted <;> simp_all
        | cons last rest =>
          dsimp only at hin
          split at hin
          · exact (List.mem_cons.mp hin).symm
          · exact Or.inl (List.mem_cons_of_mem _ hin)
  induction names using List.reverseRecOn with
  | nil => exact h
  | append_singleton names piece ih =>
    rw [remaining_concat] at h
    rcases hpush _ _ h with hin | rfl
    · exact List.mem_append_left _ (ih hin)
    · exact List.mem_append_right _ List.mem_cons_self

end Stack

/-- Pieces that name nothing do not count. -/
theorem normalNames_eq (t : Text) :
    normalNames t = (remaining (rootOf t != []) (read t).names).reverse := by
  have hfold (pieces kept : List Text) (rooted : Bool) :
      pieces.foldl (pushPiece rooted) kept =
        (pieces.filter isName).foldl (pushPiece rooted) kept := by
    induction pieces generalizing kept with
    | nil => rfl
    | cons piece rest ih =>
      by_cases hname : isName piece = true
      · rw [List.filter_cons_of_pos hname, List.foldl_cons, List.foldl_cons, ih]
      · have hskip : pushPiece rooted kept piece = kept := by
          rw [pushPiece.eq_def, if_pos (by simpa using hname)]
        rw [List.filter_cons_of_neg hname, List.foldl_cons, hskip, ih]
  rw [normalNames, hfold]
  rfl

/-- The last piece of a path text is its last name, if it has one. -/
theorem lastPiece_root_join {root : Text} {names : List Text}
    (hroot : root = [] ∨ root = ['/'] ∨ root = ['/', '/']) (hne : names ≠ [])
    (hnames : ∀ name ∈ names, '/' ∉ name) :
    lastPiece (root ++ Text.join ['/'] names) = names.getLastD [] := by
  have hcut := Text.cut_join hne hnames
  obtain ⟨first, rest, rfl⟩ := List.exists_cons_of_ne_nil hne
  rcases hroot with rfl | rfl | rfl
  · rw [List.nil_append, lastPiece, hcut]
  · rw [List.singleton_append, lastPiece, Text.cut, if_pos rfl, hcut]
    rfl
  · rw [List.cons_append, List.singleton_append, lastPiece, Text.cut, if_pos rfl, Text.cut,
      if_pos rfl, hcut]
    rfl

end Path

namespace GoSource

open HelpText.Path (EndsAt)

/-- The package name is the name that remains last. Where none remains it is `.`, or empty below a
root. -/
theorem packageName_eq (t : Text) :
    packageName t =
      (Path.remaining (Path.rootOf t != []) (Path.read t).names).headD
        (if Path.rootOf t = [] then ['.'] else []) := by
  rw [packageName, Path.normalText, Path.normalNames_eq]
  generalize hrest : Path.remaining (Path.rootOf t != []) (Path.read t).names = kept
  have hkept : ∀ name ∈ kept, Path.isName name = true ∧ '/' ∉ name := by
    intro name hin
    rw [← hrest] at hin
    exact Path.of_mem_names_read (Path.mem_remaining hin)
  cases kept with
  | nil => rcases Path.rootOf_cases t with hroot | hroot | hroot <;> rw [hroot] <;> rfl
  | cons name rest =>
    have hne : (name :: rest).reverse ≠ [] := by simp
    have hlast : Path.lastPiece (Path.rootOf t ++ Text.join ['/'] (name :: rest).reverse) =
        name := by
      rw [Path.lastPiece_root_join (Path.rootOf_cases t) hne fun other hin =>
        (hkept other (List.mem_reverse.mp hin)).2, List.reverse_cons, List.getLastD_concat]
    -- An empty text would have an empty last piece.
    have hwhole : Path.rootOf t ++ Text.join ['/'] (name :: rest).reverse ≠ [] := by
      intro hempty
      rw [hempty] at hlast
      have hname := (hkept name List.mem_cons_self).1
      rw [← hlast] at hname
      exact absurd hname (by decide)
    rw [if_neg hwhole, hlast]
    rfl

section Destinations

variable {t name : Text}

theorem packageName_read (t : Text) :
    packageName (Path.read t).text =
      (Path.remaining (Path.rootOf t != []) (Path.read t).names).headD
        (if Path.rootOf t = [] then ['.'] else []) := by
  have hroot : Path.rootOf (Path.read t).text = Path.rootOf t :=
    congrArg Path.root (Path.read_text t)
  rw [packageName_eq, Path.read_text, hroot]

theorem packageName_of_endsAt (h : EndsAt (Path.read t).names name) :
    packageName (Path.read t).text = name := by
  obtain ⟨kept, hkept⟩ := h.remaining_eq (Path.rootOf t != [])
  rw [packageName_read, hkept]
  rfl

theorem slash_not_mem_packageName (t : Text) : '/' ∉ packageName (Path.read t).text := by
  rw [packageName_read]
  cases hrest : Path.remaining (Path.rootOf t != []) (Path.read t).names with
  | nil => split <;> decide
  | cons name kept =>
    have hin : name ∈ Path.remaining (Path.rootOf t != []) (Path.read t).names := by
      rw [hrest]
      exact List.mem_cons_self
    exact (Path.of_mem_names_read (Path.mem_remaining hin)).2

/-- A package name that names something comes from a name on the path. -/
theorem exists_endsAt (hne : packageName (Path.read t).text ≠ [])
    (hhere : packageName (Path.read t).text ≠ ['.'])
    (habove : packageName (Path.read t).text ≠ ['.', '.']) :
    ∃ name, EndsAt (Path.read t).names name := by
  have hnames : ∀ name ∈ (Path.read t).names, Path.isName name = true :=
    fun name hin => (Path.of_mem_names_read hin).1
  have hleaves := Path.leaves_remaining (Path.rootOf t != []) hnames
  rw [packageName_read] at hne hhere habove
  cases hrest : Path.remaining (Path.rootOf t != []) (Path.read t).names with
  | nil =>
    rw [hrest] at hne hhere
    by_cases hrooted : Path.rootOf t = []
    · exact absurd (if_pos hrooted) hhere
    · exact absurd (if_neg hrooted) hne
  | cons name kept =>
    rw [hrest] at hleaves habove
    exact ⟨name, hleaves.endsAt habove⟩

end Destinations

/-- The package name never holds a slash. It names something exactly if the destination ends at a
name, and then it is that name. -/
theorem packageName_names_iff (t : Text) :
    '/' ∉ packageName (Path.read t).text ∧
    ((packageName (Path.read t).text ≠ [] ∧ packageName (Path.read t).text ≠ ['.'] ∧
        packageName (Path.read t).text ≠ ['.', '.']) ↔
      ∃ name, EndsAt (Path.read t).names name) ∧
    ∀ name, EndsAt (Path.read t).names name → packageName (Path.read t).text = name := by
  refine ⟨slash_not_mem_packageName t, ?_, fun name h => packageName_of_endsAt h⟩
  constructor
  · rintro ⟨hne, hhere, habove⟩
    exact exists_endsAt hne hhere habove
  · rintro ⟨name, h⟩
    rw [packageName_of_endsAt h]
    obtain ⟨before, after, -, hname, -⟩ := h
    obtain ⟨hne, hhere⟩ := (Path.isName_iff name).mp hname.1
    exact ⟨hne, hhere, hname.2⟩

/-- A name behind which the path goes down and comes back is the package name. -/
example : EndsAt (Path.read (.of "a/./b/c//../d/..")).names (.of "b") :=
  ⟨[.of "a"], [.of "c", .of "..", .of "d", .of ".."], by decide, by decide,
    .back (by decide) .nil (.back (by decide) .nil .nil)⟩

/-- The current directory, the one above it and the root give the package no name; neither does a
way back out of a link, wherever it leads. -/
theorem packageName_of_nameless :
    packageName (Path.read (.of ".")).text = .of "." ∧
    packageName (Path.read (.of "..")).text = .of ".." ∧
    packageName (Path.read (.of "/")).text = [] ∧
    packageName (Path.read (.of "l/..")).text = .of "." ∧
    ¬∀ t, packageName (Path.read t).text ≠ [] ∧ packageName (Path.read t).text ≠ ['.'] ∧
      packageName (Path.read t).text ≠ ['.', '.'] := by
  have hhere : packageName (Path.read (.of ".")).text = .of "." := by decide
  refine ⟨hhere, by decide, by decide, by decide, ?_⟩
  intro hall
  exact (hall (.of ".")).2.1 hhere

end GoSource

end HelpText
