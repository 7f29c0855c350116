import HelpText.Proofs.GoSource.PackageName
import Mathlib.Logic.Relation

/-!
Destinations in other spellings. A slash more, a piece that stays where it is, and a detour over a
further name leave the root and the names that remain as they are. Main statement: the package name
is the same for all spellings of a destination, and whether or not it was read as a path before.
-/

namespace HelpText

namespace Path

theorem rootOf_eq_nil_iff (t : Text) : rootOf t = [] ↔ t.head? ≠ some '/' := by
  constructor
  · intro hroot hhead
    obtain ⟨rest, rfl⟩ := List.head?_eq_some_iff.mp hhead
    exact rootOf_of_slash rest hroot
  · intro hhead
    exact rootOf_append (Or.inl rfl) hhead

/-- Whether a text is rooted is seen from its beginning. -/
theorem rootOf_append_eq_nil_iff {t : Text} (h : t ≠ []) (rest : Text) :
    rootOf (t ++ rest) = [] ↔ rootOf t = [] := by
  rw [rootOf_eq_nil_iff, rootOf_eq_nil_iff, List.head?_append_of_ne_nil t h]

theorem rootOf_slash_eq_nil_iff (before after other : Text) :
    rootOf (before ++ '/' :: after) = [] ↔ rootOf (before ++ '/' :: other) = [] := by
  have hne : before ++ ['/'] ≠ [] := by simp
  have hbeginning (rest : Text) :
      rootOf (before ++ '/' :: rest) = [] ↔ rootOf (before ++ ['/']) = [] := by
    have hwhole : before ++ '/' :: rest = before ++ ['/'] ++ rest := by simp
    rw [hwhole, rootOf_append_eq_nil_iff hne]
  rw [hbeginning after, hbeginning other]

/-- At a slash the names are those before it and those behind it. -/
theorem names_read_append (before after : Text) :
    (read (before ++ '/' :: after)).names = (read before).names ++ (read after).names := by
  simp only [read, Text.cut_append_cons, List.filter_append]

theorem names_read_of_bare {name : Text} (hslash : '/' ∉ name) (hname : isName name = true) :
    (read name).names = [name] := by
  rw [read_of_bare hslash hname]

/-- What leads back makes no difference to what remains. -/
theorem remaining_append {rooted : Bool} {more : List Text} (h : Returns more)
    (names : List Text) : remaining rooted (names ++ more) = remaining rooted names := by
  rw [remaining, List.foldl_append, h.foldl_pushPiece, remaining]

end Path

namespace GoSource

/-- The package name is a matter of the names that remain and of whether the destination is rooted.
-/
theorem packageName_congr {s t : Text} (hroot : Path.rootOf t = [] ↔ Path.rootOf s = [])
    (hremaining : ∀ rooted, Path.remaining rooted (Path.read t).names =
      Path.remaining rooted (Path.read s).names) :
    packageName t = packageName s := by
  have hrooted : (Path.rootOf t != []) = (Path.rootOf s != []) := by
    rw [Bool.eq_iff_iff, bne_iff_ne, bne_iff_ne, ne_eq, ne_eq, hroot]
  rw [packageName_eq, packageName_eq, hrooted, hremaining]
  simp only [hroot]

/-- The second text is another spelling of the first destination. -/
inductive Respelled : Text → Text → Prop
  | doubled (before after : Text) :
      Respelled (before ++ '/' :: after) (before ++ '/' :: '/' :: after)
  | dotted (before after : Text) :
      Respelled (before ++ '/' :: after) (before ++ '/' :: '.' :: '/' :: after)
  | slashed (t : Text) (h : t ≠ []) : Respelled t (t ++ ['/'])
  | dottedLast (t : Text) (h : t ≠ []) : Respelled t (t ++ ['/', '.'])
  | detour (t name : Text) (h : t ≠ []) (hslash : '/' ∉ name)
      (hname : name ≠ [] ∧ name ≠ ['.'] ∧ name ≠ ['.', '.']) :
      Respelled t (t ++ '/' :: (name ++ ['/', '.', '.']))

/-- In another spelling the same names remain below the same root. -/
theorem Respelled.packageName_eq {s t : Text} (h : Respelled s t) :
    packageName t = packageName s := by
  have hempty : (Path.read []).names = [] := rfl
  have hdot : (Path.read ['.']).names = [] := rfl
  have hup : (Path.read ['.', '.']).names = [['.', '.']] := rfl
  cases h with
  | doubled before after =>
    apply packageName_congr (Path.rootOf_slash_eq_nil_iff before ('/' :: after) after)
    intro rooted
    have hnames := Path.names_read_append [] after
    rw [List.nil_append, hempty, List.nil_append] at hnames
    rw [Path.names_read_append, hnames, Path.names_read_append]
  | dotted before after =>
    apply packageName_congr (Path.rootOf_slash_eq_nil_iff before ('.' :: '/' :: after) after)
    intro rooted
    have hnames := Path.names_read_append ['.'] after
    rw [List.singleton_append, hdot, List.nil_append] at hnames
    rw [Path.names_read_append, hnames, Path.names_read_append]
  | slashed _ hne =>
    apply packageName_congr (Path.rootOf_append_eq_nil_iff hne _)
    intro rooted
    rw [Path.names_read_append, hempty, List.append_nil]
  | dottedLast _ hne =>
    apply packageName_congr (Path.rootOf_append_eq_nil_iff hne _)
    intro rooted
    rw [Path.names_read_append, hdot, List.append_nil]
  | detour _ name hne hslash hname =>
    obtain ⟨hnone, hhere, habove⟩ := hname
    have hisName : Path.isName name = true := (Path.isName_iff name).mpr ⟨hnone, hhere⟩
    have hback : Path.Returns [name, ['.', '.']] := .back ⟨hisName, habove⟩ .nil .nil
    apply packageName_congr (Path.rootOf_append_eq_nil_iff hne _)
    intro rooted
    rw [Path.names_read_append, Path.names_read_append, hup,
      Path.names_read_of_bare hslash hisName, List.singleton_append, Path.remaining_append hback]

/-- A destination has one package name, as it is written and as the path that it names, and however
often it is spelled in another way. -/
theorem packageName_respelled :
    (∀ t, packageName (Path.read t).text = packageName t) ∧
      ∀ s t, Relation.EqvGen Respelled s t → packageName t = packageName s := by
  constructor
  · intro t
    rw [packageName_read, packageName_eq]
  · intro s t h
    induction h with
    | rel s t h => exact h.packageName_eq
    | refl t => rfl
    | symm s t _ ih => exact ih.symm
    | trans s t u _ _ ih ih' => exact ih'.trans ih

/-- Two spellings that both differ from the plain one: in one there are a slash, a dot and a detour
more, in the other a slash at the end. -/
theorem packageName_respelled_bothWays :
    Relation.EqvGen Respelled (.of "..//b/./c/x/..") (.of "../b/c/") ∧
      packageName (.of "../b/c/") = packageName (.of "..//b/./c/x/..") ∧
      packageName (.of "../b/c/") = .of "c" := by
  have hdetour : Respelled (.of "..//b/./c") (.of "..//b/./c/x/..") :=
    .detour (.of "..//b/./c") ['x'] (by decide) (by decide) (by decide)
  have hdot : Respelled (.of "..//b/c") (.of "..//b/./c") := .dotted (.of "..//b") ['c']
  have hslash : Respelled (.of "../b/c") (.of "..//b/c") := .doubled (.of "..") (.of "b/c")
  have hlast : Respelled (.of "../b/c") (.of "../b/c/") := .slashed (.of "../b/c") (by decide)
  have hplain : Relation.EqvGen Respelled (.of "../b/c") (.of "..//b/./c/x/..") :=
    .trans _ _ _ (.rel _ _ hslash) (.trans _ _ _ (.rel _ _ hdot) (.rel _ _ hdetour))
  have hboth : Relation.EqvGen Respelled (.of "..//b/./c/x/..") (.of "../b/c/") :=
    .trans _ _ _ (.symm _ _ hplain) (.rel _ _ hlast)
  exact ⟨hboth, packageName_respelled.2 _ _ hboth, by decide⟩

end GoSource

end HelpText
