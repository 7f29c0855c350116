import HelpText.Source
import Mathlib.Data.List.Sort

/-!
Which files of a listing are documents, and in which order. Main statements: sorted files stand in
the order of their names, and that order does not depend on how they were listed.
-/

namespace HelpText

namespace Source

variable {extension : Text} {listing listing' : List Path}

/-- Sorted or not, the chosen files are those with the extension. -/
theorem select_perm_filter (extension : Text) (sort : Bool) (listing : List Path) :
    (select extension sort listing).Perm
      (listing.filter fun path => extensionOf path.name = extension) := by
  cases sort with
  | true => exact List.mergeSort_perm _ _
  | false => exact .refl _

/-- Sorted files stand in the order of their names. -/
theorem pairwise_select (extension : Text) (listing : List Path) :
    (select extension true listing).Pairwise fun a b => ¬b.name < a.name := by
  have hle (a b : Path) : (!decide (b.name < a.name)) = true ↔ ¬b.name < a.name := by
    rw [Bool.not_eq_true', decide_eq_false_iff_not]
  have htrans (a b c : Path) (hab : (!decide (b.name < a.name)) = true)
      (hbc : (!decide (c.name < b.name)) = true) : (!decide (c.name < a.name)) = true := by
    have hac :=
      List.le_trans (List.not_lt.mp ((hle a b).mp hab)) (List.not_lt.mp ((hle b c).mp hbc))
    exact (hle a c).mpr (List.not_lt.mpr hac)
  have htotal (a b : Path) :
      (!decide (b.name < a.name) || !decide (a.name < b.name)) = true := by
    rw [Bool.or_eq_true, hle, hle]
    exact (List.le_total a.name b.name).imp List.not_lt.mpr List.not_lt.mpr
  exact (List.pairwise_mergeSort htrans htotal _).imp fun {a b} h => (hle a b).mp h

/-- No two files of one name are sorted strictly. -/
theorem pairwise_select_of_nodup (extension : Text) (hnames : (listing.map Path.name).Nodup) :
    (select extension true listing).Pairwise fun a b => a.name < b.name := by
  have hchosen : ((listing.filter fun path => extensionOf path.name = extension).map
      Path.name).Nodup :=
    hnames.sublist (List.filter_sublist.map Path.name)
  have hapart : ((select extension true listing).map Path.name).Nodup :=
    ((select_perm_filter extension true listing).map Path.name).nodup_iff.mpr hchosen
  refine (pairwise_select extension listing).imp₂ ?_ (List.pairwise_map.mp hapart)
  intro a b hle hne
  exact (List.le_iff_lt_or_eq.mp (List.not_lt.mp hle)).resolve_right hne

/-- Files are chosen in the order of their names, whatever order they are listed in. -/
theorem select_perm
    (hperm : (listing'.filter fun path => extensionOf path.name = extension).Perm
      (listing.filter fun path => extensionOf path.name = extension))
    (hnames : ∀ a ∈ listing, ∀ b ∈ listing, a.name = b.name → a = b) :
    select extension true listing' = select extension true listing := by
  have hmem {path : Path} (h : path ∈ select extension true listing) : path ∈ listing :=
    ((mem_select _ _ _ _).mp h).1
  have hsame : (select extension true listing').Perm (select extension true listing) :=
    (select_perm_filter _ _ _).trans (hperm.trans (select_perm_filter _ _ _).symm)
  -- Two sorted lists of the same files agree, since only one file has any given name.
  refine hsame.eq_of_pairwise ?_ (pairwise_select _ _) (pairwise_select _ _)
  intro a b ha hb hab hba
  have hname : a.name = b.name := List.le_antisymm (List.not_lt.mp hab) (List.not_lt.mp hba)
  exact hnames a (hmem (hsame.mem_iff.mp ha)) b (hmem hb) hname

end Source

end HelpText
