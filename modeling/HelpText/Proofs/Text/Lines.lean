import HelpText.Text.Lines
import Mathlib.Data.List.Basic
import Mathlib.Data.List.TakeWhile

/-!
Lines that are cut, trimmed and joined. Main statements: what trimming keeps of an ascending list,
that cutting undoes joining where no line holds a newline, and how a text is cut at a newline in
two.
-/

namespace HelpText

section Trimming

variable {α : Type} {p : α → Bool}

theorem trimBoth_sublist (p : α → Bool) (items : List α) : (trimBoth p items).Sublist items := by
  have hend : ((items.dropWhile p).reverse.dropWhile p).Sublist (items.dropWhile p).reverse :=
    List.dropWhile_sublist p
  have hboth := hend.reverse
  rw [List.reverse_reverse] at hboth
  exact hboth.trans (List.dropWhile_sublist p)

/-- The first member that trimming keeps is one that it may not drop. -/
theorem head?_trimBoth {items : List α} {a : α} (h : (trimBoth p items).head? = some a) :
    p a = false := by
  -- The front is cleared first, and what is dropped from the end leaves its first member alone.
  have hkept : trimBoth p items <+: items.dropWhile p := by
    have hsuffix := List.dropWhile_suffix p (l := (items.dropWhile p).reverse)
    have hprefix := List.reverse_prefix.mpr hsuffix
    rwa [List.reverse_reverse] at hprefix
  obtain ⟨rest, hrest⟩ := hkept
  have hfront : (items.dropWhile p).head? = some a := by
    rw [← hrest, List.head?_append, h, Option.some_or]
  have hfails := List.head?_dropWhile_not p items
  rw [hfront] at hfails
  exact hfails

/-- So is the last one. -/
theorem getLast?_trimBoth {items : List α} {a : α} (h : (trimBoth p items).getLast? = some a) :
    p a = false := by
  have hfails := List.head?_dropWhile_not p (items.dropWhile p).reverse
  rw [trimBoth, List.getLast?_reverse] at h
  rw [h] at hfails
  exact hfails

/-- What may be dropped makes no difference at either end. -/
theorem trimBoth_append_append {front behind : List α} (hfront : ∀ a ∈ front, p a = true)
    (hbehind : ∀ a ∈ behind, p a = true) (items : List α) :
    trimBoth p (front ++ items ++ behind) = trimBoth p items := by
  rw [trimBoth, List.append_assoc, List.dropWhile_append_of_pos hfront, List.dropWhile_append]
  split
  · next hnone =>
    -- If nothing of `items` is left, the end is all there is to drop.
    have hitems : items.dropWhile p = [] := List.isEmpty_iff.mp hnone
    have hrest : behind.dropWhile p = [] := List.dropWhile_eq_nil_iff.mpr hbehind
    rw [trimBoth, hitems, hrest]
  · rw [List.reverse_append, List.dropWhile_append_of_pos, trimBoth]
    exact fun a ha => hbehind a (List.mem_reverse.mp ha)

variable {r : α → α → Prop} [Std.Asymm r]

/-- In an ascending list exactly the members from the first that fails `p` on are left. -/
theorem mem_dropWhile_iff {items : List α} (h : items.Pairwise r) (a : α) :
    a ∈ items.dropWhile p ↔ a ∈ items ∧ ∃ b ∈ items, (b = a ∨ r b a) ∧ p b = false := by
  induction items with
  | nil => simp
  | cons first rest ih =>
    obtain ⟨hfirst, hrest⟩ := List.pairwise_cons.mp h
    by_cases hp : p first = true
    · rw [List.dropWhile_cons_of_pos hp, ih hrest]
      constructor
      · intro hmem
        obtain ⟨ha, b, hb, hbound, hpb⟩ := hmem
        exact ⟨List.mem_cons_of_mem _ ha, b, List.mem_cons_of_mem _ hb, hbound, hpb⟩
      · intro hmem
        obtain ⟨ha, b, hb, hbound, hpb⟩ := hmem
        -- The member that fails `p` is not the first, so neither is one that stands behind it.
        have hbrest : b ∈ rest := by
          rcases List.mem_cons.mp hb with heq | hb
          · rw [heq, hp] at hpb
            cases hpb
          · exact hb
        have harest : a ∈ rest := by
          rcases List.mem_cons.mp ha with heq | ha
          · rcases hbound with hba | hba
            · exact hba ▸ hbrest
            · exact absurd (heq ▸ hba) (Std.Asymm.asymm _ _ (hfirst b hbrest))
          · exact ha
        exact ⟨harest, b, hbrest, hbound, hpb⟩
    · rw [List.dropWhile_cons_of_neg hp]
      constructor
      · intro ha
        refine ⟨ha, first, List.mem_cons_self .., ?_, by simpa using hp⟩
        rcases List.mem_cons.mp ha with heq | ha
        · exact Or.inl heq.symm
        · exact Or.inr (hfirst a ha)
      · intro hmem
        exact hmem.1

/-- Of an ascending list trimming keeps exactly the members between two that fail `p`. -/
theorem mem_trimBoth_iff {items : List α} (h : items.Pairwise r) (a : α) :
    a ∈ trimBoth p items ↔ a ∈ items ∧ (∃ b ∈ items, (b = a ∨ r b a) ∧ p b = false) ∧
      ∃ b ∈ items, (b = a ∨ r a b) ∧ p b = false := by
  have hswap : Std.Asymm fun a b => r b a := ⟨fun a b hab => Std.Asymm.asymm b a hab⟩
  have hfront : (items.dropWhile p).Pairwise r := h.sublist (List.dropWhile_sublist p)
  have hback : (items.dropWhile p).reverse.Pairwise fun a b => r b a :=
    List.pairwise_reverse.mpr hfront
  rw [trimBoth, List.mem_reverse, mem_dropWhile_iff hback]
  simp only [List.mem_reverse, mem_dropWhile_iff h]
  constructor
  · intro hmem
    obtain ⟨⟨ha, hbefore⟩, b, ⟨hb, -⟩, hbound, hpb⟩ := hmem
    exact ⟨ha, hbefore, b, hb, hbound, hpb⟩
  · intro hmem
    obtain ⟨ha, hbefore, b, hb, hbound, hpb⟩ := hmem
    exact ⟨⟨ha, hbefore⟩, b, ⟨hb, b, hb, Or.inl rfl, hpb⟩, hbound, hpb⟩

/-- What trimming keeps of a part it keeps of the whole. -/
theorem trimBoth_subset {part whole : List α} (hpart : part.Pairwise r) (hwhole : whole.Pairwise r)
    (h : part ⊆ whole) : trimBoth p part ⊆ trimBoth p whole := by
  intro a ha
  obtain ⟨hmem, ⟨b, hb, hbefore⟩, c, hc, hbehind⟩ := (mem_trimBoth_iff hpart a).mp ha
  exact (mem_trimBoth_iff hwhole a).mpr ⟨h hmem, ⟨b, h hb, hbefore⟩, c, h hc, hbehind⟩

end Trimming

namespace Text

theorem not_mem_of_mem_cut (separator : Char) (t : Text) :
    ∀ piece ∈ cut separator t, separator ∉ piece := by
  induction t with
  | nil => simp [cut]
  | cons c rest ih =>
    by_cases hc : c = separator
    · rw [cut, if_pos hc]
      intro piece hpiece
      rcases List.mem_cons.mp hpiece with heq | hpiece
      · simp [heq]
      · exact ih piece hpiece
    · rw [cut, if_neg hc]
      cases hcut : cut separator rest with
      | nil => exact absurd hcut (cut_ne_nil separator rest)
      | cons first more =>
        rw [hcut] at ih
        intro piece hpiece
        rcases List.mem_cons.mp hpiece with heq | hpiece
        · have hfirst := ih first (List.mem_cons_self ..)
          simp [heq, hfirst, Ne.symm hc]
        · exact ih piece (List.mem_cons_of_mem _ hpiece)

/-- A text is cut in two at any of its separators, and each part by itself. -/
theorem cut_append_cons (separator : Char) (first second : Text) :
    cut separator (first ++ separator :: second) = cut separator first ++ cut separator second := by
  induction first with
  | nil => simp [cut]
  | cons c first ih =>
    by_cases hc : c = separator
    · rw [List.cons_append, cut, if_pos hc, ih, cut, if_pos hc, List.cons_append]
    · obtain ⟨piece, pieces, hcut⟩ := List.exists_cons_of_ne_nil (cut_ne_nil separator first)
      rw [List.cons_append, cut, if_neg hc, ih, cut, if_neg hc, hcut]
      rfl

theorem cut_append {separator : Char} {piece : Text} (h : separator ∉ piece) (rest : Text) :
    cut separator (piece ++ separator :: rest) = piece :: cut separator rest := by
  rw [cut_append_cons, cut_of_not_mem h, List.singleton_append]

/-- What stands before the first separator belongs to the first piece. -/
theorem cut_prefix {separator : Char} {start : Text} (h : separator ∉ start) (rest : Text) :
    ∃ piece pieces, cut separator (start ++ rest) = (start ++ piece) :: pieces := by
  induction start with
  | nil =>
    obtain ⟨piece, pieces, hcut⟩ := List.exists_cons_of_ne_nil (cut_ne_nil separator rest)
    exact ⟨piece, pieces, hcut⟩
  | cons c start ih =>
    obtain ⟨piece, pieces, hcut⟩ := ih fun hin => h (List.mem_cons_of_mem _ hin)
    have hc : c ≠ separator := fun hc => h (by simp [hc])
    refine ⟨piece, pieces, ?_⟩
    rw [List.cons_append, cut, if_neg hc, hcut]
    rfl

/-- Cutting undoes joining. -/
theorem cut_join {separator : Char} {pieces : List Text} (hne : pieces ≠ [])
    (h : ∀ piece ∈ pieces, separator ∉ piece) :
    cut separator (join [separator] pieces) = pieces := by
  induction pieces with
  | nil => exact absurd rfl hne
  | cons piece pieces ih =>
    have hpiece := h piece (List.mem_cons_self ..)
    cases pieces with
    | nil => rw [join, cut_of_not_mem hpiece]
    | cons next more =>
      have hmore := ih (by simp) fun other hother => h other (List.mem_cons_of_mem _ hother)
      rw [join, List.append_assoc, List.singleton_append, cut_append hpiece, hmore]

theorem subset_of_mem_cut {separator : Char} {t piece : Text} (h : piece ∈ cut separator t) :
    piece ⊆ t := by
  induction t generalizing piece with
  | nil =>
    rw [cut, List.mem_singleton] at h
    exact h ▸ List.Subset.refl _
  | cons c rest ih =>
    obtain ⟨first, more, hcut⟩ := List.exists_cons_of_ne_nil (cut_ne_nil separator rest)
    have hmore (other : Text) (hother : other ∈ more) : other ⊆ c :: rest :=
      List.subset_cons_of_subset _ (ih (hcut ▸ List.mem_cons_of_mem _ hother))
    have hfirst : first ⊆ rest := ih (hcut ▸ List.mem_cons_self)
    by_cases hc : c = separator
    · rw [cut, if_pos hc, hcut] at h
      rcases List.mem_cons.mp h with rfl | h
      · exact List.nil_subset _
      · rcases List.mem_cons.mp h with rfl | h
        · exact List.subset_cons_of_subset _ hfirst
        · exact hmore piece h
    · rw [cut, if_neg hc, hcut] at h
      rcases List.mem_cons.mp h with rfl | h
      · exact List.cons_subset_cons _ hfirst
      · exact hmore piece h

/-- Up to a newline every piece is a line, whether it is empty or not. -/
theorem lines_append_cons (first second : Text) :
    lines (first ++ '\n' :: second) = (cut '\n' first).map dropReturn ++ lines second := by
  have hlast : (cut '\n' first ++ cut '\n' second).getLast? = (cut '\n' second).getLast? := by
    rw [List.getLast?_append, List.getLast?_eq_some_getLast (cut_ne_nil '\n' second),
      Option.some_or]
  rw [lines, cut_append_cons, lines, dropLastEmpty, dropLastEmpty, hlast]
  split
  · rw [List.dropLast_append_of_ne_nil (cut_ne_nil '\n' second), List.map_append]
  · rw [List.map_append]

/-- The pieces of a text are its lines, and an empty one behind them if the text ends in a newline
or is empty. -/
theorem map_dropReturn_cut (t : Text) :
    (cut '\n' t).map dropReturn = lines t ∨ (cut '\n' t).map dropReturn = lines t ++ [[]] := by
  rw [lines, dropLastEmpty]
  split
  · next hlast =>
    obtain ⟨front, hfront⟩ := List.getLast?_eq_some_iff.mp hlast
    rw [hfront, List.dropLast_concat, List.map_append]
    exact Or.inr rfl
  · exact Or.inl rfl

theorem mem_join_iff {separator : Text} {c : Char} (hc : c ∉ separator) (pieces : List Text) :
    c ∈ join separator pieces ↔ ∃ piece ∈ pieces, c ∈ piece := by
  induction pieces with
  | nil => simp [join]
  | cons piece pieces ih =>
    cases pieces with
    | nil => simp [join]
    | cons next rest =>
      rw [join_cons_of_ne_nil _ _ (by simp), List.mem_append, List.mem_append, ih]
      simp [hc]

/-- A line holds no newline. -/
theorem newline_not_mem_lines (content : Text) : ∀ line ∈ lines content, '\n' ∉ line := by
  intro line hline
  obtain ⟨piece, hpiece, hdrop⟩ := List.mem_map.mp hline
  have hcut : piece ∈ cut '\n' content := by
    rw [dropLastEmpty] at hpiece
    split at hpiece
    · exact List.dropLast_subset _ hpiece
    · exact hpiece
  have hnot := not_mem_of_mem_cut '\n' content piece hcut
  rw [← hdrop, dropReturn]
  split
  · exact fun hmem => hnot (List.dropLast_subset _ hmem)
  · exact hnot

end Text

end HelpText
