import HelpText.Proofs.FileSystem.Writing

/-!
The way a path takes. `Walk` says step by step how pieces are followed and which locations are
looked up; following a path is taking its walk. Main statement: where the locations of a walk look
alike in two file systems, the path leads to the same place in both.
-/

namespace HelpText

namespace FileSystem

variable {fs fs' : FileSystem} {followLast : Bool} {links : Nat} {here : Location}
  {pieces : List Text} {seen : List Location} {result : Except Cause Place}

/-- A piece that is looked up as a name. -/
structure IsPlain (piece : Text) : Prop where
  isName : Path.isName piece = true
  not_up : piece ≠ ['.', '.']
  short : (Utf8.encode piece).length ≤ maxNameLength

/-- The directory from which the target of a link is followed. -/
def linkStart (here : Location) (target : Text) : Location :=
  if Path.rootOf target = [] then here else []

/-- How `pieces` are followed from `here` through at most so many links, which locations are looked
up, and where that ends. -/
inductive Walk (fs : FileSystem) (followLast : Bool) :
    Nat → Location → List Text → List Location → Except Cause Place → Prop
  | arrived {links : Nat} {here : Location} {entry : Entry} (h : fs.entryAt here = some entry) :
      Walk fs followLast links here [] [here] (.ok (.occupied here entry))
  | lost {links : Nat} {here : Location} (h : fs.entryAt here = none) :
      Walk fs followLast links here [] [here] (.error .notFound)
  | skipped {links : Nat} {here : Location} {piece : Text} {rest : List Text}
      {seen : List Location} {result : Except Cause Place} (hname : Path.isName piece = false)
      (h : Walk fs followLast links here rest seen result) :
      Walk fs followLast links here (piece :: rest) seen result
  | up {links : Nat} {here : Location} {rest : List Text} {seen : List Location}
      {result : Except Cause Place} (h : Walk fs followLast links here.dropLast rest seen result) :
      Walk fs followLast links here (['.', '.'] :: rest) seen result
  | tooLong {links : Nat} {here : Location} {piece : Text} {rest : List Text}
      (hname : Path.isName piece = true) (hup : piece ≠ ['.', '.'])
      (hlong : maxNameLength < (Utf8.encode piece).length) :
      Walk fs followLast links here (piece :: rest) [] (.error .nameTooLong)
  | free {links : Nat} {here : Location} {piece : Text} {rest : List Text} (hpiece : IsPlain piece)
      (hentry : fs.entryAt (here ++ [piece]) = none) (hrest : rest.all List.isEmpty = true) :
      Walk fs followLast links here (piece :: rest) [here ++ [piece]]
        (.ok (.free (here ++ [piece]) (rest != [])))
  | missing {links : Nat} {here : Location} {piece : Text} {rest : List Text}
      (hpiece : IsPlain piece) (hentry : fs.entryAt (here ++ [piece]) = none)
      (hrest : rest.all List.isEmpty = false) :
      Walk fs followLast links here (piece :: rest) [here ++ [piece]] (.error .notFound)
  | entered {links : Nat} {here : Location} {piece : Text} {rest : List Text} {mode : Nat}
      {seen : List Location} {result : Except Cause Place} (hpiece : IsPlain piece)
      (hentry : fs.entryAt (here ++ [piece]) = some (.directory mode))
      (h : Walk fs followLast links (here ++ [piece]) rest seen result) :
      Walk fs followLast links here (piece :: rest) ((here ++ [piece]) :: seen) result
  | file {links : Nat} {here : Location} {piece : Text} {content : List UInt8} {mode : Nat}
      (hpiece : IsPlain piece) (hentry : fs.entryAt (here ++ [piece]) = some (.file content mode)) :
      Walk fs followLast links here [piece] [here ++ [piece]]
        (.ok (.occupied (here ++ [piece]) (.file content mode)))
  | blocked {links : Nat} {here : Location} {piece : Text} {rest : List Text}
      {content : List UInt8} {mode : Nat} (hpiece : IsPlain piece)
      (hentry : fs.entryAt (here ++ [piece]) = some (.file content mode)) (hrest : rest ≠ []) :
      Walk fs followLast links here (piece :: rest) [here ++ [piece]] (.error .notDirectory)
  | kept {links : Nat} {here : Location} {piece target : Text} (hpiece : IsPlain piece)
      (hentry : fs.entryAt (here ++ [piece]) = some (.link target)) (hlast : followLast = false) :
      Walk fs followLast links here [piece] [here ++ [piece]]
        (.ok (.occupied (here ++ [piece]) (.link target)))
  | exhausted {here : Location} {piece target : Text} {rest : List Text} (hpiece : IsPlain piece)
      (hentry : fs.entryAt (here ++ [piece]) = some (.link target))
      (hfollow : rest ≠ [] ∨ followLast = true) :
      Walk fs followLast 0 here (piece :: rest) [here ++ [piece]] (.error .tooManyLinks)
  | linked {links : Nat} {here : Location} {piece target : Text} {rest : List Text}
      {seen : List Location} {result : Except Cause Place} (hpiece : IsPlain piece)
      (hentry : fs.entryAt (here ++ [piece]) = some (.link target))
      (hfollow : rest ≠ [] ∨ followLast = true)
      (h : Walk fs followLast links (linkStart here target) (Text.cut '/' target ++ rest) seen
        result) :
      Walk fs followLast (links + 1) here (piece :: rest) ((here ++ [piece]) :: seen) result

/-- The locations that are looked up where `pieces` are followed; `onward` gives those behind a
link. -/
def trailPieces (fs : FileSystem) (followLast : Bool)
    (onward : Location → List Text → List Location) : Location → List Text → List Location
  | here, [] => [here]
  | here, piece :: rest =>
    if !Path.isName piece then trailPieces fs followLast onward here rest
    else if piece = ['.', '.'] then trailPieces fs followLast onward here.dropLast rest
    else if (Utf8.encode piece).length > maxNameLength then []
    else
      (here ++ [piece]) :: match fs.entryAt (here ++ [piece]) with
        | some (.directory _) => trailPieces fs followLast onward (here ++ [piece]) rest
        | some (.link target) =>
          if rest = [] && !followLast then []
          else onward (linkStart here target) (Text.cut '/' target ++ rest)
        | _ => []

def trail (fs : FileSystem) (followLast : Bool) : Nat → Location → List Text → List Location
  | 0 => trailPieces fs followLast fun _ _ => []
  | links + 1 => trailPieces fs followLast (trail fs followLast links)

/-- The step onto a link is a walk if going on from it is one. -/
theorem walk_followPieces {through : Location → List Text → Except Cause Place}
    {onward : Location → List Text → List Location}
    (hthrough : ∀ here piece rest target, IsPlain piece →
      fs.entryAt (here ++ [piece]) = some (.link target) → (rest ≠ [] ∨ followLast = true) →
      Walk fs followLast links here (piece :: rest)
        ((here ++ [piece]) :: onward (linkStart here target) (Text.cut '/' target ++ rest))
        (through (linkStart here target) (Text.cut '/' target ++ rest)))
    (here : Location) (pieces : List Text) :
    Walk fs followLast links here pieces (trailPieces fs followLast onward here pieces)
      (followPieces fs followLast through here pieces) := by
  fun_induction followPieces fs followLast through here pieces with
  | case1 here entry hentry => exact .arrived hentry
  | case2 here hentry => exact .lost hentry
  | case3 here piece rest hname ih =>
    rw [trailPieces, if_pos hname]
    exact .skipped (by simpa using hname) ih
  | case4 here rest hname ih =>
    rw [trailPieces, if_neg hname, if_pos rfl]
    exact .up ih
  | case5 here piece rest hname hup hlong =>
    rw [trailPieces, if_neg hname, if_neg hup, if_pos hlong]
    exact .tooLong (by simpa using hname) hup hlong
  | case6 here piece rest hname hup hlong location hentry hrest =>
    rw [trailPieces, if_neg hname, if_neg hup, if_neg hlong]
    simp only [location] at hentry
    simp only [hentry]
    exact .free ⟨by simpa using hname, hup, by omega⟩ hentry hrest
  | case7 here piece rest hname hup hlong location hentry hrest =>
    rw [trailPieces, if_neg hname, if_neg hup, if_neg hlong]
    simp only [location] at hentry
    simp only [hentry]
    exact .missing ⟨by simpa using hname, hup, by omega⟩ hentry (by simpa using hrest)
  | case8 here piece rest hname hup hlong location mode hentry ih =>
    rw [trailPieces, if_neg hname, if_neg hup, if_neg hlong]
    simp only [location] at hentry ih
    simp only [hentry]
    exact .entered ⟨by simpa using hname, hup, by omega⟩ hentry ih
  | case9 here piece hname hup hlong location content mode hentry =>
    rw [trailPieces, if_neg hname, if_neg hup, if_neg hlong]
    simp only [location] at hentry
    simp only [hentry]
    exact .file ⟨by simpa using hname, hup, by omega⟩ hentry
  | case10 here piece rest hname hup hlong location content mode hentry hrest =>
    rw [trailPieces, if_neg hname, if_neg hup, if_neg hlong]
    simp only [location] at hentry
    simp only [hentry]
    exact .blocked ⟨by simpa using hname, hup, by omega⟩ hentry hrest
  | case11 here piece rest hname hup hlong location target hentry hlast =>
    rw [trailPieces, if_neg hname, if_neg hup, if_neg hlong]
    simp only [location] at hentry
    obtain ⟨rfl, rfl⟩ : rest = [] ∧ followLast = false := by simpa using hlast
    simp only [hentry]
    exact .kept ⟨by simpa using hname, hup, by omega⟩ hentry rfl
  | case12 here piece rest hname hup hlong location target hentry hlast start =>
    rw [trailPieces, if_neg hname, if_neg hup, if_neg hlong]
    simp only [location] at hentry
    have hfollow : rest ≠ [] ∨ followLast = true := by
      cases followLast <;> simp_all
    simp only [hentry, if_neg hlast]
    exact hthrough here piece rest target ⟨by simpa using hname, hup, by omega⟩ hentry hfollow

/-- Following pieces is taking their walk. -/
theorem walk_follow (fs : FileSystem) (followLast : Bool) (links : Nat) (here : Location)
    (pieces : List Text) :
    Walk fs followLast links here pieces (fs.trail followLast links here pieces)
      (fs.follow followLast links here pieces) := by
  induction links generalizing here pieces with
  | zero => exact walk_followPieces (fun _ _ _ _ => .exhausted) here pieces
  | succ links ih =>
    exact walk_followPieces (fun _ _ _ _ hpiece hentry hfollow =>
      .linked hpiece hentry hfollow (ih _ _)) here pieces

/-- There is one walk only. -/
theorem Walk.unique {seen' : List Location} {result' : Except Cause Place}
    (h : Walk fs followLast links here pieces seen result)
    (h' : Walk fs followLast links here pieces seen' result') :
    seen = seen' ∧ result = result' := by
  induction h generalizing seen' result' with
  | arrived h => cases h' <;> simp_all
  | lost h => cases h' <;> simp_all
  | skipped hname h ih =>
    cases h' with
    | skipped _ h' => exact ih h'
    | up => exact absurd hname (by decide)
    | tooLong hname' => simp_all
    | _ hpiece => simp_all [hpiece.isName]
  | up h ih =>
    cases h' with
    | skipped hname => exact absurd hname (by decide)
    | up h' => exact ih h'
    | tooLong _ hup => exact absurd rfl hup
    | _ hpiece => exact absurd rfl hpiece.not_up
  | tooLong hname hup hlong =>
    cases h' with
    | skipped hname' => simp_all
    | up => exact absurd rfl hup
    | tooLong => exact ⟨rfl, rfl⟩
    | _ hpiece => exact absurd hpiece.short (by omega)
  | entered hpiece hentry h ih =>
    cases h' with
    | skipped hname => simp_all [hpiece.isName]
    | up => exact absurd rfl hpiece.not_up
    | tooLong _ _ hlong => exact absurd hpiece.short (by omega)
    | entered _ _ h' =>
      obtain ⟨rfl, rfl⟩ := ih h'
      exact ⟨rfl, rfl⟩
    | _ => simp_all
  | linked hpiece hentry hfollow h ih =>
    cases h' with
    | skipped hname => simp_all [hpiece.isName]
    | up => exact absurd rfl hpiece.not_up
    | tooLong _ _ hlong => exact absurd hpiece.short (by omega)
    | linked _ hentry' _ h' =>
      rw [hentry] at hentry'
      cases hentry'
      obtain ⟨rfl, rfl⟩ := ih h'
      exact ⟨rfl, rfl⟩
    | _ => simp_all
  | _ hpiece hentry =>
    -- The walk ends here, and what stands here says how.
    cases h' with
    | skipped hname => simp_all [hpiece.isName]
    | up => exact absurd rfl hpiece.not_up
    | tooLong _ _ hlong => exact absurd hpiece.short (by omega)
    | _ => simp_all

theorem Walk.eq_trail (h : Walk fs followLast links here pieces seen result) :
    fs.trail followLast links here pieces = seen :=
  ((walk_follow fs followLast links here pieces).unique h).1

theorem Walk.eq_follow (h : Walk fs followLast links here pieces seen result) :
    fs.follow followLast links here pieces = result :=
  ((walk_follow fs followLast links here pieces).unique h).2

end FileSystem

end HelpText
