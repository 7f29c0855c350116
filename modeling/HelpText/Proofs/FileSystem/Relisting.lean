import HelpText.FileSystem.ReadText
import HelpText.Proofs.FileSystem.Trails

/-!
File systems that list their directories in another order. Main statement: the order shows in
listings only, so every operation by path does the same in both.
-/

namespace HelpText

namespace FileSystem

/-- The same file system with its directories listed in another order. -/
def relisted (fs : FileSystem) (order : List Text → List Text)
    (horder : ∀ names, (order names).Perm names) : FileSystem :=
  { fs with listed := order, listed_perm := horder }

variable {fs : FileSystem} {order : List Text → List Text}
  {horder : ∀ names, (order names).Perm names}

@[simp] theorem entryAt_relisted (location : Location) :
    (fs.relisted order horder).entryAt location = fs.entryAt location := rfl

/-- A path leads to the same place, since no listing is looked at on its way. -/
@[simp] theorem resolve_relisted (followLast : Bool) (path : Path) :
    (fs.relisted order horder).resolve followLast path = fs.resolve followLast path := by
  have hwalk : Walk (fs.relisted order horder) followLast maxLinks (fs.startOf path) path.names
      _ _ :=
    (walk_path fs followLast path).congr fun _ _ => rfl
  have hfollow := hwalk.eq_follow
  rw [startOf] at hfollow
  change (if _ then _ else if _ then _ else
    ((fs.relisted order horder).follow followLast maxLinks
      (if path.root = [] then fs.working else []) path.names).mapError _) = _
  rw [hfollow]
  rfl

@[simp] theorem entry?_relisted (path : Path) :
    FileSystem.entry? (fs.relisted order horder) path = fs.entry? path := by
  rw [ entry?, entry?, resolve_relisted]

@[simp] theorem test_relisted (p : Entry → Bool) (path : Path) :
    (fs.relisted order horder).test p path = fs.test p path := by
  rw [test, test, entry?_relisted]

@[simp] theorem readText_relisted (path : Path) :
    (fs.relisted order horder).readText path = fs.readText path := by
  rw [readText, readText, readFile, readFile, entry?_relisted]

@[simp] theorem entryIsFile_relisted (location : Location) (directory : Path) (name : Text) :
    (fs.relisted order horder).entryIsFile location directory name =
      fs.entryIsFile location directory name := by
  rw [entryIsFile, entryIsFile, entryAt_relisted, resolve_relisted]

/-- The names are the same in another order. -/
theorem namesIn_relisted_perm (location : Location) :
    ((fs.relisted order horder).namesIn location).Perm (fs.namesIn location) :=
  (horder _).trans (fs.listed_perm _).symm

theorem makeDirectory_relisted (mode : Nat) (path : Path) :
    (fs.relisted order horder).makeDirectory mode path =
      (fs.makeDirectory mode path).map (·.relisted order horder) := by
  rw [makeDirectory, makeDirectory, resolve_relisted]
  cases fs.resolve false path with
  | error fault => rfl
  | ok place => cases place <;> rfl

@[simp] theorem unlessDirectory_relisted (existOk : Bool) (path : Path) (fault : Fault) :
    (fs.relisted order horder).unlessDirectory existOk path fault =
      fs.unlessDirectory existOk path fault := by
  rw [unlessDirectory, unlessDirectory, test_relisted]

theorem makeDirectories_relisted (root : Text) (existOk : Bool) (mode : Nat) (names : List Text)
    (fs : FileSystem) :
    makeDirectories root existOk mode names (fs.relisted order horder) =
      ((makeDirectories root existOk mode names fs).1.relisted order horder,
        (makeDirectories root existOk mode names fs).2) := by
  induction names generalizing existOk mode fs with
  | nil =>
    simp only [makeDirectories, makeDirectory_relisted, unlessDirectory_relisted]
    cases fs.makeDirectory mode { root, names := [] } <;> rfl
  | cons last above ih =>
    simp only [makeDirectories, makeDirectory_relisted, unlessDirectory_relisted, ih]
    rcases fs.makeDirectory mode { root, names := (last :: above).reverse } with fault | made
    · rcases fault with ⟨cause, shown⟩ | _ | _
      · cases cause with
        | notFound =>
          -- What the directories above leave is listed in the other order, and goes on from there.
          simp only [Except.map]
          rcases makeDirectories root true Entry.newDirectoryMode above fs with ⟨made, _ | fault⟩
          · simp only [makeDirectory_relisted, unlessDirectory_relisted]
            rcases made.makeDirectory mode { root, names := (last :: above).reverse } with
              fault | whole
            · rcases fault with ⟨cause, shown⟩ | _ | _
              · cases cause <;> rfl
              · rfl
              · rfl
            · rfl
          · rfl
        | _ => rfl
      · rfl
      · rfl
    · rfl

theorem makePath_relisted (existOk : Bool) (mode : Nat) (path : Path) :
    (fs.relisted order horder).makePath existOk mode path =
      ((fs.makePath existOk mode path).1.relisted order horder,
        (fs.makePath existOk mode path).2) :=
  makeDirectories_relisted path.root existOk mode path.names.reverse fs

theorem writeFile_relisted (path : Path) (content : List UInt8) :
    (fs.relisted order horder).writeFile path content =
      (fs.writeFile path content).map (·.relisted order horder) := by
  rw [writeFile, writeFile, resolve_relisted]
  split <;> rfl

theorem setMode_relisted (path : Path) (mode : Nat) :
    (fs.relisted order horder).setMode path mode =
      (fs.setMode path mode).map (·.relisted order horder) := by
  have hplatform : (fs.relisted order horder).platform = fs.platform := rfl
  rw [setMode, setMode, resolve_relisted, hplatform]
  cases fs.resolve true path with
  | error fault => rfl
  | ok place =>
    cases place with
    | free => rfl
    | occupied location entry =>
      cases hfixed : fs.platform.fixesBits location with
      | true => simp only [hfixed, ↓reduceIte, Except.map]
      | false =>
        simp only [hfixed, Bool.false_eq_true, ↓reduceIte, Except.map]
        rfl

end FileSystem

end HelpText
