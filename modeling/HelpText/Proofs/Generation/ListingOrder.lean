import HelpText.Proofs.FileSystem.Listing
import HelpText.Proofs.FileSystem.Relisting
import HelpText.Proofs.Generation.Correspondence
import HelpText.Proofs.Generation.Inputs
import HelpText.Proofs.Generation.Rerun
import HelpText.Proofs.Generation.Selection

/-!
The order in which a directory is listed. Main statement: where documents are sorted, neither their
order nor anything that a run does depends on it.
-/

namespace HelpText

namespace FileSystem

/-- Of every entry of the directory that a path leads to one can tell whether it is a file. -/
def Examinable (fs : FileSystem) (directory : Path) : Prop :=
  ∀ location mode, fs.resolve true directory = .ok (.occupied location (.directory mode)) →
    ∀ name ∈ fs.namesIn location, ∃ isFile, fs.entryIsFile location directory name = .ok isFile

variable {fs : FileSystem} {order : List Text → List Text}
  {horder : ∀ names, (order names).Perm names} {directory : Path}

/-- The same files are listed, in another order; and where nothing can be listed the fault is the
same. -/
theorem listFiles_relisted (hexamined : fs.Examinable directory) :
    (∃ listing listing', fs.listFiles directory = .ok listing ∧
      (fs.relisted order horder).listFiles directory = .ok listing' ∧ listing'.Perm listing) ∨
    ∃ fault, fs.listFiles directory = .error fault ∧
      (fs.relisted order horder).listFiles directory = .error fault := by
  cases hresolve : fs.resolve true directory with
  | error fault =>
    exact Or.inr ⟨fault, by rw [listFiles, hresolve], by rw [listFiles, resolve_relisted, hresolve]⟩
  | ok place =>
    rcases place with ⟨location, content | mode | target⟩ | _
    · exact Or.inr ⟨_, by rw [listFiles, hresolve], by rw [listFiles, resolve_relisted, hresolve]⟩
    · have hperm : ((fs.relisted order horder).namesIn location).Perm (fs.namesIn location) :=
        namesIn_relisted_perm location
      have hall := hexamined location mode hresolve
      have hall' : ∀ name ∈ (fs.relisted order horder).namesIn location, ∃ isFile,
          (fs.relisted order horder).entryIsFile location directory name = .ok isFile := by
        intro name hname
        rw [entryIsFile_relisted]
        exact hall name (hperm.mem_iff.mp hname)
      refine Or.inl ⟨_, _, (listFiles_eq_ok_iff _ _ _).mpr ⟨location, mode, hresolve, hall, rfl⟩,
        (listFiles_eq_ok_iff _ _ _).mpr ⟨location, mode, ?_, hall', rfl⟩, ?_⟩
      · rw [resolve_relisted, hresolve]
      · simp only [entryIsFile_relisted]
        exact (hperm.filter _).map _
    · exact Or.inr ⟨_, by rw [listFiles, hresolve], by rw [listFiles, resolve_relisted, hresolve]⟩
    · exact Or.inr ⟨_, by rw [listFiles, hresolve], by rw [listFiles, resolve_relisted, hresolve]⟩

/-- Every listed path is that of an entry, so its name tells it from the others. -/
theorem eq_of_name_eq {listing : List Path} (h : fs.listFiles directory = .ok listing) :
    ∀ a ∈ listing, ∀ b ∈ listing, a.name = b.name → a = b := by
  obtain ⟨location, mode, -, -, rfl⟩ := (listFiles_eq_ok_iff _ _ _).mp h
  intro a ha b hb hname
  obtain ⟨name, -, rfl⟩ := List.mem_map.mp ha
  obtain ⟨other, -, rfl⟩ := List.mem_map.mp hb
  rw [name_entryPath, name_entryPath] at hname
  rw [hname]

end FileSystem

open FileSystem (Examinable)

section Stages

variable {fs : FileSystem} {order : List Text → List Text}
  {horder : ∀ names, (order names).Perm names}

/-- Sorted documents are the same in any order of the listing, up to the first that cannot be read.
-/
theorem Source.load_relisted {directory : Path} (hexamined : fs.Examinable directory)
    (extension : Text) :
    load (fs.relisted order horder) directory extension true =
      load fs directory extension true := by
  rw [load, load, discover, discover]
  have hlistings := @FileSystem.listFiles_relisted fs order horder directory hexamined
  rcases hlistings with
    ⟨listing, listing', hlisting, hlisting', hperm⟩ | ⟨fault, hfault, hfault'⟩
  · have hchosen : select extension true listing' = select extension true listing :=
      select_perm (hperm.filter _) (FileSystem.eq_of_name_eq hlisting)
    simp only [hlisting, hlisting', hchosen]
    exact readAll_congr fun path _ => FileSystem.readText_relisted path
  · simp only [hfault, hfault']

theorem License.resolve_relisted (choice : Option Text) :
    resolve (fs.relisted order horder) choice = resolve fs choice := by
  rw [resolve_eq, resolve_eq]
  cases License.asked choice with
  | none => rfl
  | some path =>
    have hexpand : (fs.relisted order horder).expandHome path = fs.expandHome path := rfl
    simp only [hexpand, License.read, FileSystem.readText_relisted]

namespace Output

theorem prepare_relisted (directory : Path) :
    prepare (fs.relisted order horder) directory =
      ((prepare fs directory).1.relisted order horder, (prepare fs directory).2) := by
  simp only [prepare, FileSystem.pathExists, FileSystem.test_relisted,
    FileSystem.makePath_relisted]
  rcases fs.test (fun _ => true) directory with fault | _ | _
  · rfl
  · rcases fs.makePath false directoryMode directory with ⟨made, _ | fault⟩ <;> rfl
  · rfl

theorem put_relisted (target : Path) (mode : Nat) (text : Text) :
    put (fs.relisted order horder) target mode text =
      ((put fs target mode text).1.relisted order horder, (put fs target mode text).2) := by
  simp only [put, FileSystem.pathExists, FileSystem.test_relisted, FileSystem.writeFile_relisted]
  rcases fs.test (fun _ => true) target with fault | existed
  · rfl
  · rcases fs.writeFile target (Utf8.encode text) with fault | written
    · rfl
    · cases existed with
      | true => rfl
      | false =>
        simp only [Except.map, FileSystem.setMode_relisted, Bool.false_eq_true, ↓reduceIte]
        rcases written.setMode target mode with fault | finished <;> rfl

/-- The generated file is written alike. -/
theorem write_relisted (directory : Path) (name : Text) (mode : Nat) (text : Text) :
    write (fs.relisted order horder) directory name mode text =
      ((write fs directory name mode text).1.relisted order horder,
        (write fs directory name mode text).2) := by
  rw [write, write, prepare_relisted]
  rcases prepare fs directory with ⟨made, stop | _⟩
  · rfl
  · exact put_relisted _ _ _

end Output

end Stages

namespace Generation

open FileSystem (placesOf mem_placesOf_iff)

/-- A run with sorted documents does the same whatever order the directories are listed in. -/
theorem run_relisted {settings : Settings} (hsort : settings.sort = true) {s : Journal}
    (hexamined : s.files.Examinable settings.source) (order : List Text → List Text)
    (horder : ∀ names, (order names).Perm names) :
    run journal settings { s with files := s.files.relisted order horder } =
      ((run journal settings s).1,
        { files := (run journal settings s).2.files.relisted order horder
          events := (run journal settings s).2.events }) := by
  -- Until something is written the files are the same two in every stage; from then on they are
  -- whatever the one run has written and the same in the other order.
  let R (first second : Journal) : Prop :=
    second.files = s.files ∧ first.files = s.files.relisted order horder ∧
      first.events = second.events
  let R' (first second : Journal) : Prop :=
    first = { second with files := second.files.relisted order horder }
  have hreads : ReadsAlike journal settings R := by
    refine ⟨?_, ?_, ?_⟩
    · rintro first second event ⟨hsecond, hfirst, hevents⟩
      exact ⟨hsecond, hfirst, congrArg (· ++ [event]) hevents⟩
    · rintro first second ⟨hsecond, hfirst, -⟩
      change Source.load first.files _ _ _ = _
      rw [hfirst, hsecond, hsort]
      exact Source.load_relisted hexamined _
    · rintro first second ⟨hsecond, hfirst, -⟩
      change License.resolve first.files _ = _
      rw [hfirst, hsecond]
      exact License.resolve_relisted _
  have hwrites : WritesAlike journal settings R R' := by
    refine ⟨?_, ?_⟩
    · rintro first second event rfl
      rfl
    · rintro first second license documents ⟨hsecond, hfirst, hevents⟩ -
      change (Output.write first.files _ _ _ _).2 = _ ∧
        ({ first with files := (Output.write first.files _ _ _ _).1 } : Journal) = _
      rw [hfirst, hsecond, Output.write_relisted, hevents]
      exact ⟨rfl, rfl⟩
  obtain ⟨hsame, hstate⟩ := run_corresponds hreads hwrites
    (s := { s with files := s.files.relisted order horder }) (t := s) ⟨rfl, rfl, rfl⟩
  refine Prod.ext hsame ?_
  rcases hstate with ⟨hsecond, hfirst, hevents⟩ | heq
  · exact congrArg₂ Journal.mk (hfirst.trans (by rw [hsecond])) hevents
  · exact heq

/-- Sorted documents do not depend on the order of a listing, be it of any paths with different
names: they stand in the order of their names, each once, while unsorted ones stand in the order of
the listing. So a run that sorts them ends alike, reports the same and leaves the same files in
whatever order its directories are listed. -/
theorem listing_order_irrelevant :
    (∀ (extension : Text) (listing listing' : List Path), (listing.map Path.name).Nodup →
      listing'.Perm listing →
        Source.select extension true listing' = Source.select extension true listing ∧
        (Source.select extension true listing).Pairwise (fun a b => a.name < b.name) ∧
        (∀ path, path ∈ Source.select extension true listing ↔
          path ∈ listing ∧ extensionOf path.name = extension) ∧
        Source.select extension false listing =
          listing.filter (fun path => extensionOf path.name = extension) ∧
        (Source.select extension true listing).Perm (Source.select extension false listing)) ∧
    ∀ (settings : Settings) (s : Journal), settings.sort = true →
      s.files.Examinable settings.source → ∀ (order : List Text → List Text)
        (horder : ∀ names, (order names).Perm names),
          run journal settings { s with files := s.files.relisted order horder } =
            ((run journal settings s).1,
              { files := (run journal settings s).2.files.relisted order horder
                events := (run journal settings s).2.events }) := by
  refine ⟨fun extension listing listing' hnames hperm => ?_,
    fun settings s hsort hexamined order horder => run_relisted hsort hexamined order horder⟩
  have happart : ∀ a ∈ listing, ∀ b ∈ listing, a.name = b.name → a = b :=
    fun a ha b hb heq => List.inj_on_of_nodup_map hnames ha hb heq
  exact ⟨Source.select_perm (hperm.filter _) happart,
    Source.pairwise_select_of_nodup extension hnames, Source.mem_select _ _ _, rfl,
    Source.select_perm_filter _ _ _⟩

/-- Two entries that give the same name, one of them a link to the third. -/
def oneNameTwice : FileSystem :=
  docsWith [(.of "x-y.md", plainDocument), (.of "notes.txt", plainDocument),
    (.of "xY.md", .link (.of "notes.txt"))] []

def listedPaths : List Path :=
  [.of "xY.md", .of "notes.txt", .of "x-y.md"].map fun name => { names := [.of "docs", name] }

theorem listing_order_irrelevant_oneNameTwice :
    (listedPaths.map Path.name).Nodup ∧ listedPaths.reverse.Perm listedPaths ∧
      Source.select (.of ".md") true listedPaths.reverse =
        Source.select (.of ".md") true listedPaths ∧
      Source.select (.of ".md") false listedPaths.reverse ≠
        Source.select (.of ".md") false listedPaths ∧
      oneNameTwice.Examinable plainSettings.source ∧
      run journal plainSettings { files := oneNameTwice.relisted List.reverse List.reverse_perm } =
        ((run journal plainSettings { files := oneNameTwice }).1,
          { files := (run journal plainSettings { files := oneNameTwice }).2.files.relisted
              List.reverse List.reverse_perm
            events := (run journal plainSettings { files := oneNameTwice }).2.events }) := by
  have hnames : (listedPaths.map Path.name).Nodup := by decide
  have hperm : listedPaths.reverse.Perm listedPaths := List.reverse_perm _
  have hexamined : oneNameTwice.Examinable plainSettings.source := by
    intro location mode hsource name hname
    have hplaces : placesOf oneNameTwice plainSettings.source = [[.of "docs"]] := by
      decide +kernel
    have hplace := (mem_placesOf_iff _ _ _).mpr ⟨_, hsource⟩
    obtain rfl := List.mem_singleton.mp (hplaces ▸ hplace)
    have hall : ∀ name ∈ oneNameTwice.namesIn [.of "docs"],
        oneNameTwice.entryIsFile [.of "docs"] plainSettings.source name = .ok true := by
      decide +kernel
    exact ⟨true, hall name hname⟩
  exact ⟨hnames, hperm, (listing_order_irrelevant.1 _ _ _ hnames hperm).1, by decide +kernel,
    hexamined, listing_order_irrelevant.2 plainSettings { files := oneNameTwice } rfl hexamined
      List.reverse List.reverse_perm⟩

end Generation

end HelpText
