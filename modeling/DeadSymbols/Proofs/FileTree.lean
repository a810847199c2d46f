import DeadSymbols.Host.FileTree
import Mathlib.Data.List.Basic

/-!
Contract: what the operations on a tree of files keep.

Making directories only adds directories at places that were free, and a failure keeps those that
were made before it. Writing a file changes one place, which is no directory: it gets the content,
or, when the storage fails, a part of it. Paths that lead to a directory lead there still, since a
walk looks at nothing but the entries on its way. A directory that was made under a path is
therefore found under that path as long as directories stay, and a file that is written into it
stands below it.

Owns: the entries after each operation, `AddsDirectories`, walks in a tree that grows.
-/

namespace DeadSymbols

/-! ### Segments of paths -/

namespace Path

section Join

variable {directory name : String}

end Join

end Path

namespace FileTree

variable {tree grown later : FileTree} {location place : Location} {entry : Entry}

/-! ### Entries -/

theorem lookup_filter_key (keep : Location → Bool) (entries : List (Location × Entry))
    (location : Location) :
    (entries.filter fun entry => keep entry.1).lookup location =
      if keep location then entries.lookup location else none := by
  induction entries with
  | nil => simp
  | cons entry rest inductionHypothesis =>
      obtain ⟨key, value⟩ := entry
      by_cases same : location = key
      · subst same
        cases kept : keep location <;> simp [kept, inductionHypothesis]
      · have different : (location == key) = false := beq_eq_false_iff_ne.mpr same
        cases kept : keep key <;> simp [kept, List.lookup_cons, different, inductionHypothesis]

theorem get?_set_same (somewhere : location ≠ []) :
    (tree.set location entry).get? location = some entry := by
  simp [get?, set, somewhere]

theorem get?_set_other {other : Location} (different : other ≠ location) :
    (tree.set location entry).get? other = tree.get? other := by
  have unequal : (other == location) = false := beq_eq_false_iff_ne.mpr different
  unfold get? set
  rw [List.lookup_cons, unequal, lookup_filter_key (fun key => decide (key ≠ location)),
    decide_eq_true different]
  rfl

theorem set_set {other : Entry} :
    (tree.set location entry).set location other = tree.set location other := by
  simp [set]

/-- What stands at the location stays, or the location was free and has got a directory. -/
def GrowsAt (tree grown : FileTree) (location : Location) : Prop :=
  grown.get? location = tree.get? location ∨
    (tree.get? location = none ∧ grown.get? location = some .directory)

theorem GrowsAt.trans (first : GrowsAt tree grown location)
    (second : GrowsAt grown later location) : GrowsAt tree later location := by
  rcases first with same | ⟨absent, added⟩
  · rw [GrowsAt, ← same]
    exact second
  · rcases second with same | ⟨absentStill, _⟩
    · exact Or.inr ⟨absent, same.trans added⟩
    · rw [absentStill] at added
      cases added

def AddsDirectories (tree grown : FileTree) : Prop := ∀ location, GrowsAt tree grown location

namespace AddsDirectories

theorem refl (tree : FileTree) : AddsDirectories tree tree := fun _ => Or.inl rfl

theorem trans (first : AddsDirectories tree grown) (second : AddsDirectories grown later) :
    AddsDirectories tree later :=
  fun location => (first location).trans (second location)

theorem set (absent : tree.get? location = none) :
    AddsDirectories tree (tree.set location .directory) := by
  intro other
  by_cases same : other = location
  · subst same
    refine Or.inr ⟨absent, get?_set_same ?_⟩
    rintro rfl
    cases absent
  · exact Or.inl (get?_set_other same)

end AddsDirectories

def KeepsDirectories (tree grown : FileTree) : Prop :=
  ∀ location, tree.get? location = some .directory → grown.get? location = some .directory

theorem KeepsDirectories.refl (tree : FileTree) : KeepsDirectories tree tree := fun _ found => found

theorem AddsDirectories.keeps (adds : AddsDirectories tree grown) :
    KeepsDirectories tree grown := by
  intro location found
  rcases adds location with same | ⟨_, added⟩
  · exact same.trans found
  · exact added

theorem KeepsDirectories.trans (first : KeepsDirectories tree grown)
    (second : KeepsDirectories grown later) : KeepsDirectories tree later :=
  fun location found => second location (first location found)

theorem KeepsDirectories.set (replaced : tree.get? location ≠ some .directory) :
    KeepsDirectories tree (tree.set location entry) := by
  intro other found
  rw [get?_set_other]
  · exact found
  · rintro rfl
    exact replaced found

/-! ### Walks -/

/-- The segment names an entry, and does not stand for the directory itself or the one above. -/
def IsName (segment : List Char) : Prop :=
  segment ≠ [] ∧ segment ≠ ['.'] ∧ segment ≠ ['.', '.']

section Walks

variable {segment : List Char}

theorem step_blank (found : tree.get? location = some .directory) :
    tree.step location [] = .ok location := by
  simp [step, found]

theorem step_name (found : tree.get? location = some .directory) (named : IsName segment) :
    tree.step location segment =
      if (tree.get? (location ++ [String.ofList segment])).isSome then
        .ok (location ++ [String.ofList segment])
      else .error .notFound := by
  obtain ⟨notBlank, notHere, notUp⟩ := named
  simp [step, found, notBlank, notHere, notUp]

theorem step_unnamed (found : tree.get? location = some .directory) (unnamed : ¬IsName segment) :
    tree.step location segment =
      .ok (if segment = ['.', '.'] then location.dropLast else location) := by
  by_cases blank : segment = []
  · simp [blank, step_blank found]
  · by_cases here : segment = ['.']
    · simp [step, found, here]
    · have up : segment = ['.', '.'] := by
        by_contra notUp
        exact unnamed ⟨blank, here, notUp⟩
      simp [step, found, up]

theorem directory_of_step (leads : tree.step location segment = .ok place) :
    tree.get? location = some .directory := by
  unfold step at leads
  cases found : tree.get? location with
  | none => simp [found] at leads
  | some entry => cases entry <;> simp_all

/-- A step that leads to a directory leads there still. -/
theorem KeepsDirectories.step (keeps : KeepsDirectories tree grown)
    (leads : tree.step location segment = .ok place) (found : tree.get? place = some .directory) :
    grown.step location segment = .ok place := by
  have here := directory_of_step leads
  by_cases named : IsName segment
  · rw [step_name here named] at leads
    rw [step_name (keeps _ here) named]
    split_ifs at leads
    cases leads
    simp [keeps _ found]
  · rw [step_unnamed (keeps _ here) named, ← step_unnamed here named]
    exact leads

theorem walk_cons_eq_ok {later : List (List Char)} :
    tree.walk location (segment :: later) = .ok place ↔
      ∃ next, tree.step location segment = .ok next ∧ tree.walk next later = .ok place := by
  unfold walk
  rw [List.foldlM_cons]
  cases tree.step location segment with
  | error error => simp [bind, Except.bind]
  | ok next => simp [bind, Except.bind]

theorem walk_append_eq_ok {first second : List (List Char)} :
    tree.walk location (first ++ second) = .ok place ↔
      ∃ next, tree.walk location first = .ok next ∧ tree.walk next second = .ok place := by
  induction first generalizing location with
  | nil => simp [walk, pure, Except.pure]
  | cons segment rest inductionHypothesis =>
      simp only [List.cons_append, walk_cons_eq_ok, inductionHypothesis]
      constructor
      · rintro ⟨next, stepped, there, walked, onward⟩
        exact ⟨there, ⟨next, stepped, walked⟩, onward⟩
      · rintro ⟨there, ⟨next, stepped, walked⟩, onward⟩
        exact ⟨next, stepped, there, walked, onward⟩

/-- A walk to a directory goes through directories only. -/
theorem directory_of_walk {segments : List (List Char)}
    (leads : tree.walk location segments = .ok place) (found : tree.get? place = some .directory) :
    tree.get? location = some .directory := by
  cases segments with
  | nil =>
      cases leads
      exact found
  | cons segment later =>
      obtain ⟨next, stepped, _⟩ := walk_cons_eq_ok.mp leads
      exact directory_of_step stepped

theorem KeepsDirectories.walk (keeps : KeepsDirectories tree grown) {segments : List (List Char)}
    (leads : tree.walk location segments = .ok place) (found : tree.get? place = some .directory) :
    grown.walk location segments = .ok place := by
  induction segments generalizing location with
  | nil => exact leads
  | cons segment later inductionHypothesis =>
      obtain ⟨next, stepped, walked⟩ := walk_cons_eq_ok.mp leads
      refine walk_cons_eq_ok.mpr ⟨next, keeps.step stepped ?_, inductionHypothesis walked⟩
      exact directory_of_walk walked found

/-- Slashes behind a directory's name lead to the directory. -/
theorem walk_blanks {blanks : List (List Char)} (blank : ∀ segment ∈ blanks, segment = [])
    (found : tree.get? location = some .directory) : tree.walk location blanks = .ok location := by
  induction blanks with
  | nil => rfl
  | cons segment later inductionHypothesis =>
      obtain ⟨rfl, others⟩ := List.forall_mem_cons.mp blank
      exact walk_cons_eq_ok.mpr ⟨location, step_blank found, inductionHypothesis others⟩

end Walks

/-! ### Targets -/

section Targets

variable {workDir : Location} {path : String} {slashed : Bool}

/-- The last name of a path stands at a place: what is before it leads to the directory there. -/
structure Names (tree : FileTree) (workDir : Location) (path : String) (place : Location) :
    Prop where
  nonempty : path.isEmpty = false
  plain : path.toList.contains '\x00' = false
  spelled : ∃ before last blanks directory,
    Path.segments path.toList = before ++ last :: blanks ∧ IsName last ∧
      (∀ segment ∈ blanks, segment = []) ∧
      tree.walk (origin workDir path) before = .ok directory ∧
      tree.get? directory = some .directory ∧ place = directory ++ [String.ofList last]

theorem Names.ne_nil (names : Names tree workDir path place) : place ≠ [] := by
  obtain ⟨before, last, blanks, directory, _, _, _, _, _, rfl⟩ := names.spelled
  simp

/-- A directory that was made under a path is found under it as long as directories stay. -/
theorem Names.resolve (names : Names tree workDir path place)
    (keeps : KeepsDirectories tree grown) (made : grown.get? place = some .directory) :
    grown.resolve workDir path = .ok place := by
  obtain ⟨before, last, blanks, directory, spelled, named, blank, walked, found, rfl⟩ :=
    names.spelled
  have there : grown.step directory last = .ok (directory ++ [String.ofList last]) := by
    rw [step_name (keeps _ found) named, made]
    rfl
  have arrives : grown.walk (origin workDir path) (Path.segments path.toList) =
      .ok (directory ++ [String.ofList last]) := by
    rw [spelled, walk_append_eq_ok]
    refine ⟨directory, keeps.walk walked found, ?_⟩
    exact walk_cons_eq_ok.mpr ⟨_, there, walk_blanks blank made⟩
  rw [FileTree.resolve, names.nonempty, names.plain]
  exact arrives

theorem readText_of_file {text : String}
    (found : tree.entryAt workDir path = .ok (.file text.toUTF8)) :
    tree.readText workDir path = .ok text := by
  have valid : text.toUTF8.IsValidUTF8 := text.isValidUTF8
  have decoded : String.fromUTF8? text.toUTF8 = some text := dif_pos valid
  simp only [readText, read, Entry.content, found, bind, Except.bind, pure, Except.pure, decoded]

section Changes

variable {storage : Storage} {content : ByteArray}

theorem makeDirectory_eq_ok (made : tree.makeDirectory storage workDir path = .ok grown) :
    ∃ place slashed, tree.target workDir path = .ok (.named place slashed) ∧
      tree.get? place = none ∧ grown = tree.set place .directory := by
  unfold makeDirectory at made
  cases targeted : tree.target workDir path with
  | error error => simp [targeted, bind, Except.bind] at made
  | ok target =>
      cases target with
      | unnamed => simp [targeted, bind, Except.bind] at made
      | named place slashed =>
          simp only [targeted, bind, Except.bind, pure, Except.pure] at made
          split at made
          · cases made
          · cases made
          · rename_i absent _
            exact ⟨place, slashed, rfl, absent, (Except.ok.inj made).symm⟩

theorem openEmpty_eq_ok {opened : FileTree}
    (done : tree.openEmpty storage workDir path = .ok (place, opened)) :
    tree.target workDir path = .ok (.named place false) ∧ tree.get? place ≠ some .directory ∧
      opened = tree.set place (.file .empty) := by
  unfold openEmpty at done
  cases targeted : tree.target workDir path with
  | error error => simp [targeted, bind, Except.bind] at done
  | ok target =>
      cases target with
      | unnamed => simp [targeted, bind, Except.bind] at done
      | named location slashed =>
          cases slashed with
          | true => simp [targeted, bind, Except.bind] at done
          | false =>
              simp only [targeted, bind, Except.bind, pure, Except.pure] at done
              split at done
              · cases done
              · cases done
              · rename_i notDirectory _
                obtain ⟨rfl, rfl⟩ := Prod.mk.inj (Except.ok.inj done)
                exact ⟨rfl, notDirectory, rfl⟩

/-- A file that is open takes the content, or the part of it with which the storage fails. -/
theorem fill_cases (storage : Storage) (tree : FileTree) (place : Location) (content : ByteArray) :
    tree.fill storage place content = (.ok (), tree.set place (.file content)) ∨
      ∃ size cause, storage place = some (.short size cause) ∧ size < content.size ∧
        tree.fill storage place content =
          (.error cause, tree.set place (.file (content.extract 0 size))) := by
  unfold fill
  split
  · rename_i size cause obstacle
    by_cases fits : content.size ≤ size
    · exact Or.inl (if_pos fits)
    · exact Or.inr ⟨size, cause, obstacle, Nat.lt_of_not_le fits, if_neg fits⟩
  · exact Or.inl rfl

/-- A write changes nothing when the file cannot be opened. Otherwise the file has the content, or
the part of it with which the storage fails. -/
theorem write_cases (storage : Storage) (tree : FileTree) (workDir : Location) (path : String)
    (content : ByteArray) :
    (∃ error, tree.write storage workDir path content = (.error error, tree)) ∨
      ∃ place, tree.target workDir path = .ok (.named place false) ∧
        tree.get? place ≠ some .directory ∧
        (tree.write storage workDir path content = (.ok (), tree.set place (.file content)) ∨
          ∃ size cause, storage place = some (.short size cause) ∧ size < content.size ∧
            tree.write storage workDir path content =
              (.error cause, tree.set place (.file (content.extract 0 size)))) := by
  unfold write
  cases done : tree.openEmpty storage workDir path with
  | error error => exact Or.inl ⟨error, rfl⟩
  | ok result =>
      obtain ⟨place, opened⟩ := result
      obtain ⟨targeted, replaced, rfl⟩ := openEmpty_eq_ok done
      have filled := fill_cases storage (tree.set place (.file .empty)) place content
      simp only [set_set] at filled
      exact Or.inr ⟨place, targeted, replaced, filled⟩

theorem write_eq_ok (written : tree.write storage workDir path content = (.ok (), grown)) :
    ∃ place, tree.target workDir path = .ok (.named place false) ∧
      tree.get? place ≠ some .directory ∧ grown = tree.set place (.file content) := by
  rcases write_cases storage tree workDir path content with
    ⟨error, failed⟩ | ⟨place, targeted, replaced, wrote | ⟨_, _, _, _, failed⟩⟩
  · cases written.symm.trans failed
  · cases written.symm.trans wrote
    exact ⟨place, targeted, replaced, rfl⟩
  · cases written.symm.trans failed

end Changes

end Targets

end FileTree

end DeadSymbols
