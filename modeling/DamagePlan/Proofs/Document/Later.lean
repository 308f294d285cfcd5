import DamagePlan.Proofs.Document.Files

/-!
Later trees: what holds of a tree still holds after changes that take no folder away, and reading finds the same after
changes elsewhere.
-/
set_option autoImplicit false

namespace DamagePlan.Files

structure Keeps (files later : Files) : Prop where
  working : later.folder = files.folder
  folders : ∀ place, files.entryAt? place = some .folder → later.entryAt? place = some .folder
  rooted : files.Rooted → later.Rooted

structure Opens (files later : Files) : Prop extends Keeps files later where
  entries : ∀ place, later.entryAt? place = files.entryAt? place ∨
    files.entryAt? place = none ∧ later.entryAt? place = some .folder

theorem Keeps.refl (files : Files) : Keeps files files := ⟨rfl, fun _ => id, id⟩

theorem Keeps.trans {files between later : Files} (first : Keeps files between) (second : Keeps between later) :
    Keeps files later where
  working := second.working.trans first.working
  folders place stands := second.folders place (first.folders place stands)
  rooted rooted := second.rooted (first.rooted rooted)

theorem Opens.refl (files : Files) : Opens files files := { Keeps.refl files with entries := fun _ => .inl rfl }

theorem Opens.trans {files between later : Files} (first : Opens files between) (second : Opens between later) :
    Opens files later where
  toKeeps := first.toKeeps.trans second.toKeeps
  entries place := by
    rcases first.entries place with same | ⟨missing, made⟩
    · rw [← same]
      exact second.entries place
    · exact .inr ⟨missing, second.folders place made⟩

section Later

variable {files later : Files} (p : Path) (place : List String)

theorem below_root (free : files.entryAt? place ≠ some .folder) : place ≠ [] := by
  rintro rfl
  exact free rfl

-- a change at a place that is no folder; what comes to stand there has to stand in one
theorem keeps_elsewhere (free : files.entryAt? place ≠ some .folder) (working : later.folder = files.folder)
    (others : ∀ other, other ≠ place → later.entryAt? other = files.entryAt? other)
    (inside : files.Rooted → later.entryAt? place = none ∨ files.entryAt? place.dropLast = some .folder) :
    Keeps files later := by
  have folders : ∀ other, files.entryAt? other = some .folder → later.entryAt? other = some .folder := by
    intro other stands
    rwa [others other fun same => free (same ▸ stands)]
  refine ⟨working, folders, fun rooted => ⟨?_, fun above name entry stands => folders above ?_⟩⟩
  · rw [working]
    exact folders _ rooted.working
  · by_cases here : above ++ [name] = place
    · rcases inside rooted with gone | stood
      · rw [here, gone] at stands
        cases stands
      · rwa [← here, List.dropLast_concat] at stood
    · rw [others _ here] at stands
      exact rooted.above _ _ _ stands

theorem keeps_set (located : files.locate p = .ok place) (free : files.entryAt? place ≠ some .folder) (entry : Entry) :
    Keeps files (files.set place entry) := by
  refine keeps_elsewhere place free rfl (fun other apart => ?_) fun rooted => .inr (rooted.located_above p place located)
  rw [entry_set _ _ _ _ (below_root place free), if_neg apart]

theorem keeps_remove (bytes : List UInt8) (stands : files.entryAt? place = some (.file bytes)) :
    Keeps files (files.remove place) := by
  have free : files.entryAt? place ≠ some .folder := by simp [stands]
  have below := below_root place free
  refine keeps_elsewhere place free rfl (fun other apart => ?_) fun _ => .inl ?_
  · rw [entry_remove _ _ _ below, if_neg apart]
  · rw [entry_remove _ _ _ below, if_pos rfl]

theorem opens_set (located : files.locate p = .ok place) (missing : files.entryAt? place = none) :
    Opens files (files.set place .folder) where
  toKeeps := keeps_set p place located (by simp [missing]) .folder
  entries other := by
    have free : files.entryAt? place ≠ some .folder := by simp [missing]
    rw [entry_set _ _ _ _ (below_root place free)]
    split
    · rename_i same
      exact .inr ⟨same ▸ missing, rfl⟩
    · exact .inl rfl

section Kept

variable (keeps : Keeps files later)
include keeps

theorem Keeps.start : later.start p = files.start p := by rw [Files.start, Files.start, keeps.working]

theorem Keeps.follow (names : List String) : files.follow place names = .error .missing ∨
    files.follow place names = .error .notFolder ∨ later.follow place names = files.follow place names := by
  induction names generalizing place with
  | nil => exact .inr (.inr rfl)
  | cons name names ih =>
    rw [Files.follow, Files.follow]
    cases stands : files.entryAt? place with
    | none => exact .inl rfl
    | some entry =>
      cases entry with
      | file => exact .inr (.inl rfl)
      | folder =>
        -- the folder is still one, so both go on by the name alone
        simp only [keeps.folders place stands]
        split
        · exact ih _
        · split
          · exact .inr (.inr rfl)
          · exact ih _

theorem Keeps.follow_ok (names q : List String) (followed : files.follow place names = .ok q) :
    later.follow place names = .ok q := by
  rcases keeps.follow place names with lost | lost | same
  · cases lost.symm.trans followed
  · cases lost.symm.trans followed
  · exact same.trans followed

theorem Keeps.located (located : files.locate p = .ok place) : later.locate p = .ok place := by
  obtain ⟨unmarked, short, followed⟩ := (files.locate_ok p place).mp located
  exact (later.locate_ok p place).mpr ⟨unmarked, short, by rw [keeps.start]; exact keeps.follow_ok _ _ _ followed⟩

end Kept

end Later

section Child

variable {files opened later : Files} (folder : Path) (name : String) (forth : name ≠ "..")
include forth

theorem follow_child (place q : List String) : files.follow place (folder.child name).names = .ok q ↔
    ∃ above, files.follow place folder.names = .ok above ∧ files.entryAt? above = some .folder ∧
      name.utf8ByteSize ≤ maxNameSize ∧ q = above ++ [name] := by
  rw [Path.child, follow_append]
  cases files.follow place folder.names with
  | error e => simp [bind, Except.bind]
  | ok above =>
    change files.follow above [name] = .ok q ↔ _
    rw [follow_name _ _ _ _ forth]
    simp

theorem locate_child (q : List String) (located : files.locate (folder.child name) = .ok q) :
    ∃ above, files.follow (files.start folder) folder.names = .ok above ∧ files.entryAt? above = some .folder ∧
      q = above ++ [name] := by
  have followed := ((files.locate_ok _ q).mp located).2.2
  obtain ⟨above, onward, stands, -, same⟩ := (follow_child folder name forth _ _).mp followed
  exact ⟨above, onward, stands, same⟩

end Child

def Absent (files : Files) (p : Path) : Prop := ∃ e, files.read p = .error e ∧ e.kind ≠ .nameTooLong

def ReadAlike (files later : Files) (p : Path) : Prop := later.read p = files.read p ∨ files.Absent p ∧ later.Absent p

/-- The way to a folder does not come back from a folder that is missing, behind which there may be something. -/
def Direct (files : Files) (folder : Path) : Prop := ".." ∉ folder.names ∨ ∃ place, files.locate folder = .ok place

section Reading

variable {files opened later : Files} (folder : Path) (name : String) (forth : name ≠ "..")

theorem absent_located (p : Path) (place : List String) (located : files.locate p = .ok place)
    (none_ : ∀ bytes, files.entryAt? place ≠ some (.file bytes)) : files.Absent p := by
  cases stands : files.entryAt? place with
  | none => exact ⟨_, read_missing _ _ _ located stands, nofun⟩
  | some entry =>
    cases entry with
    | folder => exact ⟨_, read_folder _ _ _ located stands, nofun⟩
    | file bytes => exact (none_ bytes stands).elim

theorem Keeps.absent (keeps : Keeps files later) (p : Path) (place : List String) (there : later.locate p = .ok place)
    (missing : files.entryAt? place = none) : files.Absent p := by
  obtain ⟨unmarked, small, followed⟩ := (later.locate_ok p place).mp there
  rw [keeps.start] at followed
  rcases locate_cases p with ⟨e, lost⟩ | ⟨-, -, located⟩
  · cases (lost later).symm.trans there
  · rcases keeps.follow (files.start p) p.names with lost | lost | same
    · exact ⟨⟨.missing, p⟩, read_lost _ _ _ (by rw [located, lost]; rfl), nofun⟩
    · exact ⟨⟨.notFolder, p⟩, read_lost _ _ _ (by rw [located, lost]; rfl), nofun⟩
    · have here : files.locate p = .ok place := by rw [located, ← same, followed]; rfl
      exact absent_located p place here (by simp [missing])

include forth in
theorem child_read_alike (short : name.utf8ByteSize ≤ maxNameSize) (rooted : files.Rooted)
    (direct : files.Direct folder) (opens : Opens files opened) (keeps : Keeps opened later) (above : List String)
    (followed : later.follow (later.start folder) folder.names = .ok above)
    (stands : later.entryAt? above = some .folder)
    (same : later.entryAt? (above ++ [name]) = opened.entryAt? (above ++ [name])) :
    ReadAlike files later (folder.child name) := by
  have whole := opens.toKeeps.trans keeps
  rcases locate_cases (folder.child name) with ⟨e, lost⟩ | ⟨unmarked, small, -⟩
  · exact .inl (by rw [read_lost _ _ e (lost later), read_lost _ _ e (lost files)])
  have there : later.locate (folder.child name) = .ok (above ++ [name]) :=
    (later.locate_ok _ _).mpr ⟨unmarked, small, (follow_child folder name forth _ _).mpr ⟨above, followed, stands, short, rfl⟩⟩
  cases before : files.entryAt? (above ++ [name]) with
  | none =>
    -- at most a folder was made where nothing stood, and there is nothing to read in that either
    refine .inr ⟨whole.absent _ _ there before, absent_located _ _ there fun bytes file => ?_⟩
    rw [same] at file
    rcases opens.entries (above ++ [name]) with as_before | ⟨-, made⟩
    · simp [as_before, before] at file
    · simp [made] at file
  | some entry =>
    -- what stood there shows that the way to it could be followed before, too
    have onward : files.follow (files.start folder) folder.names = .ok above := by
      rcases direct with straight | ⟨place, reached⟩
      · obtain ⟨shape, shorts⟩ := later.follow_forth _ _ _ straight followed
        rw [whole.start] at shape
        have inside := rooted.above _ _ _ before
        rw [shape] at inside ⊢
        exact rooted.follow_folder _ _ straight shorts inside
      · have onward := ((files.locate_ok folder place).mp reached).2.2
        have again := whole.follow_ok _ _ _ onward
        rw [← whole.start, followed] at again
        cases again
        exact onward
    have here : files.locate (folder.child name) = .ok (above ++ [name]) :=
      (files.locate_ok _ _).mpr ⟨unmarked, small,
        (follow_child folder name forth _ _).mpr ⟨above, onward, rooted.above _ _ _ before, short, rfl⟩⟩
    have unchanged : later.entryAt? (above ++ [name]) = files.entryAt? (above ++ [name]) := by
      rcases opens.entries (above ++ [name]) with as_before | ⟨missing, -⟩
      · exact same.trans as_before
      · cases missing.symm.trans before
    exact .inl (by rw [read, read, find_located _ _ _ there, find_located _ _ _ here, unchanged])

end Reading

end DamagePlan.Files
