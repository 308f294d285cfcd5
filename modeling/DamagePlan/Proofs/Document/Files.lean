import DamagePlan.Document.Files
import DamagePlan.Proofs.Steps
import Mathlib.Data.List.Induction

/-!
Trees of files: the text of bytes, what stands at a place after a change, where a path leads, and what is read there.
-/
set_option autoImplicit false

namespace DamagePlan

theorem byte_list_from (bytes : ByteArray) (i : Nat) (read : List UInt8) :
    ByteArray.toList.loop bytes i read = read.reverse ++ bytes.data.toList.drop i := by
  induction i, read using ByteArray.toList.loop.induct bytes with
  | case1 i read inside ih =>
    have bound : i < bytes.data.toList.length := inside
    have here : bytes.get! i = bytes.data.toList[i] := getElem!_pos bytes.data i inside
    rw [ByteArray.toList.loop.eq_def, if_pos inside, ih, List.drop_eq_getElem_cons bound, here]
    simp
  | case2 i read outside =>
    have past : bytes.data.toList.length ≤ i := Nat.not_lt.mp outside
    rw [ByteArray.toList.loop.eq_def, if_neg outside, List.drop_eq_nil_of_le past, List.append_nil]

theorem byte_list (bytes : ByteArray) : bytes.toList = bytes.data.toList := by
  rw [ByteArray.toList, byte_list_from]
  rfl

theorem decode_encoded (text : String) : decodeText text.toUTF8.toList = .ok text := by
  have same : text.toUTF8.toList.toByteArray = text.toByteArray := by
    apply ByteArray.ext
    rw [List.data_toByteArray, byte_list]
    rfl
  have decoded : String.fromUTF8? text.toByteArray = some text := dif_pos text.isValidUTF8
  rw [decodeText, same, decoded]

def Path.child (folder : Path) (name : String) : Path := { folder with names := folder.names ++ [name] }

namespace Files

section Places

variable (files : Files) (place other : List String)

theorem entry_root : files.entryAt? [] = some .folder := rfl

theorem entry_below (below : place ≠ []) : files.entryAt? place = files.entries.lookup place := by
  cases place with
  | nil => contradiction
  | cons => rfl

theorem lookup_others (entries : List (List String × Entry)) :
    (entries.filter (·.1 != place)).lookup other = if other = place then none else entries.lookup other := by
  induction entries with
  | nil => simp
  | cons entry entries ih =>
    obtain ⟨names, entry⟩ := entry
    by_cases same : names = place
    · by_cases here : other = place
      · rw [List.filter_cons_of_neg (by simp [same]), ih, if_pos here, if_pos here]
      · have apart : (other == place) = false := beq_eq_false_iff_ne.mpr here
        simp [same, ih, List.lookup_cons, apart, here]
    · by_cases here : other = names
      · simp [same, here]
      · have apart : (other == names) = false := beq_eq_false_iff_ne.mpr here
        simp [same, ih, List.lookup_cons, apart]

theorem entry_set (entry : Entry) (below : place ≠ []) :
    (files.set place entry).entryAt? other = if other = place then some entry else files.entryAt? other := by
  by_cases root : other = []
  · simp [root, below.symm, entry_root]
  · rw [entry_below _ _ root, entry_below _ _ root, set, List.lookup_append, lookup_others]
    by_cases here : other = place
    · simp [here]
    · have apart : (other == place) = false := beq_eq_false_iff_ne.mpr here
      simp [here, List.lookup_cons, apart]

theorem entry_remove (below : place ≠ []) :
    (files.remove place).entryAt? other = if other = place then none else files.entryAt? other := by
  by_cases root : other = []
  · simp [root, below.symm, entry_root]
  · rw [entry_below _ _ root, entry_below _ _ root, remove, lookup_others]

end Places

def start (files : Files) (p : Path) : List String := if p.root.isEmpty then files.folder else []

section Following

variable (files : Files) (place q names more : List String) (name : String)

theorem follow_append : files.follow place (names ++ more) = files.follow place names >>= (files.follow · more) := by
  induction names generalizing place with
  | nil => rfl
  | cons name names ih =>
    rw [List.cons_append, follow, follow]
    cases files.entryAt? place with
    | none => rfl
    | some entry =>
      cases entry with
      | file => rfl
      | folder =>
        by_cases back : (name == "..") = true
        · simp only [back, if_true, ih]
        · by_cases long : maxNameSize < name.utf8ByteSize
          · simp only [back, long, Bool.false_eq_true, if_true, if_false]
            rfl
          · simp only [back, long, Bool.false_eq_true, if_false, ih]

theorem follow_name (forth : name ≠ "..") : files.follow place [name] = .ok q ↔
    files.entryAt? place = some .folder ∧ name.utf8ByteSize ≤ maxNameSize ∧ q = place ++ [name] := by
  have no_dots : ¬(name == "..") = true := fun same => forth (beq_iff_eq.mp same)
  rw [follow]
  cases files.entryAt? place with
  | none => simp
  | some entry =>
    cases entry with
    | file => simp
    | folder =>
      by_cases long : maxNameSize < name.utf8ByteSize
      · simp [no_dots, long, Nat.not_le.mpr long]
      · simp [no_dots, long, follow, Nat.not_lt.mp long, eq_comm]

theorem follow_forth (forth : ".." ∉ names) (followed : files.follow place names = .ok q) :
    q = place ++ names ∧ ∀ name ∈ names, name.utf8ByteSize ≤ maxNameSize := by
  induction names generalizing place with
  | nil =>
    cases followed
    exact ⟨(List.append_nil _).symm, List.forall_mem_nil _⟩
  | cons name names ih =>
    have not_dots : name ≠ ".." := fun same => forth (same ▸ List.mem_cons_self)
    rw [← List.singleton_append, follow_append] at followed
    obtain ⟨next, one, others⟩ := bind_ok _ _ _ followed
    obtain ⟨-, short, rfl⟩ := (files.follow_name place next name not_dots).mp one
    obtain ⟨same, shorts⟩ := ih _ (fun member => forth (List.mem_cons_of_mem _ member)) others
    exact ⟨by rw [same, List.append_assoc]; rfl, List.forall_mem_cons.mpr ⟨short, shorts⟩⟩

end Following

/-- A tree in which all that stands somewhere stands in a folder, and so does work. -/
structure Rooted (files : Files) : Prop where
  working : files.entryAt? files.folder = some .folder
  above : ∀ place name entry, files.entryAt? (place ++ [name]) = some entry → files.entryAt? place = some .folder

theorem empty_rooted : Rooted {} where
  working := rfl
  above place name entry stands := by
    rw [entry_below _ _ (by simp)] at stands
    cases stands

section Rooted

variable {files : Files} (rooted : files.Rooted) (place names q : List String)
include rooted

theorem Rooted.along (entry : Entry) (below : names ≠ []) (stands : files.entryAt? (place ++ names) = some entry) :
    files.entryAt? place = some .folder := by
  induction names using List.reverseRecOn generalizing entry with
  | nil => contradiction
  | append_singleton names name ih =>
    rw [← List.append_assoc] at stands
    have last := rooted.above _ _ _ stands
    by_cases first : names = []
    · rwa [first, List.append_nil] at last
    · exact ih _ first last

theorem Rooted.follow_folder (forth : ".." ∉ names) (short : ∀ name ∈ names, name.utf8ByteSize ≤ maxNameSize)
    (stands : files.entryAt? (place ++ names) = some .folder) : files.follow place names = .ok (place ++ names) := by
  induction names generalizing place with
  | nil => rw [List.append_nil]; rfl
  | cons name names ih =>
    have not_dots : name ≠ ".." := fun same => forth (same ▸ List.mem_cons_self)
    -- what stands at the end of the way shows a folder at each place on it
    have here := rooted.along place (name :: names) _ (List.cons_ne_nil _ _) stands
    have one : files.follow place [name] = .ok (place ++ [name]) :=
      (files.follow_name place _ name not_dots).mpr ⟨here, short name List.mem_cons_self, rfl⟩
    rw [← List.singleton_append, ← List.append_assoc] at stands ⊢
    rw [follow_append, one]
    exact ih _ (fun member => forth (List.mem_cons_of_mem _ member))
      (fun other member => short other (List.mem_cons_of_mem _ member)) stands

theorem Rooted.above_dropped (stands : files.entryAt? place = some .folder) :
    files.entryAt? place.dropLast = some .folder := by
  by_cases root : place = []
  · rw [root]
    rfl
  · rw [← List.dropLast_append_getLast root] at stands
    exact rooted.above _ _ _ stands

theorem Rooted.follow_above (inside : files.entryAt? place.dropLast = some .folder)
    (followed : files.follow place names = .ok q) : files.entryAt? q.dropLast = some .folder := by
  induction names generalizing place with
  | nil =>
    cases followed
    exact inside
  | cons name names ih =>
    rw [follow] at followed
    split at followed
    · cases followed
    · cases followed
    · rename_i here
      split at followed
      -- two dots lead back to a folder that stands in a folder itself
      · exact ih _ (rooted.above_dropped _ (rooted.above_dropped _ here)) followed
      · split at followed
        · cases followed
        · exact ih _ (by rwa [List.dropLast_concat]) followed

theorem Rooted.start_folder (p : Path) : files.entryAt? (files.start p) = some .folder := by
  rw [start]
  split
  · exact rooted.working
  · rfl

end Rooted

section Paths

variable (files : Files) (p : Path) (place : List String)

theorem locate_ok : files.locate p = .ok place ↔
    p.hasEndMark = false ∧ p.text.utf8ByteSize < maxPathSize ∧ files.follow (files.start p) p.names = .ok place := by
  rw [locate, start]
  by_cases marked : p.hasEndMark = true
  · simp [marked]
  · by_cases long : maxPathSize ≤ p.text.utf8ByteSize
    · simp [marked, long, Nat.not_lt.mpr long]
    · simp only [marked, long, Bool.false_eq_true, if_false]
      cases files.follow (if p.root.isEmpty = true then files.folder else []) p.names with
      | error e => simp [Except.mapError]
      | ok q => simp [Except.mapError, Nat.not_le.mp long]

theorem locate_cases : (∃ e, ∀ files : Files, files.locate p = .error e) ∨
    (p.hasEndMark = false ∧ p.text.utf8ByteSize < maxPathSize ∧
      ∀ files : Files, files.locate p = (files.follow (files.start p) p.names).mapError (⟨·, p⟩)) := by
  by_cases marked : p.hasEndMark = true
  · exact .inl ⟨_, fun files => if_pos marked⟩
  · by_cases long : maxPathSize ≤ p.text.utf8ByteSize
    · exact .inl ⟨_, fun files => (if_neg marked).trans (if_pos long)⟩
    · refine .inr ⟨by simpa using marked, Nat.not_le.mp long, fun files => ?_⟩
      exact (if_neg marked).trans (if_neg long)

theorem Rooted.located_above {files : Files} (rooted : files.Rooted) (located : files.locate p = .ok place) :
    files.entryAt? place.dropLast = some .folder :=
  rooted.follow_above _ _ _ (rooted.above_dropped _ (rooted.start_folder p)) ((files.locate_ok p place).mp located).2.2

theorem find_located (located : files.locate p = .ok place) :
    files.find p = ((files.entryAt? place).map Except.ok).getD (.error ⟨.missing, p⟩) := by
  rw [find, located]
  simp only [bind, Except.bind]
  cases files.entryAt? place <;> rfl

theorem is_folder_iff : files.isFolder p = true ↔
    ∃ place, files.locate p = .ok place ∧ files.entryAt? place = some .folder := by
  cases located : files.locate p with
  | error e =>
    have lost : files.find p = .error e := by
      rw [find, located]
      rfl
    simp [isFolder, lost]
  | ok place =>
    have found := find_located _ _ _ located
    cases stands : files.entryAt? place with
    | none => simp [isFolder, found, stands]
    | some entry => cases entry <;> simp [isFolder, found, stands]

theorem read_lost (e : FileFault) (lost : files.locate p = .error e) : files.read p = .error e := by
  rw [read, find, lost]
  rfl

theorem read_missing (located : files.locate p = .ok place) (missing : files.entryAt? place = none) :
    files.read p = .error ⟨.missing, p⟩ := by
  rw [read, find_located _ _ _ located, missing]
  rfl

theorem read_folder (located : files.locate p = .ok place) (stands : files.entryAt? place = some .folder) :
    files.read p = .error ⟨.isFolder, p⟩ := by
  rw [read, find_located _ _ _ located, stands]
  rfl

theorem read_file (bytes : List UInt8) (located : files.locate p = .ok place)
    (stands : files.entryAt? place = some (.file bytes)) : files.read p = .ok bytes := by
  rw [read, find_located _ _ _ located, stands]
  rfl

theorem read_ok (bytes : List UInt8) : files.read p = .ok bytes ↔
    ∃ place, files.locate p = .ok place ∧ files.entryAt? place = some (.file bytes) := by
  cases located : files.locate p with
  | error e => simp [read_lost _ _ e located]
  | ok place =>
    cases stands : files.entryAt? place with
    | none => simp [read_missing _ _ _ located stands, stands]
    | some entry =>
      cases entry with
      | folder => simp [read_folder _ _ _ located stands, stands]
      | file bytes' => simp [read_file _ _ _ _ located stands, stands]

end Paths

end Files

end DamagePlan
