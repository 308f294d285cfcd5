import DamagePlan.Proofs.Document.Later

/-!
Work on a tree: rules for the steps it is made of, what each kind of work leaves behind, and that no work takes a
folder away, also where it fails.
-/
set_option autoImplicit false

namespace DamagePlan.FileWork

open Files

def Does {α : Type} (work : FileWork α) (files : Files) (result : Except FileFault α) (later : Files) : Prop :=
  work.run.run files = (result, later)

section Rules

variable {α β : Type} (files later : Files)

theorem did_pure (a : α) : Does (pure a) files (.ok a) files := rfl

theorem did_throw (e : FileFault) : Does (throw e : FileWork α) files (.error e) files := rfl

theorem did_get : Does get files (.ok files) files := rfl

theorem did_modify (change : Files → Files) : Does (modify change) files (.ok ()) (change files) := rfl

theorem did_except {x result : Except FileFault α} (is_ : x = result) :
    Does (MonadExcept.ofExcept x) files result files := by
  subst is_
  cases x <;> rfl

theorem does_same {work : FileWork α} {first result : Except FileFault α} {between : Files}
    (did : Does work files first between) : Does work files result later ↔ result = first ∧ later = between := by
  constructor
  · intro does
    cases did.symm.trans does
    exact ⟨rfl, rfl⟩
  · rintro ⟨rfl, rfl⟩
    exact did

theorem does_next {work : FileWork α} {a : α} {between : Files} (did : Does work files (.ok a) between)
    (next : α → FileWork β) (result : Except FileFault β) :
    Does (work >>= next) files result later ↔ Does (next a) between result later := by
  have whole : (work >>= next).run.run files = (next a).run.run between := by
    rw [ExceptT.run_bind, StateT.run_bind, did]
    rfl
  rw [Does, whole, Does]

theorem does_stop {work : FileWork α} {e : FileFault} {between : Files} (failed : Does work files (.error e) between)
    (next : α → FileWork β) : Does (work >>= next) files (.error e) between := by
  rw [Does, ExceptT.run_bind, StateT.run_bind, failed]
  rfl

theorem does_bind (work : FileWork α) (next : α → FileWork β) (result : Except FileFault β)
    (does : Does (work >>= next) files result later) :
    (∃ e, Does work files (.error e) later ∧ result = .error e) ∨
      ∃ a between, Does work files (.ok a) between ∧ Does (next a) between result later := by
  rcases ran : work.run.run files with ⟨first, between⟩
  cases first with
  | error e =>
    obtain ⟨rfl, rfl⟩ := (does_same _ _ (does_stop files ran next)).mp does
    exact .inl ⟨e, ran, rfl⟩
  | ok a => exact .inr ⟨a, between, ran, (does_next _ _ ran next result).mp does⟩

theorem did_catch {work : FileWork α} {a : α} {between : Files} (did : Does work files (.ok a) between)
    (handle : FileFault → FileWork α) : Does (tryCatch work handle) files (.ok a) between := by
  rw [Does, ExceptT.run_tryCatch, StateT.run_bind, did]
  rfl

theorem does_catch (work : FileWork α) (handle : FileFault → FileWork α) (result : Except FileFault α)
    (does : Does (tryCatch work handle) files result later) :
    (∃ a, Does work files (.ok a) later ∧ result = .ok a) ∨
      ∃ e between, Does work files (.error e) between ∧ Does (handle e) between result later := by
  rcases ran : work.run.run files with ⟨first, between⟩
  cases first with
  | error e =>
    have whole : (tryCatch work handle).run.run files = (handle e).run.run between := by
      rw [ExceptT.run_tryCatch, StateT.run_bind, ran]
      rfl
    exact .inr ⟨e, between, ran, whole.symm.trans does⟩
  | ok a =>
    obtain ⟨rfl, rfl⟩ := (does_same _ _ (did_catch files ran handle)).mp does
    exact .inl ⟨a, ran, rfl⟩

end Rules

variable (p : Path) (files later : Files)

theorem did_locate {result : Except FileFault (List String)} (located : files.locate p = result) :
    Does (locate p) files result files := (does_next _ _ (did_get files) _ _).mpr (did_except files located)

theorem does_make_folder (result : Except FileFault Unit) (does : Does (makeFolder p) files result later) :
    (∃ e, result = .error e ∧ later = files) ∨
      ∃ place, files.locate p = .ok place ∧ files.entryAt? place = none ∧ result = .ok () ∧
        later = files.set place .folder := by
  rw [makeFolder] at does
  cases located : files.locate p with
  | error e =>
    obtain ⟨rfl, rfl⟩ := (does_same _ _ (does_stop _ (did_locate p files located) _)).mp does
    exact .inl ⟨e, rfl, rfl⟩
  | ok place =>
    rw [does_next _ _ (did_locate p files located), does_next _ _ (did_get files)] at does
    cases stands : files.entryAt? place with
    | none =>
      simp only [stands, Option.isSome_none, Bool.false_eq_true, if_false] at does
      obtain ⟨rfl, rfl⟩ := (does_same _ _ (did_modify files _)).mp does
      exact .inr ⟨place, rfl, stands, rfl, rfl⟩
    | some entry =>
      simp only [stands, Option.isSome_some, if_true] at does
      obtain ⟨rfl, rfl⟩ := (does_same _ _ (does_stop _ (did_throw files _) _)).mp does
      exact .inl ⟨_, rfl, rfl⟩

theorem does_keep_folder (result : Except FileFault Unit) (does : Does (keepFolder p) files result later) :
    Opens files later := by
  rcases does_catch _ _ _ _ _ does with ⟨_, made, rfl⟩ | ⟨e, between, failed, handled⟩
  · rcases does_make_folder _ _ _ _ made with ⟨e, same, -⟩ | ⟨place, located, missing, -, rfl⟩
    · cases same
    · exact opens_set p place located missing
  · rcases does_make_folder _ _ _ _ failed with ⟨-, -, rfl⟩ | ⟨_, -, -, same, -⟩
    · rw [does_next _ _ (did_get between)] at handled
      by_cases there : between.isFolder p = true
      · simp only [there, Bool.not_true, Bool.false_eq_true, if_false] at handled
        obtain ⟨-, rfl⟩ := (does_same _ _ (did_pure between _)).mp handled
        exact Opens.refl _
      · simp only [there, Bool.not_false, if_true] at handled
        obtain ⟨-, rfl⟩ := (does_same _ _ (did_throw between _)).mp handled
        exact Opens.refl _
    · cases same

theorem does_keep_folders_of (root : String) (names : List String) (result : Except FileFault Unit)
    (does : Does (keepFoldersOf root names) files result later) : Opens files later := by
  induction names generalizing files result later with
  | nil => exact does_keep_folder _ _ _ _ does
  | cons name above ih =>
    -- the folders above are made only where the folder itself was missing them, and then it is tried again
    rcases does_catch _ _ _ _ _ does with ⟨_, kept, rfl⟩ | ⟨e, between, failed, handled⟩
    · exact does_keep_folder _ _ _ _ kept
    · have first := does_keep_folder _ _ _ _ failed
      by_cases missing : e.kind = .missing
      · simp only [missing, if_true] at handled
        rcases does_bind _ _ _ _ _ handled with ⟨e', failed', -⟩ | ⟨_, opened, kept, last⟩
        · exact first.trans (ih _ _ _ failed')
        · exact (first.trans (ih _ _ _ kept)).trans (does_keep_folder _ _ _ _ last)
      · simp only [missing, if_false] at handled
        obtain ⟨-, rfl⟩ := (does_same _ _ (did_throw between _)).mp handled
        exact first

theorem does_keep_folders (result : Except FileFault Unit) (does : Does (keepFolders p) files result later) :
    Opens files later := does_keep_folders_of files later p.root _ result does

theorem does_write (bytes : List UInt8) (result : Except FileFault Unit) (does : Does (write p bytes) files result later) :
    (∃ e, result = .error e ∧ later = files) ∨
      ∃ place, files.locate p = .ok place ∧ files.entryAt? place ≠ some .folder ∧ result = .ok () ∧
        later = files.set place (.file bytes) := by
  rw [write] at does
  cases located : files.locate p with
  | error e =>
    obtain ⟨rfl, rfl⟩ := (does_same _ _ (does_stop _ (did_locate p files located) _)).mp does
    exact .inl ⟨e, rfl, rfl⟩
  | ok place =>
    rw [does_next _ _ (did_locate p files located), does_next _ _ (did_get files)] at does
    by_cases there : files.isFolder p = true
    · simp only [there, if_true] at does
      obtain ⟨rfl, rfl⟩ := (does_same _ _ (does_stop _ (did_throw files _) _)).mp does
      exact .inl ⟨_, rfl, rfl⟩
    · simp only [there, Bool.false_eq_true, if_false] at does
      obtain ⟨rfl, rfl⟩ := (does_same _ _ (did_modify files _)).mp does
      have free : files.entryAt? place ≠ some .folder := fun stands =>
        there ((files.is_folder_iff p).mpr ⟨place, located, stands⟩)
      exact .inr ⟨place, rfl, free, rfl, rfl⟩

theorem write_keeps (bytes : List UInt8) (result : Except FileFault Unit) (does : Does (write p bytes) files result later) :
    Keeps files later := by
  rcases does_write _ _ _ _ _ does with ⟨_, -, rfl⟩ | ⟨place, located, free, -, rfl⟩
  · exact Keeps.refl _
  · exact keeps_set p place located free _

theorem does_move (source target : Path) (result : Except FileFault Unit)
    (does : Does (move source target) files result later) :
    (∃ e, result = .error e ∧ later = files) ∨
      ∃ old new bytes, files.locate source = .ok old ∧ files.entryAt? old = some (.file bytes) ∧
        files.locate target = .ok new ∧ files.entryAt? new ≠ some .folder ∧ result = .ok () ∧
        later = if old = new then files.set new (.file bytes) else (files.set new (.file bytes)).remove old := by
  rw [move, does_next _ _ (did_get files)] at does
  cases found : files.read source with
  | error e =>
    have first := did_except files found
    obtain ⟨rfl, rfl⟩ := (does_same _ _ (does_stop _ first _)).mp does
    exact .inl ⟨e, rfl, rfl⟩
  | ok bytes =>
    have first := did_except files found
    obtain ⟨old, located, stands⟩ := (files.read_ok source bytes).mp found
    rw [does_next _ _ first, does_next _ _ (did_locate source files located)] at does
    rcases does_bind _ _ _ _ _ does with ⟨e, failed, rfl⟩ | ⟨_, written, wrote, last⟩
    · rcases does_write _ _ _ _ _ failed with ⟨e', -, same⟩ | ⟨_, -, -, same, -⟩
      · exact .inl ⟨e, rfl, same⟩
      · cases same
    · rcases does_write _ _ _ _ _ wrote with ⟨_, same, -⟩ | ⟨new, there, free, -, rfl⟩
      · cases same
      · -- writing took no folder away, so the target is found where it was written
        have still := (keeps_set target new there free (.file bytes)).located target new there
        rw [does_next _ _ (did_locate target _ still)] at last
        refine .inr ⟨old, new, bytes, located, stands, there, free, ?_⟩
        by_cases same : old = new
        · simp only [same, bne_self_eq_false, Bool.false_eq_true, if_false] at last
          obtain ⟨rfl, rfl⟩ := (does_same _ _ (did_pure _ _)).mp last
          exact ⟨rfl, (if_pos same).symm⟩
        · simp only [bne_iff_ne.mpr same, if_true] at last
          obtain ⟨rfl, rfl⟩ := (does_same _ _ (did_modify _ _)).mp last
          exact ⟨rfl, (if_neg same).symm⟩

theorem move_keeps (source target : Path) (result : Except FileFault Unit)
    (does : Does (move source target) files result later) : Keeps files later := by
  rcases does_move _ _ _ _ _ does with ⟨_, -, rfl⟩ | ⟨old, new, bytes, -, stands, there, free, -, rfl⟩
  · exact Keeps.refl _
  · have written := keeps_set target new there free (.file bytes)
    split
    · exact written
    · rename_i apart
      refine written.trans (keeps_remove old bytes ?_)
      rw [entry_set _ _ _ _ (below_root new free), if_neg apart]
      exact stands

end DamagePlan.FileWork
