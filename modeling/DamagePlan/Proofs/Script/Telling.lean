import DamagePlan.Proofs.Script.Distinct
import DamagePlan.Proofs.Script.Exported

/-!
Scripts of literals whose records may repeat keys: they load as the values of the literals if all keys are distinct, and
are refused otherwise.
-/
set_option autoImplicit false

namespace DamagePlan.Script

open DamagePlan.Script.Parser (Spoils)

structure Denotes (k : Nat) (g f : Expr) : Prop where
  stands : Stands k g f
  distinct : g.KeysDistinct → f.KeysDistinct

namespace Denotes

variable {k l : Nat}

theorem mono {g f : Expr} (deeper : k ≤ l) (denotes : Denotes k g f) : Denotes l g f :=
  ⟨denotes.stands.mono deeper, denotes.distinct⟩

def Entry (k : Nat) (g f : String × Expr) : Prop := g.1 = f.1 ∧ Denotes k g.2 f.2

theorem list (gs fs : List Expr) (each : List.Forall₂ (Denotes k) gs fs) : Denotes (k + 1) (.list gs) (.list fs) where
  stands := .list gs fs (each.imp fun _ _ own => own.stands)
  distinct := by
    rw [Expr.keys_distinct_list, Expr.keys_distinct_list]
    intro distinct f member
    obtain ⟨g, among, denotes⟩ := paired_right gs fs each f member
    exact denotes.distinct (distinct g among)

theorem entries_stand (gs fs : List (String × Expr)) (each : List.Forall₂ (Entry k) gs fs) :
    List.Forall₂ (Stands.Entry k) gs fs := each.imp fun _ _ own => ⟨own.1, own.2.stands⟩

theorem record (gs fs : List (String × Expr)) (each : List.Forall₂ (Entry k) gs fs) :
    Denotes (k + 1) (.record gs) (.record fs) where
  stands := .record gs fs (entries_stand gs fs each)
  distinct := by
    rw [Expr.keys_distinct_record, Expr.keys_distinct_record, Stands.entry_keys gs fs (entries_stand gs fs each)]
    refine And.imp_right fun distinct f member => ?_
    obtain ⟨g, among, -, denotes⟩ := paired_right gs fs each f member
    exact denotes.distinct (distinct g among)

end Denotes

def Tells (P : SyntaxErrorKind → Prop) (n k : Nat) (e f : Expr) : Prop :=
  ∃ g, (∀ indent, TextSettles P n (e.print indent) g) ∧ Denotes k g f

namespace Tells

variable {P : SyntaxErrorKind → Prop} {n m k l : Nat} {e f : Expr}

theorem mono (more : n ≤ m) (deeper : k ≤ l) (tells : Tells P n k e f) : Tells P m l e f := by
  obtain ⟨g, settles, denotes⟩ := tells
  exact ⟨g, fun indent => (settles indent).mono more, denotes.mono deeper⟩

theorem conveys (tells : Tells P n k e f) : Conveys k e f := by
  obtain ⟨g, settles, denotes⟩ := tells
  exact ⟨g, fun indent => (settles indent).if_read, denotes.stands⟩

theorem of_delivers (delivers : Delivers n k e) (distinct : e.KeysDistinct) : Tells P n k e e := by
  obtain ⟨-, g, legible, stands⟩ := delivers
  exact ⟨g, fun indent => (legible indent).settles, stands, fun _ => distinct⟩

theorem list (es fs : List Expr) (each : List.Forall₂ (Tells P n k) es fs) :
    Tells P (n + 1) (k + 1) (.list es) (.list fs) := by
  obtain ⟨gs, settle, denote⟩ := pairs_between es fs each
  exact ⟨.list gs, printed_list_settles es gs settle, .list gs fs denote⟩

def Field (P : SyntaxErrorKind → Prop) (n k : Nat) (entry field : String × Expr) : Prop :=
  field.1 = writtenKey entry.1 ∧ Tells P n k entry.2 field.2

theorem record (entries fields : List (String × Expr))
    (repeated : ¬(fields.map (·.1)).Nodup → ∀ key, P (.duplicateRecordKey key))
    (each : List.Forall₂ (Field P n k) entries fields) : Tells P (n + 1) (k + 1) (.record entries) (.record fields) := by
  obtain ⟨gs, settle, denote⟩ := pairs_between entries fields
    (R := fun entry g => g.1 = writtenKey entry.1 ∧ ∀ indent, TextSettles P n (entry.2.print indent) g.2)
    (S := Denotes.Entry k) <| each.imp fun entry field own => by
      obtain ⟨written, g, settles, denotes⟩ := own
      exact ⟨(field.1, g), ⟨written, settles⟩, rfl, denotes⟩
  have keys := Stands.entry_keys gs fields (Denotes.entries_stand gs fields denote)
  exact ⟨.record gs, printed_record_settles entries gs (keys ▸ repeated) settle, .record gs fields denote⟩

end Tells

structure AssignsTelling (P : SyntaxErrorKind → Prop) (n : Nat) (a b : Assignment) : Prop where
  same : a.name = b.name
  named : isName a.name.toList = true
  free : a.name ∉ keywords
  tells : Tells P n 64 a.value b.value
  ends : (a.value.print 0).getLast? ≠ some '\n'

theorem Assignable.tells {P : SyntaxErrorKind → Prop} {n : Nat} {a : Assignment} (assignable : Assignable n a)
    (distinct : a.value.KeysDistinct) : AssignsTelling P n a a :=
  ⟨rfl, assignable.named, assignable.free, .of_delivers assignable.delivers distinct, assignable.ends⟩

theorem telling_loads (stack : Stack) {P : SyntaxErrorKind → Prop} {n : Nat} (p : Program) (bs : List Assignment)
    (each : List.Forall₂ (AssignsTelling P n) p.assignments bs) (distinct : (bs.map (·.name)).Nodup) :
    ((∀ b ∈ bs, b.value.KeysDistinct) ∧
        load stack p.plainText = (loadExports (exportsFrom [] bs) 0).mapError
          (refusal stack (Value.field (exportsFrom [] bs) "game"))) ∨
      ∃ fault, load stack p.plainText = .error (.static (.badSyntax fault)) ∧ Spoils P n maxDepth fault := by
  obtain ⟨gs, assigns, denote⟩ := pairs_between p.assignments bs (R := AssignsSettling P n)
    (S := fun g b => g.name = b.name ∧ Denotes 64 g.value b.value) <| each.imp fun a b own => by
      obtain ⟨same, named, free, ⟨g, settles, denotes⟩, ends⟩ := own
      exact ⟨⟨b.name, g⟩, ⟨same, named, free, settles 0, ends⟩, rfl, denotes⟩
  rcases script_settles p gs assigns with read | ⟨fault, failed, spoils⟩
  · left
    have values := assignments_evaluate stack gs bs (denote.imp fun _ _ own => ⟨own.1, own.2.stands⟩) [] 0 []
      (by simpa using distinct)
    rw [List.append_nil] at values
    refine ⟨fun b member => ?_, by simp only [load, read, values]; rfl⟩
    obtain ⟨g, among, -, denotes⟩ := paired_right gs bs denote b member
    exact denotes.distinct (script_keys_distinct _ _ read g among)
  · exact .inr ⟨fault, by simp only [load, failed], spoils⟩

end DamagePlan.Script
