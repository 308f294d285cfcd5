import DamagePlan.Proofs.Decimal.Sign
import DamagePlan.Proofs.Script.Legible
import DamagePlan.Proofs.Script.Numeral
import DamagePlan.Proofs.Script.RoundTrip
import DamagePlan.Proofs.Script.Splice
import DamagePlan.Script.Context
import DamagePlan.Proofs.Steps
import DamagePlan.Script.Loading

/-!
Literals in print: what the text of a literal is read as has the value of the literal, and a script of literals exports
their values. A number below zero is read back as the negation of its magnitude, and minus zero as zero.
-/
set_option autoImplicit false

namespace DamagePlan.Script

open Text (trim trimList)
open Legible (AllLegible EntryLegible IsSafeKey)

def numberExpr (x : Float) : Expr :=
  match Decimal.Binary.ofFloat x with
  | .finite true 0 _ => .number (-x)
  | .finite true (_ + 1) _ => .unary .negate (.number (-x))
  | _ => .number x

theorem number_text_neg (x : Float) (m : Nat) (e : Int) (decoded : Decimal.Binary.ofFloat x = .finite true m e)
    (pos : 0 < m) : (numberText x).toList = '-' :: (numberText (-x)).toList := by
  have shortest := Decimal.shortest_text_neg x m e decoded
  have opposite := Decimal.of_float_neg x true m e decoded
  have integral := Decimal.integral_neg x m e decoded
  unfold numberText
  cases whole : Decimal.integral? (-x) with
  | none => simpa [integral, whole] using shortest
  | some n =>
    have positive := Decimal.Written.integral_value (-x) m e n opposite whole
    have nonzero : 0 < n := by
      have value : (0 : ℚ) < n.natAbs := by
        rw [positive.1]
        have posQ : (0 : ℚ) < m := by exact_mod_cast pos
        positivity
      have natural : 0 < n.natAbs := by exact_mod_cast value
      omega
    rw [integral, whole]
    simp only [Option.map_some, Int.natAbs_neg]
    split
    · simp [Decimal.integerText, nonzero, Int.not_lt.mpr nonzero.le]
    · exact shortest

theorem number_text_zero (x : Float) (e : Int) (decoded : Decimal.Binary.ofFloat x = .finite true 0 e) :
    numberText x = numberText (-x) := by
  have integral := Decimal.integral_neg x 0 e decoded
  have opposite := Decimal.of_float_neg x true 0 e decoded
  have zero : Decimal.integral? (-x) = some 0 := by
    by_cases up : 0 ≤ e
    · simp [Decimal.integral?, opposite, Decimal.scaleBinary, up]
    · simp [Decimal.integral?, opposite, Decimal.scaleBinary, up]
  unfold numberText
  rw [integral, zero]
  rfl

theorem number_legible (x : Float) (finite : Decimal.isFinite x = true) (indent : Int) :
    Legible ((Expr.number x).print indent) (numberExpr x) 7 1 := by
  unfold Decimal.isFinite at finite
  cases decoded : Decimal.Binary.ofFloat x with
  | nan => rw [decoded] at finite; cases finite
  | infinite negative => rw [decoded] at finite; cases finite
  | finite negative m e =>
    cases negative with
    | false =>
      have plain := Legible.number x (numeral_text x ⟨m, e, decoded⟩)
      simp only [numberExpr, decoded]
      exact (plain.loosen (by decide)).mono (Nat.zero_le _)
    | true =>
      have opposite := Decimal.of_float_neg x true m e decoded
      have plain := Legible.number (-x) (numeral_text (-x) ⟨m, e, opposite⟩)
      cases m with
      | zero =>
        simp only [numberExpr, decoded, Expr.print, number_text_zero x e decoded]
        exact (plain.loosen (by decide)).mono (Nat.zero_le _)
      | succ m =>
        simp only [numberExpr, decoded, Expr.print, number_text_neg x (m + 1) e decoded (Nat.succ_pos m)]
        exact plain.unary_op .negate (by decide)

def textBody (text : String) : Expr :=
  match parseExpression ("(" ++ trim text ++ ")") with
  | .ok e => e
  | .error _ => .null

def bodyOf : Expr → Expr
  | .verbatim text => textBody text
  | e => e

def unsignedZero (x : Float) : Float :=
  match Decimal.Binary.ofFloat x with
  | .finite true 0 _ => -x
  | _ => x

mutual
def exported (scope : Scope) : Expr → Value
  | .number x => .number ⟨unsignedZero x, none⟩
  | .string s => .string s
  | .bool b => .bool b
  | .list items => .list (exportedList scope items)
  | .record entries => .record (exportedEntries scope entries)
  | .deferred body => .closure (bodyOf body) scope
  | _ => .null

def exportedList (scope : Scope) : List Expr → List Value
  | [] => []
  | e :: es => exported scope e :: exportedList scope es

def exportedEntries (scope : Scope) : List (String × Expr) → List (String × Value)
  | [] => []
  | (k, e) :: rest => (k, exported scope e) :: exportedEntries scope rest
end

theorem lookup_exported (scope : Scope) (entries : List (String × Expr)) (key : String) :
    (exportedEntries scope entries).lookup key = (entries.lookup key).map (exported scope) := by
  induction entries with
  | nil => rfl
  | cons entry rest ih =>
    obtain ⟨k, e⟩ := entry
    by_cases same : key = k
    · simp [exportedEntries, same]
    · have other : (key == k) = false := beq_eq_false_iff_ne.mpr same
      simp only [exportedEntries, List.lookup_cons, other, ih]

structure Shown (n : Nat) (e f : Expr) : Prop where
  finite : e.nonFinite? = none
  legible : ∀ indent, Legible (e.print indent) f (-1) n

theorem Shown.mono {n m : Nat} {e f : Expr} (more : n ≤ m) (shown : Shown n e f) : Shown m e f :=
  ⟨shown.finite, fun indent => (shown.legible indent).mono more⟩

theorem printable_shown (e : Expr) (printable : e.Printable) : Shown (2 * e.height + 1) e e :=
  ⟨e.printable_finite printable, fun indent => (e.print_legible indent printable).loosen e.power_low⟩

def Means (text : String) (e : Expr) : Prop := parseExpression ("(" ++ trim text ++ ")") = .ok e

theorem text_body (text : String) (e : Expr) (means : Means text e) : textBody text = e := by
  rw [Means] at means
  rw [textBody, means]

structure TextFits (n : Nat) (text : String) : Prop where
  means : Means text (textBody text)
  shown : Shown n (.verbatim text) (textBody text)

theorem TextFits.mono {n m : Nat} {text : String} (more : n ≤ m) (fits : TextFits n text) : TextFits m text :=
  ⟨fits.means, fits.shown.mono more⟩

theorem accepted_fits (text : String) (accepted : isContextExpression (trim text) = true) : TextFits 63 text := by
  obtain ⟨e, means, legible⟩ := accepted_legible text accepted
  have body := text_body text e means
  exact ⟨by rw [body]; exact means, by rw [body]; exact ⟨rfl, legible⟩⟩

theorem plain_text_fits (e : Expr) (printable : e.Printable) (trimmed : trimList (e.print 0) = e.print 0)
    (shallow : 2 * e.height + 2 ≤ 63) : TextFits (2 * e.height + 2) e.plainText ∧ textBody e.plainText = e := by
  have legible := (e.print_legible 0 printable).paren
  -- the text is written in parentheses once more, so it takes one level of nesting more than the expression
  have shape : "(" ++ trim e.plainText ++ ")" = String.ofList ('(' :: e.print 0 ++ [')']) := by
    apply String.toList_injective
    simp [trim, Expr.plainText, trimmed]
  have means : Means e.plainText e := by
    rw [Means, shape]
    exact (parse_legible _ e _ _ legible).2 shallow
  have body := text_body _ e means
  refine ⟨⟨by rw [body]; exact means, rfl, fun indent => ?_⟩, body⟩
  rw [body]
  simpa [Expr.print, Expr.plainText, trimmed] using legible.loosen (by decide)

structure Stands (k : Nat) (g f : Expr) : Prop where
  fits : g.Fits k
  value : ∀ scope, evaluate Context.empty.engine scope g = pure (exported scope f)

namespace Stands

variable {k l : Nat}

theorem mono {g f : Expr} (deeper : k ≤ l) (stands : Stands k g f) : Stands l g f := ⟨stands.fits.mono deeper, stands.value⟩

theorem list (gs fs : List Expr) (each : List.Forall₂ (Stands k) gs fs) : Stands (k + 1) (.list gs) (.list fs) := by
  have parts : (Expr.reachOfList gs ≤ k ∧ Expr.comparesInList gs = false) ∧
      ∀ scope, evaluateList Context.empty.engine scope gs = pure (exportedList scope fs) := by
    induction each with
    | nil => exact ⟨⟨Nat.zero_le k, rfl⟩, fun _ => rfl⟩
    | cons first _ ih =>
      obtain ⟨⟨shallow, plain⟩, values⟩ := ih
      exact ⟨⟨Nat.max_le.mpr ⟨first.fits.shallow, shallow⟩, by simp [Expr.comparesInList, first.fits.plain, plain]⟩,
        fun scope => by simp [evaluateList, exportedList, first.value, values]⟩
  exact ⟨⟨Nat.succ_le_succ parts.1.1, parts.1.2⟩, fun scope => by simp [evaluate, exported, parts.2]⟩

def Entry (k : Nat) (g f : String × Expr) : Prop := g.1 = f.1 ∧ Stands k g.2 f.2

theorem record (gs fs : List (String × Expr)) (each : List.Forall₂ (Entry k) gs fs) :
    Stands (k + 1) (.record gs) (.record fs) := by
  have parts : (Expr.reachOfEntries gs ≤ k ∧ Expr.comparesInEntries gs = false) ∧
      ∀ scope, evaluateEntries Context.empty.engine scope gs = pure (exportedEntries scope fs) := by
    induction each with
    | nil => exact ⟨⟨Nat.zero_le k, rfl⟩, fun _ => rfl⟩
    | @cons g f gs fs first _ ih =>
      obtain ⟨key, g⟩ := g
      obtain ⟨key', f⟩ := f
      obtain ⟨rfl, stands⟩ := first
      obtain ⟨⟨shallow, plain⟩, values⟩ := ih
      exact ⟨⟨Nat.max_le.mpr ⟨stands.fits.shallow, shallow⟩, by simp [Expr.comparesInEntries, stands.fits.plain, plain]⟩,
        fun scope => by simp [evaluateEntries, exportedEntries, stands.value, values]⟩
  exact ⟨⟨Nat.succ_le_succ parts.1.1, parts.1.2⟩, fun scope => by simp [evaluate, exported, parts.2]⟩

theorem entry_keys (gs fs : List (String × Expr)) (each : List.Forall₂ (Entry k) gs fs) :
    gs.map (·.1) = fs.map (·.1) := by
  induction each with
  | nil => rfl
  | cons first _ ih => rw [List.map_cons, List.map_cons, first.1, ih]

end Stands

structure Delivers (n k : Nat) (e : Expr) : Prop where
  finite : e.nonFinite? = none
  reads : ∃ f, (∀ indent, Legible (e.print indent) f (-1) n) ∧ Stands k f e

namespace Delivers

variable {n m k l : Nat} {e : Expr}

theorem mono (more : n ≤ m) (deeper : k ≤ l) (delivers : Delivers n k e) : Delivers m l e := by
  obtain ⟨finite, f, legible, stands⟩ := delivers
  exact ⟨finite, f, fun indent => (legible indent).mono more, stands.mono deeper⟩

theorem string (s : String) : Delivers n (k + 1) (.string s) := by
  refine ⟨rfl, .string s, fun indent => ?_, ⟨.leaf rfl rfl, fun scope => rfl⟩⟩
  exact ((Legible.string s).loosen (by decide)).mono (Nat.zero_le n)

theorem bool (b : Bool) : Delivers (n + 1) (k + 1) (.bool b) := by
  refine ⟨rfl, .bool b, fun indent => ?_, ⟨.leaf rfl rfl, fun scope => rfl⟩⟩
  exact ((Expr.print_legible indent (.bool b) trivial).loosen (Expr.power_low _)).mono (Nat.le_add_left 1 n)

theorem number_fits (x : Float) : (numberExpr x).Fits (k + 2) := by
  unfold numberExpr
  split
  · exact .leaf rfl rfl
  · exact .unary .negate (.leaf rfl rfl)
  · exact .leaf rfl rfl

theorem number_value (x : Float) (finite : Decimal.isFinite x = true) (scope : Scope) :
    evaluate Context.empty.engine scope (numberExpr x) = pure (.number ⟨unsignedZero x, none⟩) := by
  unfold Decimal.isFinite at finite
  cases decoded : Decimal.Binary.ofFloat x with
  | nan => rw [decoded] at finite; cases finite
  | infinite negative => rw [decoded] at finite; cases finite
  | finite negative m e =>
    cases negative with
    | false => simp [numberExpr, unsignedZero, decoded, evaluate]
    -- a negative number is written with a sign before it, which evaluation applies; only zero loses it
    | true =>
      cases m with
      | zero => simp [numberExpr, unsignedZero, decoded, evaluate]
      | succ m =>
        have twice := Decimal.neg_neg_finite x true (m + 1) e decoded
        have unmarked : Numeral.isUnmarked ⟨x, none⟩ = false := by
          rw [Numeral.isUnmarked, Decimal.finite_not_nan x true (m + 1) e decoded]
          rfl
        simp [numberExpr, unsignedZero, decoded, evaluate, applyUnary, Value.toNumber, settle, Except.map,
          Evaluation.lift, Evaluation.mark, twice, unmarked]

theorem number (x : Float) (finite : Decimal.isFinite x = true) : Delivers (n + 1) (k + 2) (.number x) := by
  refine ⟨by simp [Expr.nonFinite?, finite], numberExpr x, fun indent => ?_, ⟨number_fits x, number_value x finite⟩⟩
  exact ((number_legible x finite indent).loosen (by decide)).mono (Nat.le_add_left 1 n)

theorem deferred {body : Expr} (shown : Shown n body (bodyOf body)) : Delivers (n + 1) (k + 1) (.deferred body) := by
  refine ⟨shown.finite, .deferred (bodyOf body), fun indent => ?_, ⟨.leaf rfl rfl, fun scope => rfl⟩⟩
  simp only [Expr.print]
  exact (shown.legible indent).deferred

theorem list (items : List Expr) (each : ∀ e ∈ items, Delivers n k e) : Delivers (n + 1) (k + 1) (.list items) := by
  have parts : Expr.nonFiniteInList? items = none ∧
      ∃ fs, (∀ indent, AllLegible n (Expr.printList indent items) fs) ∧ List.Forall₂ (Stands k) fs items := by
    induction items with
    | nil => exact ⟨rfl, [], fun _ => .nil, .nil⟩
    | cons e es ih =>
      obtain ⟨finite, f, legible, stands⟩ := each e List.mem_cons_self
      obtain ⟨finiteRest, fs, legibleRest, rest⟩ := ih fun e member => each e (List.mem_cons_of_mem _ member)
      exact ⟨by simp [Expr.nonFiniteInList?, finite, finiteRest], f :: fs,
        fun indent => .cons (legible indent) (legibleRest indent), .cons stands rest⟩
  obtain ⟨finite, fs, legible, stands⟩ := parts
  refine ⟨finite, .list fs, fun indent => ?_, .list fs items stands⟩
  simp only [Expr.print]
  exact (Legible.list _ indent _ fs (legible _)).loosen (by decide)

theorem record (entries : List (String × Expr)) (distinct : (entries.map (·.1)).Nodup)
    (each : ∀ entry ∈ entries, IsSafeKey entry.1 ∧ Delivers n k entry.2) : Delivers (n + 1) (k + 1) (.record entries) := by
  have parts : Expr.nonFiniteInEntries? entries = none ∧ ∃ fs : List (String × Expr),
      (∀ indent, List.Forall₂ (EntryLegible n) (Expr.printEntries indent entries) fs) ∧
      List.Forall₂ (Stands.Entry k) fs entries := by
    clear distinct
    induction entries with
    | nil => exact ⟨rfl, [], fun _ => .nil, .nil⟩
    | cons entry rest ih =>
      obtain ⟨key, e⟩ := entry
      obtain ⟨safe, finite, f, legible, stands⟩ := each (key, e) List.mem_cons_self
      obtain ⟨finiteRest, fs, legibleRest, following⟩ := ih fun e member => each e (List.mem_cons_of_mem _ member)
      exact ⟨by simp [Expr.nonFiniteInEntries?, finite, finiteRest], (key, f) :: fs,
        fun indent => .cons (Legible.entry key safe (Int.le_refl (-1)) (legible indent)) (legibleRest indent),
        .cons ⟨rfl, stands⟩ following⟩
  -- the entries keep their keys in order, so distinct ones stay distinct
  obtain ⟨finite, fs, legible, stands⟩ := parts
  refine ⟨finite, .record fs, fun indent => ?_, .record fs entries stands⟩
  simp only [Expr.print]
  exact (Legible.record _ indent _ fs (Stands.entry_keys fs entries stands ▸ distinct) (legible _)).loosen (by decide)

end Delivers

def exportsFrom (scope : Scope) : List Assignment → Scope
  | [] => scope
  | a :: rest => exportsFrom (scope ++ [(a.name, exported scope a.value)]) rest

structure Assignable (n : Nat) (a : Assignment) : Prop where
  named : isName a.name.toList = true
  free : a.name ∉ keywords
  delivers : Delivers n 64 a.value
  ends : (a.value.print 0).getLast? ≠ some '\n'

theorem evaluate_assignment (stack : Stack) (scope : Scope) (marks : Nat) (name : String) (f : Expr) (v : Value)
    (rest : List Assignment) (fresh : name ∉ scope.map (·.1)) (fits : f.Fits 64)
    (value : evaluate Context.empty.engine scope f = pure v) :
    evaluateAssignments stack scope marks (⟨name, f⟩ :: rest) =
      evaluateAssignments stack (scope ++ [(name, v)]) marks rest := by
  have unassigned : scope.any (·.1 == name) = false := by
    rw [List.any_eq_false]
    intro binding member same
    exact fresh (List.mem_map.mpr ⟨binding, member, by simpa using same⟩)
  rw [evaluateAssignments]
  simp only [unassigned, stack.roomy scope f fits, value]
  rfl

theorem assignments_evaluate (stack : Stack) (gs bs : List Assignment)
    (each : List.Forall₂ (fun g b => g.name = b.name ∧ Stands 64 g.value b.value) gs bs) :
    ∀ scope marks more, (scope.map (·.1) ++ bs.map (·.name)).Nodup →
      evaluateAssignments stack scope marks (gs ++ more) =
        evaluateAssignments stack (exportsFrom scope bs) marks more := by
  induction each with
  | nil => exact fun _ _ _ _ => rfl
  | @cons g b gs bs first _ ih =>
    obtain ⟨name, g⟩ := g
    obtain ⟨rfl, stands⟩ := first
    intro scope marks more distinct
    have fresh : b.name ∉ scope.map (·.1) := fun member =>
      (List.nodup_append.mp distinct).2.2 _ member _ (by simp) rfl
    rw [List.cons_append, evaluate_assignment stack scope marks b.name g _ (gs ++ more) fresh stands.fits (stands.value scope)]
    exact ih _ marks more (by simpa using distinct)

theorem assignments_read_back (stack : Stack) (n : Nat) (as : List Assignment) (each : ∀ a ∈ as, Assignable n a) :
    ∃ bs, List.Forall₂ (Assigns n) as bs ∧ ∀ scope marks, (scope.map (·.1) ++ as.map (·.name)).Nodup →
      evaluateAssignments stack scope marks bs = .ok (exportsFrom scope as, marks) := by
  obtain ⟨bs, assigns, values⟩ := pairs_between as as (R := Assigns n)
    (S := fun g b => g.name = b.name ∧ Stands 64 g.value b.value) <|
      List.forall₂_same.mpr fun a member => by
        obtain ⟨named, free, ⟨finite, f, legible, stands⟩, ends⟩ := each a member
        exact ⟨⟨a.name, f⟩, ⟨rfl, named, free, legible 0, ends⟩, rfl, stands⟩
  refine ⟨bs, assigns, fun scope marks distinct => ?_⟩
  have evaluates := assignments_evaluate stack bs as values scope marks [] distinct
  rwa [List.append_nil] at evaluates

theorem assignable_finite (p : Program) (n : Nat) (each : ∀ a ∈ p.assignments, Assignable n a) :
    p.text = .ok p.plainText := by
  have finite : p.assignments.findSome? (fun a => a.value.nonFinite?) = none := by
    rw [List.findSome?_eq_none_iff]
    exact fun a member => (each a member).delivers.finite
  simp [Program.text, finite]

theorem literals_load (stack : Stack) (p : Program) (n : Nat) (each : ∀ a ∈ p.assignments, Assignable n a)
    (distinct : (p.assignments.map (·.name)).Nodup) (script : LoadedScript)
    (exports : loadExports (exportsFrom [] p.assignments) 0 = .ok script) :
    (load stack p.plainText = .ok script ∨
      ∃ pos, load stack p.plainText = .error (.static (.badSyntax ⟨.nestedTooDeeply, pos⟩))) ∧
      (n ≤ 63 → load stack p.plainText = .ok script) := by
  obtain ⟨bs, assigns, evaluates⟩ := assignments_read_back stack n p.assignments each
  have loaded : parseScript p.plainText = .ok { assignments := bs } → load stack p.plainText = .ok script := by
    intro read
    simp only [load, read, evaluates [] 0 (by simpa using distinct), exports]
    rfl
  have whole := script_reads p bs n assigns
  refine ⟨?_, fun shallow => loaded (whole.2 shallow)⟩
  rcases whole.1 with read | ⟨pos, deep⟩
  · exact .inl (loaded read)
  · exact .inr ⟨pos, by simp only [load, deep]⟩

end DamagePlan.Script
