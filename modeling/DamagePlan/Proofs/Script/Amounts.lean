import DamagePlan.Proofs.Script.Outcomes
import DamagePlan.Proofs.Script.StandIns

/-!
Evaluation over given data: the amounts that helpers and operators make of numbers and lists, up to the call of the
engine that logs one.
-/
set_option autoImplicit false

namespace DamagePlan.Script

open Decimal

def Quietly {α : Type} (m : Evaluation α) (P : α → Prop) : Prop :=
  ∀ before, ∃ a after, m.run before = (.ok a, after) ∧ after.calls = before.calls ∧ P a

section Quiet

variable {α β : Type} {P R : α → Prop} {Q : β → Prop}

theorem quietly_mono (m : Evaluation α) (quiet : Quietly m P) (weaker : ∀ a, P a → R a) : Quietly m R := by
  intro before
  obtain ⟨a, after, ran, silent, holds⟩ := quiet before
  exact ⟨a, after, ran, silent, weaker a holds⟩

theorem quietly_pure (a : α) (holds : P a) : Quietly (pure a) P := fun before => ⟨a, before, rfl, rfl, holds⟩

theorem quietly_bind (m : Evaluation α) (f : α → Evaluation β) (first : Quietly m P) (second : ∀ a, P a → Quietly (f a) Q) :
    Quietly (m >>= f) Q := by
  intro before
  obtain ⟨a, between, ran, silent, holds⟩ := first before
  obtain ⟨b, after, ran', silent', holds'⟩ := second a holds between
  exact ⟨b, after, by rw [run_bind_ok m f before between a ran, ran'], silent'.trans silent, holds'⟩

theorem quietly_lift (x : Except Failure α) (a : α) (made : x = .ok a) (holds : P a) : Quietly (Evaluation.lift x) P := by
  subst made
  exact quietly_pure a holds

theorem quietly_mark (x : Numeral) : Quietly (Evaluation.mark x) (·.value = x.value) := by
  intro before
  unfold Evaluation.mark
  by_cases unmarked : x.isUnmarked = true
  · rw [if_pos unmarked]
    exact ⟨_, _, rfl, rfl, rfl⟩
  · rw [if_neg unmarked]
    exact ⟨x, before, rfl, rfl, rfl⟩

end Quiet

structure Counts (x : Float) (v : Value) : Prop where
  number : ∃ n, v.toNumber = .ok n ∧ n.value = x
  noText : isString v = false

theorem counts_number (x : Numeral) : Counts x.value (.number x) := ⟨⟨x, rfl, rfl⟩, rfl⟩

theorem counts_null : Counts 0 .null := ⟨⟨.zero, rfl, rfl⟩, rfl⟩

theorem Counts.no_list {x : Float} {v : Value} (counts : Counts x v) (items : List Value) : v ≠ .list items := by
  rintro rfl
  obtain ⟨n, number, -⟩ := counts.number
  cases number

theorem Counts.no_record {x : Float} {v : Value} (counts : Counts x v) (fields : List (String × Value)) :
    v ≠ .record fields := by
  rintro rfl
  obtain ⟨n, number, -⟩ := counts.number
  cases number

theorem finite_number_counts (x : Float) (finite : isFinite x = true) (v : Value) (counts : Counts x v) :
    Helper.finiteNumber v = x := by
  obtain ⟨n, number, rfl⟩ := counts.number
  unfold Helper.finiteNumber
  split
  · rename_i items
    exact absurd rfl (counts.no_list items)
  · rename_i fields
    exact absurd rfl (counts.no_record fields)
  · simp [number, finite]

theorem quietly_settle_number (v : Except Failure Value) (x : Numeral) (made : v = .ok (.number x)) :
    Quietly (settle v) fun w => ∃ y : Numeral, w = .number y ∧ y.value = x.value := by
  subst made
  refine quietly_bind _ _ (quietly_lift (P := (· = .number x)) _ _ rfl rfl) ?_
  rintro _ rfl
  exact quietly_bind _ _ (quietly_mark x) fun y same => quietly_pure _ ⟨y, rfl, same⟩

theorem quietly_settle (v : Except Failure Value) (x : Numeral) (made : v = .ok (.number x)) :
    Quietly (settle v) (Counts x.value) := by
  refine quietly_mono _ (quietly_settle_number v x made) ?_
  rintro _ ⟨y, rfl, same⟩
  exact same ▸ counts_number y

theorem quietly_number (x : Except Failure Numeral) (n : Numeral) (made : x = .ok n) :
    Quietly (Evaluation.number x) (Counts n.value) := by
  subst made
  refine quietly_bind _ _ (quietly_lift (P := (· = n)) _ _ rfl rfl) ?_
  rintro _ rfl
  exact quietly_bind _ _ (quietly_mark _) fun y same => quietly_pure _ (same ▸ counts_number y)

inductive TableValue where
  | scalar (x : Float)
  | list (xs : List Float)

namespace TableValue

def numbers : TableValue → List Float
  | .scalar x => [x]
  | .list xs => xs

def isList : TableValue → Bool
  | .scalar _ => false
  | .list _ => true

def part : TableValue → Nat → Float
  | .scalar x, _ => x
  | .list xs, i => (xs[i]?).getD 0

def sum : TableValue → Float
  | .scalar x => x
  | .list xs => xs.foldl (· + ·) 0

def value : TableValue → Value
  | .scalar x => .number ⟨x, none⟩
  | .list xs => .list (xs.map fun x => .number ⟨x, none⟩)

def Finite (v : TableValue) : Prop := ∀ x ∈ v.numbers, isFinite x = true

variable {v : TableValue}

theorem part_finite (finite : v.Finite) (i : Nat) : isFinite (v.part i) = true := by
  cases v with
  | scalar x => exact finite x (by simp [numbers])
  | list xs =>
    simp only [part]
    cases found : xs[i]? with
    | none => exact zero_laws.finite
    | some x => exact finite x (List.mem_of_getElem? found)

theorem pick_counts (i : Nat) (x : Float) (whole : toInteger x = .ok i) :
    ∃ w, Helper.pickFrom v.value (.number ⟨x, none⟩) = .ok w ∧ Counts (v.part i) w := by
  cases v with
  | scalar y => exact ⟨_, rfl, counts_number ⟨y, none⟩⟩
  | list xs =>
    refine ⟨((xs.map fun y => Value.number ⟨y, none⟩)[i]?).getD .null, ?_, ?_⟩
    · simp [value, Helper.pickFrom, Value.toNumber, whole, bind, Except.bind, pure, Except.pure]
    · simp only [part, List.getElem?_map]
      cases xs[i]? with
      | none => exact counts_null
      | some y => exact counts_number ⟨y, none⟩

theorem sum_counts (finite : v.Finite) : Counts v.sum (Helper.sumOf v.value) := by
  cases v with
  | scalar x =>
    have own := finite_number_counts x (finite x (by simp [numbers])) (.number ⟨x, none⟩) (counts_number ⟨x, none⟩)
    simp only [sum, value, Helper.sumOf, own]
    exact counts_number ⟨x, none⟩
  | list xs =>
    have each : ∀ total : Float, (xs.map fun x => Value.number ⟨x, none⟩).foldl
        (fun total v => total + Helper.finiteNumber v) total = xs.foldl (· + ·) total := by
      have all : ∀ x ∈ xs, isFinite x = true := finite
      clear finite
      induction xs with
      | nil => exact fun _ => rfl
      | cons x xs ih =>
        intro total
        have own := finite_number_counts x (all x List.mem_cons_self) (.number ⟨x, none⟩) (counts_number ⟨x, none⟩)
        simp only [List.map_cons, List.foldl_cons, own]
        exact ih (fun y member => all y (List.mem_cons_of_mem _ member)) _
    cases xs with
    | nil => exact ⟨⟨.zero, rfl, rfl⟩, rfl⟩
    | cons x xs =>
      have total := each 0
      simp only [List.map_cons] at total
      simp only [sum, value, List.map_cons, Helper.sumOf, total]
      exact counts_number ⟨_, none⟩

end TableValue

def ratioOf (game : Game) (x : Float) : Float :=
  match game with
  | .gs => x / 100
  | .sr => x

theorem ratio_counts (game : Game) (x : Float) (v : Value) (counts : Counts x v) :
    ∃ n, Helper.ratio game v = .ok n ∧ n.value = ratioOf game x := by
  obtain ⟨n, number, rfl⟩ := counts.number
  have ratio : Helper.ratio game v = .ok (match game with | .gs => ⟨n.value / 100, none⟩ | .sr => n) := by
    unfold Helper.ratio
    split
    · exact absurd rfl (counts.no_list [])
    · rename_i head rest
      exact absurd rfl (counts.no_list (head :: rest))
    · cases game <;> simp only [number, bind, Except.bind, pure, Except.pure]
  cases game
  · exact ⟨_, ratio, rfl⟩
  · exact ⟨_, ratio, rfl⟩

inductive IsAttribute : Value → Float → Prop
  | absent : IsAttribute .null 0
  | number (x : Numeral) : IsAttribute (.number x) x.value
  | parts (fields : List (String × Value)) (base plus pct : Numeral) (based : Value.field fields "base" = .number base)
      (added : Value.field fields "plus" = .number plus) (raised : Value.field fields "pct" = .number pct) :
      IsAttribute (.record fields) (base.value * (1 + pct.value / 100) + plus.value)

def HasTotal (v : Value) (x : Float) : Prop := ∃ n, Helper.total v = .ok n ∧ n.value = x

theorem attribute_total (v : Value) (x : Float) (totals : IsAttribute v x) : HasTotal v x := by
  cases totals with
  | absent => exact ⟨.zero, rfl, rfl⟩
  | number x => exact ⟨x, rfl, rfl⟩
  | parts fields base plus pct based added raised =>
    refine ⟨⟨base.value * (1 + pct.value / 100) + plus.value, none⟩, ?_, rfl⟩
    simp only [Helper.total, based, added, raised, Value.toNumber, bind, Except.bind, pure, Except.pure]

structure Recorded (game : Game) (talents attrs : List (String × Value)) (engine : Engine) (scope : Scope) : Prop where
  recording : engine = .ofKind .recording game
  tables : scope.lookup "talent" = some (.record talents)
  stats : scope.lookup "attr" = some (.record attrs)
  helpers : ∀ entry ∈ formulaHelpers, scope.lookup entry.1 = some (.helper entry.2)

theorem recording_recorded (game : Game) (talents attrs : List (String × Value)) (params : Value) (cons : Numeral)
    (weapon trees : Value) (element currentTalent : String) (captured : Scope) :
    let context := Context.recording game (.record talents) (.record attrs) params cons weapon trees element currentTalent
    Recorded game talents attrs context.engine (Scope.overlay captured context.bindings) where
  recording := rfl
  tables := lookup_overlay _ _ _ _ rfl
  stats := lookup_overlay _ _ _ _ rfl
  helpers := by
    simp only [formulaHelpers, List.forall_mem_cons]
    refine ⟨?_, ?_, ?_, ?_, ?_, ?_, ?_, ?_, ?_, ?_, List.forall_mem_nil _⟩ <;> exact lookup_overlay _ _ _ _ rfl

def Finds (engine : Engine) (scope : Scope) (e : Expr) (P : Value → Prop) : Prop := Quietly (evaluate engine scope e) P

section Calls

variable {game : Game} {talents attrs : List (String × Value)} {engine : Engine} {scope : Scope}
  {e f g : Expr} {P Q : Value → Prop} {x y : Float}

theorem finds_number (x : Float) : Finds engine scope (.number x) (Counts x) :=
  quietly_pure _ (counts_number ⟨x, none⟩)

theorem conditional_finds (b : Bool) (test : Finds engine scope e (· = .bool b)) (consequent : b = true → Finds engine scope f P)
    (alternative : b = false → Finds engine scope g P) : Finds engine scope (.conditional e f g) P := by
  unfold Finds
  simp only [evaluate]
  refine quietly_bind _ _ test ?_
  rintro _ rfl
  cases b with
  | true => exact consequent rfl
  | false => exact alternative rfl

theorem times_finds (left : Finds engine scope e (Counts x)) (right : Finds engine scope f (Counts y)) :
    Finds engine scope (.binary .multiply e f) (Counts (x * y)) := by
  unfold Finds
  simp only [evaluate]
  refine quietly_bind _ _ left fun v counts => quietly_bind _ _ right fun w counts' => ?_
  obtain ⟨n, number, rfl⟩ := counts.number
  obtain ⟨m, number', rfl⟩ := counts'.number
  exact quietly_settle _ ⟨n.value * m.value, none⟩
    (by simp only [applyBinary, arithmetic, number, number', bind, Except.bind, pure, Except.pure])

theorem plus_finds (left : Finds engine scope e (Counts x)) (right : Finds engine scope f (Counts y)) :
    Finds engine scope (.binary .add e f) (Counts (x + y)) := by
  unfold Finds
  simp only [evaluate]
  refine quietly_bind _ _ left fun v counts => quietly_bind _ _ right fun w counts' => ?_
  obtain ⟨n, number, rfl⟩ := counts.number
  obtain ⟨m, number', rfl⟩ := counts'.number
  refine quietly_settle _ ⟨n.value + m.value, none⟩ ?_
  simp [applyBinary, counts.noText, counts'.noText, arithmetic, number, number', bind, Except.bind, pure, Except.pure]

theorem compare_with_number (texts : String → String → Bool) (numbers : Float → Float → Bool) (v : Value) (n m : Numeral)
    (number : v.toNumber = .ok n) : compareWith texts numbers v (.number m) = .ok (.bool (numbers n.value m.value)) := by
  have opened : compareWith texts numbers v (.number m) = v.toNumber >>= fun x => .ok (.bool (numbers x.value m.value)) := by
    cases v <;> rfl
  rw [opened, number]
  rfl

theorem greater_finds (left : Finds engine scope e (Counts x)) (least : Float) :
    Finds engine scope (.binary .greater e (.number least)) (· = .bool (decide (least < x))) := by
  unfold Finds
  simp only [evaluate]
  refine quietly_bind _ _ left fun v counts => ?_
  obtain ⟨n, number, rfl⟩ := counts.number
  simp only [pure_bind, applyBinary, compare_with_number _ _ v n _ number]
  exact quietly_pure _ rfl

variable (recorded : Recorded game talents attrs engine scope)

include recorded

theorem call_finds (name : String) (h : Helper) (known : (name, h) ∈ formulaHelpers) (argument : Finds engine scope e P)
    (applied : ∀ v, P v → Quietly (h.apply engine [v]) Q) : Finds engine scope (.callName name [e]) Q := by
  have helper := recorded.helpers _ known
  dsimp only at helper
  unfold Finds
  simp only [Expr.callName, evaluate, helper, evaluateList, pure_bind, bind_assoc]
  exact quietly_bind _ _ argument applied

theorem num_finds (finite : isFinite x = true) (argument : Finds engine scope e (Counts x)) :
    Finds engine scope (.callName "num" [e]) (Counts x) := by
  refine call_finds recorded "num" .num (by decide) argument fun v counts => ?_
  have own := finite_number_counts x finite v counts
  have applied : Helper.apply engine .num [v] = pure (.number ⟨x, none⟩) := by
    simp [Helper.apply, Helper.accepts, Helper.arity, Helper.argument, own]
  rw [applied]
  exact quietly_pure _ (counts_number ⟨x, none⟩)

theorem pick_finds (v : TableValue) (table : Finds engine scope e (· = v.value)) (i : Nat) (x : Float)
    (whole : toInteger x = .ok i) : Finds engine scope (.callName "pick" [e, .number x]) (Counts (v.part i)) := by
  have helper := recorded.helpers ("pick", .pick) (by decide)
  dsimp only at helper
  unfold Finds
  simp only [Expr.callName, evaluate, helper, evaluateList, pure_bind, bind_assoc]
  refine quietly_bind _ _ table ?_
  rintro _ rfl
  obtain ⟨w, picked, counts⟩ := TableValue.pick_counts (v := v) i x whole
  have applied : Helper.apply engine .pick [v.value, .number ⟨x, none⟩] = Evaluation.lift (.ok w) := by
    simp [Helper.apply, Helper.accepts, Helper.arity, Helper.argument, picked]
  rw [applied]
  exact quietly_lift _ w rfl counts

theorem sum_finds (v : TableValue) (finite : v.Finite) (table : Finds engine scope e (· = v.value)) :
    Finds engine scope (.callName "sum" [e]) (Counts v.sum) := by
  refine call_finds recorded "sum" .sum (by decide) table ?_
  rintro _ rfl
  have applied : Helper.apply engine .sum [v.value] = pure (Helper.sumOf v.value) := by
    simp [Helper.apply, Helper.accepts, Helper.arity, Helper.argument]
  rw [applied]
  exact quietly_pure _ (TableValue.sum_counts finite)

theorem is_list_finds (v : TableValue) (table : Finds engine scope e (· = v.value)) :
    Finds engine scope (.callName "isList" [e]) (· = .bool v.isList) := by
  refine call_finds recorded "isList" .isList (by decide) table ?_
  rintro _ rfl
  cases v with
  | scalar x => exact quietly_pure (Value.bool false) rfl
  | list xs => exact quietly_pure (Value.bool true) rfl

theorem calc_finds (argument : Finds engine scope e (HasTotal · x)) :
    Finds engine scope (.callName "calc" [e]) (Counts x) := by
  refine call_finds recorded "calc" .calc (by decide) argument fun v totals => ?_
  obtain ⟨n, total, rfl⟩ := totals
  have applied : Helper.apply engine .calc [v] = Evaluation.number (Helper.total v) := by
    rw [recorded.recording]
    simp [Helper.apply, Engine.ofKind, EngineKind.arity, Helper.arity, Helper.accepts, Helper.isEngaged, Helper.argument]
  rw [applied]
  exact quietly_number _ n total

theorem to_ratio_finds (argument : Finds engine scope e (Counts x)) :
    Finds engine scope (.callName "toRatio" [e]) (Counts (ratioOf game x)) := by
  refine call_finds recorded "toRatio" .toRatio (by decide) argument fun v counts => ?_
  obtain ⟨n, ratio, same⟩ := ratio_counts game x v counts
  have applied : Helper.apply engine .toRatio [v] = Evaluation.number (Helper.ratio game v) := by
    rw [recorded.recording]
    simp [Helper.apply, Engine.ofKind, EngineKind.arity, Helper.arity, Helper.accepts, Helper.isEngaged, Helper.argument]
  rw [applied, ← same]
  exact quietly_number _ n ratio

end Calls

inductive EngineCall where
  | amount (h : Helper) (x : Float) (further : List Value)
  | reaction (id : String)

inductive IsLogged : EngineCall → List Value → Value → Prop
  | amount (h : Helper) (further : List Value) (y : Numeral) :
      IsLogged (.amount h y.value further) (.string h.name :: .number y :: further) (Helper.damageRecord y)
  | reaction (id : String) : IsLogged (.reaction id) [.string Helper.reaction.name, .string id] (Helper.damageRecord .zero)

def Engages (m : Evaluation Value) (call : EngineCall) : Prop :=
  ∀ before, ∃ entry v after, m.run before = (.ok v, after) ∧ after.calls = before.calls ++ [entry] ∧ IsLogged call entry v

theorem engages_after {α : Type} {P : α → Prop} (m : Evaluation α) (f : α → Evaluation Value) (call : EngineCall)
    (first : Quietly m P) (second : ∀ a, P a → Engages (f a) call) : Engages (m >>= f) call := by
  intro before
  obtain ⟨a, between, ran, silent, holds⟩ := first before
  obtain ⟨entry, v, after, ran', logged, isLogged⟩ := second a holds between
  exact ⟨entry, v, after, by rw [run_bind_ok m f before between a ran, ran'], by rw [logged, silent], isLogged⟩

theorem engages_log (call : EngineCall) (entry : List Value) (v : Value) (isLogged : IsLogged call entry v) :
    Engages (do Evaluation.log entry; return v) call := fun _ => ⟨entry, v, _, rfl, rfl, isLogged⟩

def filledUp (args : List Value) : List Value := [(args[0]?).getD .null, (args[1]?).getD .null]

theorem engage_amount (game : Game) (h : Helper) (x : Float) (v : Value) (counts : Counts x v) (args : List Value)
    (few : args.length ≤ 2) (dealt : h = .dmg ∨ h = .dmgBasic) :
    Engages (h.apply (.ofKind .recording game) (v :: args)) (.amount h x (filledUp args)) := by
  obtain ⟨n, number, rfl⟩ := counts.number
  have accepted : Helper.accepts (0, some 3) (args.length + 1) = true := by
    simp [Helper.accepts]
    omega
  have applied : h.apply (.ofKind .recording game) (v :: args) = (do
      let x ← Evaluation.mark (← Evaluation.lift v.toNumber)
      Evaluation.log (.string h.name :: .number x :: filledUp args)
      return Helper.damageRecord x) := by
    rcases dealt with rfl | rfl <;>
      simp [Helper.apply, Engine.ofKind, EngineKind.arity, Helper.arity, Helper.isEngaged, Helper.engage, accepted,
        Helper.argument, filledUp]
  rw [applied]
  refine engages_after _ _ _ (quietly_lift (P := (· = n)) _ n number rfl) ?_
  rintro _ rfl
  refine engages_after _ _ _ (quietly_mark _) fun y same => ?_
  exact engages_log _ _ _ (same ▸ .amount h (filledUp args) y)

theorem engage_support (game : Game) (h : Helper) (x : Float) (v : Value) (counts : Counts x v)
    (dealt : h = .heal ∨ h = .shield) : Engages (h.apply (.ofKind .recording game) [v]) (.amount h x []) := by
  obtain ⟨n, number, rfl⟩ := counts.number
  have applied : h.apply (.ofKind .recording game) [v] = (do
      let x ← Evaluation.mark (← Evaluation.lift v.toNumber)
      Evaluation.log [.string h.name, .number x]
      return Helper.damageRecord x) := by
    rcases dealt with rfl | rfl <;>
      simp [Helper.apply, Engine.ofKind, EngineKind.arity, Helper.arity, Helper.accepts, Helper.isEngaged, Helper.engage,
        Helper.argument]
  rw [applied]
  refine engages_after _ _ _ (quietly_lift (P := (· = n)) _ n number rfl) ?_
  rintro _ rfl
  refine engages_after _ _ _ (quietly_mark _) fun y same => ?_
  exact engages_log _ _ _ (same ▸ .amount h [] y)

theorem engage_reaction (game : Game) (id : String) :
    Engages (Helper.reaction.apply (.ofKind .recording game) [.string id]) (.reaction id) :=
  engages_log (.reaction id) _ _ (.reaction id)

section Expressions

variable {game : Game} {talents attrs : List (String × Value)} {engine : Engine} {scope : Scope} {e f g : Expr}

theorem conditional_engages (b : Bool) (call : EngineCall) (test : Finds engine scope e (· = .bool b))
    (consequent : b = true → Engages (evaluate engine scope f) call)
    (alternative : b = false → Engages (evaluate engine scope g) call) :
    Engages (evaluate engine scope (.conditional e f g)) call := by
  simp only [evaluate]
  refine engages_after _ _ call test ?_
  rintro _ rfl
  cases b with
  | true => exact consequent rfl
  | false => exact alternative rfl

theorem call_engages (recorded : Recorded game talents attrs engine scope) (name : String) (h : Helper)
    (known : (name, h) ∈ formulaHelpers) (args : List Expr) (P : List Value → Prop) (call : EngineCall)
    (arguments : Quietly (evaluateList engine scope args) P)
    (applied : ∀ vs, P vs → Engages (h.apply (.ofKind .recording game) vs) call) :
    Engages (evaluate engine scope (.callName name args)) call := by
  have helper := recorded.helpers _ known
  dsimp only at helper
  simp only [Expr.callName, evaluate, helper, pure_bind]
  exact engages_after _ _ call arguments (recorded.recording ▸ applied)

end Expressions

end DamagePlan.Script
