import DamagePlan.Proofs.Script.Outcomes

/-!
Evaluation a second time: what an expression comes to does not depend on the calls and marks that were made before, but
for the marks of numbers, as long as the expression does not ask whether values are equal.
-/
set_option autoImplicit false

namespace DamagePlan.Script

namespace Value

mutual
def unmarked : Value → Value
  | .number x => .number ⟨x.value, none⟩
  | .list items => .list (unmarkedList items)
  | .record fields => .record (unmarkedFields fields)
  | v => v

def unmarkedList : List Value → List Value
  | [] => []
  | v :: vs => unmarked v :: unmarkedList vs

def unmarkedFields : List (String × Value) → List (String × Value)
  | [] => []
  | (k, v) :: rest => (k, unmarked v) :: unmarkedFields rest
end

theorem unmarked_list_map (vs : List Value) : unmarkedList vs = vs.map unmarked := by
  induction vs with
  | nil => rfl
  | cons v vs ih => rw [unmarkedList, ih, List.map_cons]

theorem field_unmarked (fields : List (String × Value)) (key : String) :
    field (unmarkedFields fields) key = (field fields key).unmarked := by
  induction fields with
  | nil => rfl
  | cons entry rest ih =>
    obtain ⟨k, v⟩ := entry
    simp only [field, unmarkedFields, List.lookup_cons] at ih ⊢
    split
    · rfl
    · exact ih

mutual
theorem unmarked_twice (v : Value) : v.unmarked.unmarked = v.unmarked := by
  cases v with
  | list items => rw [unmarked, unmarked, unmarked_list_twice items]
  | record fields => rw [unmarked, unmarked, unmarked_fields_twice fields]
  | _ => rfl

theorem unmarked_list_twice (vs : List Value) : unmarkedList (unmarkedList vs) = unmarkedList vs := by
  cases vs with
  | nil => rfl
  | cons v vs => rw [unmarkedList, unmarkedList, unmarked_twice v, unmarked_list_twice vs]

theorem unmarked_fields_twice (fields : List (String × Value)) :
    unmarkedFields (unmarkedFields fields) = unmarkedFields fields := by
  cases fields with
  | nil => rfl
  | cons entry rest =>
    obtain ⟨k, v⟩ := entry
    rw [unmarkedFields, unmarkedFields, unmarked_twice v, unmarked_fields_twice rest]
end

theorem item_unmarked (vs : List Value) (i : Nat) : ((vs.map unmarked)[i]?).getD .null = ((vs[i]?).getD .null).unmarked := by
  rw [List.getElem?_map]
  cases vs[i]? <;> rfl

end Value

open Value (unmarked unmarked_twice)

def Agrees {α β : Type} (read : α → β) (x y : Except Failure α) : Prop := x.map read = y.map read

def Echoes {α β : Type} (read : α → β) (m m' : Evaluation α) : Prop :=
  ∀ before before', Agrees read (m.run before).1 (m'.run before').1

section Agreement

variable {α α' β β' : Type} {read : α → β} {read' : α' → β'} {x y z : Except Failure α}

theorem Agrees.symm (agrees : Agrees read x y) : Agrees read y x := Eq.symm agrees

theorem Agrees.trans (agrees : Agrees read x y) (agrees' : Agrees read y z) : Agrees read x z := Eq.trans agrees agrees'

theorem agrees_ok (a b : α) (same : read a = read b) : Agrees read (.ok a) (.ok b) := congrArg Except.ok same

theorem agrees_refl (x : Except Failure α) : Agrees read x x := rfl

theorem agrees_bind {f g : α → Except Failure α'} (first : Agrees read x y)
    (second : ∀ a b, read a = read b → Agrees read' (f a) (g b)) : Agrees read' (x >>= f) (y >>= g) := by
  cases x with
  | error e =>
    cases y with
    | error e' =>
      cases first
      exact agrees_refl _
    | ok b => cases first
  | ok a =>
    cases y with
    | error e' => cases first
    | ok b => exact second a b (Except.ok.inj first)

theorem agrees_after {f g : α → Except Failure α'} (x : Except Failure α) (second : ∀ a, Agrees read' (f a) (g a)) :
    Agrees read' (x >>= f) (x >>= g) := by
  cases x with
  | error e => exact agrees_refl _
  | ok a => exact second a

theorem echoes_pure (a b : α) (same : read a = read b) : Echoes read (pure a) (pure b) := fun _ _ => agrees_ok a b same

theorem echoes_throw (e : Failure) : Echoes read (throw e) (throw e) := fun _ _ => rfl

theorem echoes_lift (agrees : Agrees read x y) : Echoes read (Evaluation.lift x) (Evaluation.lift y) := by
  intro before before'
  cases x <;> cases y <;> exact agrees

theorem echoes_bind {m m' : Evaluation α} {f f' : α → Evaluation α'} (first : Echoes read m m')
    (second : ∀ a a', read a = read a' → Echoes read' (f a) (f' a')) : Echoes read' (m >>= f) (m' >>= f') := by
  intro before before'
  have outcomes := first before before'
  cases ran : m.run before with
  | mk result after =>
    cases ran' : m'.run before' with
    | mk result' after' =>
      rw [ran, ran'] at outcomes
      cases result with
      | error e =>
        cases result' with
        | error e' =>
          cases outcomes
          rw [run_bind_error m f before after e ran, run_bind_error m' f' before' after' e ran']
          exact agrees_refl _
        | ok b => cases outcomes
      | ok a =>
        cases result' with
        | error e' => cases outcomes
        | ok b =>
          rw [run_bind_ok m f before after a ran, run_bind_ok m' f' before' after' b ran']
          exact second a b (Except.ok.inj outcomes) after after'

theorem echoes_log (entry entry' : List Value) :
    Echoes (fun _ => ()) (Evaluation.log entry) (Evaluation.log entry') := fun _ _ => rfl

theorem echoes_mark (x y : Numeral) (same : x.value = y.value) :
    Echoes Numeral.value (Evaluation.mark x) (Evaluation.mark y) := by
  have worth : ∀ (x : Numeral) before, ((Evaluation.mark x).run before).1.map Numeral.value = .ok x.value := by
    intro x before
    unfold Evaluation.mark
    split <;> rfl
  intro before before'
  exact (worth x before).trans (same ▸ (worth y before').symm)

theorem echoes_number (x y : Except Failure Numeral) (agrees : Agrees Numeral.value x y) :
    Echoes unmarked (Evaluation.number x) (Evaluation.number y) := by
  refine echoes_bind (echoes_lift agrees) fun n m same => ?_
  refine echoes_bind (echoes_mark n m same) fun n m same => echoes_pure _ _ ?_
  simp only [unmarked, same]

theorem echoes_settle (v w : Except Failure Value) (agrees : Agrees unmarked v w) :
    Echoes unmarked (settle v) (settle w) := by
  refine echoes_bind (echoes_lift agrees) fun a b same => ?_
  cases a with
  | number x =>
    cases b with
    | number y =>
      have worth : x.value = y.value := by simpa [unmarked] using same
      refine echoes_bind (echoes_mark x y worth) fun n m same => echoes_pure _ _ ?_
      simp only [unmarked, same]
    | _ => cases same
  | _ =>
    cases b with
    | number y => cases same
    | _ => exact echoes_pure _ _ same

end Agreement

section Steps

variable {α β : Type} {read : α → β} {v w k l : Value}

theorem unmarked_agrees (f : Value → Except Failure α) (blind : ∀ v, Agrees read (f v.unmarked) (f v))
    (same : v.unmarked = w.unmarked) : Agrees read (f v) (f w) := (blind v).symm.trans (same ▸ blind w)

theorem unmarked_same (f : Value → β) (blind : ∀ v, f v.unmarked = f v) (same : v.unmarked = w.unmarked) : f v = f w :=
  (blind v).symm.trans (same ▸ blind w)

theorem to_number_agrees (same : v.unmarked = w.unmarked) : Agrees Numeral.value v.toNumber w.toNumber :=
  unmarked_agrees Value.toNumber (fun v => by cases v <;> rfl) same

theorem truthy_same (same : v.unmarked = w.unmarked) : v.isTruthy = w.isTruthy :=
  unmarked_same Value.isTruthy (fun v => by cases v <;> rfl) same

theorem describe_same (same : v.unmarked = w.unmarked) : v.describe = w.describe :=
  unmarked_same Value.describe (fun v => by cases v <;> rfl) same

theorem to_text_agrees (same : v.unmarked = w.unmarked) : Agrees id v.toText w.toText :=
  unmarked_agrees Value.toText (fun v => by cases v <;> rfl) same

theorem is_string_same (same : v.unmarked = w.unmarked) : isString v = isString w :=
  unmarked_same isString (fun v => by cases v <;> rfl) same

theorem finite_number_same (same : v.unmarked = w.unmarked) : Helper.finiteNumber v = Helper.finiteNumber w :=
  unmarked_same Helper.finiteNumber (fun v => by cases v <;> rfl) same

theorem member_of_agrees (name : String) (same : v.unmarked = w.unmarked) :
    Agrees unmarked (memberOf v name) (memberOf w name) := by
  refine unmarked_agrees (memberOf · name) (fun v => ?_) same
  cases v with
  | record fields =>
    simp only [unmarked, memberOf, Value.field_unmarked]
    exact agrees_ok _ _ (unmarked_twice _)
  | list items =>
    simp only [unmarked, memberOf, Value.unmarked_list_map, List.length_map]
    exact agrees_refl _
  | _ => exact agrees_refl _

theorem index_of_agrees (same : v.unmarked = w.unmarked) (same' : k.unmarked = l.unmarked) :
    Agrees unmarked (indexOf v k) (indexOf w l) := by
  have object : Agrees unmarked (indexOf v k) (indexOf w k) := by
    refine unmarked_agrees (indexOf · k) (fun v => ?_) same
    cases v with
    | record fields =>
      cases k with
      | string name =>
        simp only [unmarked, indexOf, Value.field_unmarked]
        exact agrees_ok _ _ (unmarked_twice _)
      | _ => exact agrees_refl _
    | list items =>
      refine agrees_after k.toNumber fun x => ?_
      split
      · rw [Value.unmarked_list_map, Value.item_unmarked]
        exact agrees_ok _ _ (unmarked_twice _)
      · exact agrees_refl _
    | _ => exact agrees_refl _
  refine object.trans (unmarked_agrees (indexOf w ·) (fun k => ?_) same')
  have number : Agrees Numeral.value k.unmarked.toNumber k.toNumber := to_number_agrees (unmarked_twice k)
  cases w with
  | list items =>
    refine agrees_bind number fun x y worth => ?_
    rw [worth]
    exact agrees_refl _
  | string s =>
    refine agrees_bind number fun x y worth => ?_
    rw [worth]
    exact agrees_refl _
  | standIn s =>
    have place : s.index k.unmarked = s.index k := by
      obtain ⟨isTable, truthy, arrayTables, origin⟩ := s
      cases arrayTables <;> cases k <;> rfl
    simp only [indexOf, place]
    exact agrees_refl _
  | record fields => cases k <;> exact agrees_refl _
  | _ => exact agrees_refl _

theorem pick_from_agrees (same : v.unmarked = w.unmarked) (same' : k.unmarked = l.unmarked) :
    Agrees unmarked (Helper.pickFrom v k) (Helper.pickFrom w l) := by
  have object : Agrees unmarked (Helper.pickFrom v k) (Helper.pickFrom w k) := by
    refine unmarked_agrees (Helper.pickFrom · k) (fun v => ?_) same
    cases v with
    | list items =>
      refine agrees_after k.toNumber fun x => ?_
      refine agrees_after (toInteger x.value) fun i => ?_
      split
      · rw [Value.unmarked_list_map, Value.item_unmarked]
        exact agrees_ok _ _ (unmarked_twice _)
      · exact agrees_refl _
    | _ => exact agrees_ok _ _ (unmarked_twice _)
  refine object.trans (unmarked_agrees (Helper.pickFrom w ·) (fun k => ?_) same')
  cases w with
  | list items =>
    refine agrees_bind (to_number_agrees (unmarked_twice k)) fun x y worth => ?_
    rw [worth]
    exact agrees_refl _
  | _ => exact agrees_refl _

theorem sum_of_same (same : v.unmarked = w.unmarked) : (Helper.sumOf v).unmarked = (Helper.sumOf w).unmarked := by
  refine unmarked_same (fun v => (Helper.sumOf v).unmarked) (fun v => ?_) same
  cases v with
  | list items =>
    have each : ∀ total, (items.map unmarked).foldl (fun total v => total + Helper.finiteNumber v) total =
        items.foldl (fun total v => total + Helper.finiteNumber v) total := by
      intro total
      simp only [List.foldl_map, finite_number_same (unmarked_twice _)]
    cases items with
    | nil => rfl
    | cons first rest => simp only [unmarked, Value.unmarked_list_map, List.map_cons, Helper.sumOf, ← each]
  | _ => rfl

theorem total_agrees (same : v.unmarked = w.unmarked) : Agrees Numeral.value (Helper.total v) (Helper.total w) := by
  refine unmarked_agrees Helper.total (fun v => ?_) same
  cases v with
  | record fields =>
    have part : ∀ key, Agrees Numeral.value (Value.field (Value.unmarkedFields fields) key).toNumber
        (Value.field fields key).toNumber := fun key =>
      Value.field_unmarked fields key ▸ to_number_agrees (unmarked_twice _)
    refine agrees_bind (part "base") fun base base' sameBase => ?_
    refine agrees_bind (part "plus") fun plus plus' samePlus => ?_
    refine agrees_bind (part "pct") fun pct pct' samePct => agrees_ok _ _ ?_
    simp only [sameBase, samePlus, samePct]
  | _ => rfl

theorem ratio_agrees (game : Game) (same : v.unmarked = w.unmarked) :
    Agrees Numeral.value (Helper.ratio game v) (Helper.ratio game w) := by
  refine unmarked_agrees (Helper.ratio game) (fun v => ?_) same
  have rated (f : Numeral → Numeral) (values : ∀ x y, x.value = y.value → (f x).value = (f y).value) (v : Value) :
      Agrees Numeral.value (v.unmarked.toNumber >>= fun x => .ok (f x)) (v.toNumber >>= fun x => .ok (f x)) :=
    agrees_bind (to_number_agrees (unmarked_twice v)) fun x y worth => agrees_ok _ _ (values x y worth)
  cases game with
  | gs =>
    have percent := rated (fun x => ⟨x.value / 100, none⟩) fun x y worth => by simp only [worth]
    cases v with
    | list items =>
      cases items with
      | nil => exact agrees_refl _
      | cons first rest => exact percent first
    | _ => exact percent _
  | sr =>
    have share := rated id fun _ _ worth => worth
    cases v with
    | list items =>
      cases items with
      | nil => exact agrees_refl _
      | cons first rest => exact share first
    | _ => exact share _

theorem round_to_agrees (same : v.unmarked = w.unmarked) (same' : k.unmarked = l.unmarked) :
    Agrees Numeral.value (Helper.roundTo v k) (Helper.roundTo w l) := by
  refine agrees_bind (to_number_agrees same) fun x y worth => ?_
  refine agrees_bind (to_number_agrees same') fun d e worth' => ?_
  rw [worth']
  refine agrees_after (toInteger e.value) fun i => ?_
  rw [worth]
  exact agrees_refl _

theorem arithmetic_agrees (f : Float → Float → Except Failure Float) (same : v.unmarked = w.unmarked)
    (same' : k.unmarked = l.unmarked) : Agrees unmarked (arithmetic f v k) (arithmetic f w l) := by
  refine agrees_bind (to_number_agrees same) fun x y worth => ?_
  refine agrees_bind (to_number_agrees same') fun x' y' worth' => ?_
  rw [worth, worth']
  exact agrees_refl _

theorem compare_with_agrees (texts : String → String → Bool) (numbers : Float → Float → Bool)
    (same : v.unmarked = w.unmarked) (same' : k.unmarked = l.unmarked) :
    Agrees unmarked (compareWith texts numbers v k) (compareWith texts numbers w l) := by
  have compared : ∀ v w k l : Value, v.unmarked = w.unmarked → k.unmarked = l.unmarked → Agrees unmarked
      (do let x ← v.toNumber; let y ← k.toNumber; return .bool (numbers x.value y.value))
      (do let x ← w.toNumber; let y ← l.toNumber; return .bool (numbers x.value y.value)) := by
    intro v w k l same same'
    refine agrees_bind (to_number_agrees same) fun x y worth => ?_
    refine agrees_bind (to_number_agrees same') fun x' y' worth' => ?_
    rw [worth, worth']
    exact agrees_refl _
  have left : Agrees unmarked (compareWith texts numbers v k) (compareWith texts numbers w k) := by
    refine unmarked_agrees (compareWith texts numbers · k) (fun v => ?_) same
    cases v with
    | string s => exact agrees_refl _
    | _ => exact compared _ _ _ _ (unmarked_twice _) rfl
  refine left.trans (unmarked_agrees (compareWith texts numbers w ·) (fun k => ?_) same')
  cases w with
  | string s =>
    cases k with
    | string t => exact agrees_refl _
    | _ => exact compared _ _ _ _ rfl (unmarked_twice _)
  | _ => exact compared _ _ _ _ rfl (unmarked_twice _)

theorem apply_unary_agrees (op : UnaryOp) (same : v.unmarked = w.unmarked) :
    Agrees unmarked (applyUnary op v) (applyUnary op w) := by
  refine unmarked_agrees (applyUnary op) (fun v => ?_) same
  cases op with
  | not =>
    simp only [applyUnary, truthy_same (unmarked_twice v)]
    exact agrees_refl _
  | negate => cases v <;> rfl
  | plus => cases v <;> rfl

def BinaryOp.equates (op : BinaryOp) : Bool := op = .equal || op = .notEqual

theorem apply_binary_agrees (op : BinaryOp) (plain : op.equates = false) (same : v.unmarked = w.unmarked)
    (same' : k.unmarked = l.unmarked) : Agrees unmarked (applyBinary op v k) (applyBinary op w l) := by
  cases op with
  | equal | notEqual => cases plain
  | less | lessEqual | greater | greaterEqual =>
    simp only [applyBinary]
    exact compare_with_agrees _ _ same same'
  | add =>
    simp only [applyBinary, is_string_same same, is_string_same same']
    split
    · refine agrees_bind (to_text_agrees same) fun s t text => ?_
      refine agrees_bind (to_text_agrees same') fun s' t' text' => ?_
      obtain rfl : s = t := text
      obtain rfl : s' = t' := text'
      exact agrees_refl _
    · exact arithmetic_agrees _ same same'
  | subtract | multiply | divide | remainder =>
    simp only [applyBinary]
    exact arithmetic_agrees _ same same'
  | and | or =>
    simp only [applyBinary, truthy_same same]
    split
    · exact agrees_ok _ _ (by assumption)
    · exact agrees_ok _ _ (by assumption)

end Steps

section Helpers

variable {args args' : List Value}

theorem argument_same (same : args.map unmarked = args'.map unmarked) (i : Nat) :
    (Helper.argument args i).unmarked = (Helper.argument args' i).unmarked := by
  unfold Helper.argument
  rw [← Value.item_unmarked, same, Value.item_unmarked]

theorem optional_same (same : args.map unmarked = args'.map unmarked) (i : Nat) (w : Value) :
    ((args[i]?).getD w).unmarked = ((args'[i]?).getD w).unmarked := by
  have item := congrArg (·[i]?) same
  simp only [List.getElem?_map] at item
  cases found : args[i]? with
  | none =>
    cases found' : args'[i]? with
    | none => rfl
    | some v => simp [found, found'] at item
  | some v =>
    cases found' : args'[i]? with
    | none => simp [found, found'] at item
    | some v' => simpa [found, found'] using item

theorem numbers_agree (same : args.map unmarked = args'.map unmarked) :
    Agrees (List.map Numeral.value) (Helper.numbersOf args) (Helper.numbersOf args') := by
  induction args generalizing args' with
  | nil =>
    obtain rfl : args' = [] := by simpa using same.symm
    exact agrees_refl _
  | cons v args ih =>
    obtain ⟨w, args', rfl⟩ : ∃ w rest, args' = w :: rest := List.exists_cons_of_ne_nil (by rintro rfl; cases same)
    obtain ⟨first, rest⟩ := List.cons.inj same
    refine agrees_bind (to_number_agrees first) fun x y worth => ?_
    refine agrees_bind (ih rest) fun xs ys worths => agrees_ok _ _ ?_
    simp only [List.map_cons, worth, worths]

theorem best_same (better : Float → Float → Bool) (x y : Numeral) (xs ys : List Numeral) (worth : x.value = y.value)
    (worths : xs.map Numeral.value = ys.map Numeral.value) :
    (Helper.best better x xs).value = (Helper.best better y ys).value := by
  induction xs generalizing x y ys with
  | nil =>
    obtain rfl : ys = [] := by simpa using worths.symm
    exact worth
  | cons x' xs ih =>
    obtain ⟨y', ys, rfl⟩ : ∃ w rest, ys = w :: rest := List.exists_cons_of_ne_nil (by rintro rfl; cases worths)
    obtain ⟨first, rest⟩ := List.cons.inj worths
    refine ih _ _ ys ?_ rest
    rw [worth, first]
    split
    · exact first
    · exact worth

theorem best_of_agrees (h : Helper) (better : Float → Float → Bool) (same : args.map unmarked = args'.map unmarked) :
    Agrees Numeral.value (Helper.bestOf h better args) (Helper.bestOf h better args') := by
  refine agrees_bind (numbers_agree same) fun xs ys worths => ?_
  cases xs with
  | nil =>
    obtain rfl : ys = [] := by simpa using worths.symm
    exact agrees_refl _
  | cons x xs =>
    obtain ⟨y, ys, rfl⟩ : ∃ w rest, ys = w :: rest := List.exists_cons_of_ne_nil (by rintro rfl; cases worths)
    obtain ⟨first, rest⟩ := List.cons.inj worths
    exact agrees_ok _ _ (best_same better x y xs ys first rest)

theorem engage_echoes (kind : EngineKind) (h : Helper) (same : args.map unmarked = args'.map unmarked) :
    Echoes unmarked (h.engage kind args) (h.engage kind args') := by
  have amount := to_number_agrees (argument_same same 0)
  have logged : ∀ entry entry' : Numeral → List Value, Echoes unmarked
      (do let x ← Evaluation.mark (← Evaluation.lift (Helper.argument args 0).toNumber)
          Evaluation.log (entry x)
          return Helper.damageRecord x)
      (do let x ← Evaluation.mark (← Evaluation.lift (Helper.argument args' 0).toNumber)
          Evaluation.log (entry' x)
          return Helper.damageRecord x) := by
    intro entry entry'
    refine echoes_bind (echoes_lift amount) fun x y worth => ?_
    refine echoes_bind (echoes_mark x y worth) fun x y worth => ?_
    refine echoes_bind (echoes_log _ _) fun _ _ _ => echoes_pure _ _ ?_
    simp only [Helper.damageRecord, unmarked, Value.unmarkedFields, worth]
  have idle : Echoes unmarked
      (do let _ ← Evaluation.lift (Helper.argument args 0).toNumber
          return Helper.damageRecord .zero)
      (do let _ ← Evaluation.lift (Helper.argument args' 0).toNumber
          return Helper.damageRecord .zero) :=
    echoes_bind (echoes_lift amount) fun _ _ _ => echoes_pure _ _ rfl
  cases kind with
  | zero =>
    cases h with
    | reaction => exact echoes_pure _ _ rfl
    | _ => exact idle
  | recording =>
    cases h with
    | reaction => exact echoes_bind (echoes_log _ _) fun _ _ _ => echoes_pure _ _ rfl
    | _ => exact logged _ _

theorem apply_echoes (kind : EngineKind) (game : Game) (h : Helper) (same : args.map unmarked = args'.map unmarked) :
    Echoes unmarked (h.apply (.ofKind kind game) args) (h.apply (.ofKind kind game) args') := by
  have counted : args.length = args'.length := by simpa using congrArg List.length same
  have answers : Echoes unmarked ((Engine.ofKind kind game).answer h args) ((Engine.ofKind kind game).answer h args') := by
    unfold Engine.ofKind
    dsimp only
    rw [counted]
    split
    · exact echoes_throw _
    · split
      · exact echoes_number _ _ (total_agrees (argument_same same 0))
      · exact echoes_number _ _ (ratio_agrees game (argument_same same 0))
      · exact engage_echoes kind h same
  unfold Helper.apply
  rw [counted]
  split
  · exact echoes_throw _
  · cases h with
    | num => exact echoes_pure _ _ (by rw [finite_number_same (argument_same same 0)])
    | pick => exact echoes_lift (pick_from_agrees (argument_same same 0) (optional_same same 1 _))
    | sum => exact echoes_pure _ _ (sum_of_same (argument_same same 0))
    | isList =>
      dsimp only
      generalize Helper.argument args 0 = v, Helper.argument args' 0 = w, argument_same same 0 = same
      cases v with
      | list items =>
        cases w with
        | list items' => exact echoes_pure _ _ rfl
        | _ => cases same
      | _ =>
        cases w with
        | list items' => cases same
        | _ => exact echoes_pure _ _ rfl
    | min | max => exact echoes_number _ _ (best_of_agrees _ _ same)
    | round => exact echoes_number _ _ (round_to_agrees (argument_same same 0) (optional_same same 1 _))
    | _ => exact answers

theorem called_echoes (kind : EngineKind) (game : Game) (f f' : Value) (sames : args.map unmarked = args'.map unmarked) :
    f.unmarked = f'.unmarked → Echoes unmarked
      (match f with
        | .helper h => h.apply (.ofKind kind game) args
        | .standIn s => return .standIn s
        | v => throw (.notCallable v.describe))
      (match f' with
        | .helper h => h.apply (.ofKind kind game) args'
        | .standIn s => return .standIn s
        | v => throw (.notCallable v.describe)) := by
  intro same
  have described := describe_same same
  cases f with
  | helper h =>
    cases f' with
    | helper h' =>
      cases same
      exact apply_echoes kind game h sames
    | _ => cases same
  | standIn s =>
    cases f' with
    | standIn s' =>
      cases same
      exact echoes_pure _ _ rfl
    | _ => cases same
  | _ =>
    cases f' with
    | helper h' => cases same
    | standIn s' => cases same
    | _ =>
      dsimp only
      rw [described]
      exact echoes_throw _

end Helpers

namespace Expr

mutual
def equations : Expr → Nat
  | .number _ | .string _ | .bool _ | .null | .name _ | .verbatim _ | .deferred _ => 0
  | .member obj _ => equations obj
  | .index obj key => equations obj + equations key
  | .call func args => equations func + equationsOfList args
  | .unary _ operand => equations operand
  | .binary op left right => equations left + equations right + if op.equates then 1 else 0
  | .conditional test consequent alternative => equations test + equations consequent + equations alternative
  | .list items => equationsOfList items
  | .record entries => equationsOfEntries entries

def equationsOfList : List Expr → Nat
  | [] => 0
  | e :: es => equations e + equationsOfList es

def equationsOfEntries : List (String × Expr) → Nat
  | [] => 0
  | (_, e) :: rest => equations e + equationsOfEntries rest
end

end Expr

section Expressions

variable (kind : EngineKind) (game : Game) (scope : Scope)

theorem operands_echo (op : BinaryOp) (plain : op.equates = false) {m m' n n' : Evaluation Value}
    (left : Echoes unmarked m m') (right : Echoes unmarked n n') :
    Echoes unmarked (do let v ← m; let w ← n; settle (applyBinary op v w))
      (do let v ← m'; let w ← n'; settle (applyBinary op v w)) :=
  echoes_bind left fun _ _ same => echoes_bind right fun _ _ same' =>
    echoes_settle _ _ (apply_binary_agrees op plain same same')

-- Induction on the expression, together with its lists and entries. Only the two operators that ask whether values are
-- equal can tell marks apart.
mutual
theorem evaluate_echoes (e : Expr) (blind : e.equations = 0) :
    Echoes unmarked (evaluate (.ofKind kind game) scope e) (evaluate (.ofKind kind game) scope e) := by
  cases e with
  | number _ | string _ | bool _ | null | deferred _ =>
    simp only [evaluate]
    exact echoes_pure _ _ rfl
  | verbatim _ =>
    simp only [evaluate]
    exact echoes_throw _
  | name id =>
    simp only [evaluate]
    split
    · exact echoes_pure _ _ rfl
    · exact echoes_throw _
  | member obj name =>
    simp only [evaluate]
    exact echoes_bind (evaluate_echoes obj blind) fun _ _ same => echoes_lift (member_of_agrees name same)
  | index obj key =>
    simp only [Expr.equations, Nat.add_eq_zero_iff] at blind
    simp only [evaluate]
    refine echoes_bind (evaluate_echoes obj blind.1) fun _ _ same => ?_
    exact echoes_bind (evaluate_echoes key blind.2) fun _ _ same' => echoes_lift (index_of_agrees same same')
  | call func args =>
    simp only [Expr.equations, Nat.add_eq_zero_iff] at blind
    simp only [evaluate]
    refine echoes_bind (evaluate_echoes func blind.1) fun f f' same => ?_
    refine echoes_bind (evaluate_list_echoes args blind.2) fun vs vs' sames => ?_
    exact called_echoes kind game f f' sames same
  | unary op operand =>
    simp only [evaluate]
    exact echoes_bind (evaluate_echoes operand blind) fun _ _ same => echoes_settle _ _ (apply_unary_agrees op same)
  | binary op left right =>
    simp only [Expr.equations, Nat.add_eq_zero_iff] at blind
    have plain : op.equates = false := by simpa using blind.2
    have first := evaluate_echoes left blind.1.1
    have second := evaluate_echoes right blind.1.2
    cases op with
    | equal | notEqual => cases plain
    | and =>
      simp only [evaluate]
      refine echoes_bind first fun v w same => ?_
      rw [truthy_same same]
      split
      · exact second
      · exact echoes_pure _ _ same
    | or =>
      simp only [evaluate]
      refine echoes_bind first fun v w same => ?_
      rw [truthy_same same]
      split
      · exact echoes_pure _ _ same
      · exact second
    | _ =>
      simp only [evaluate]
      exact operands_echo _ plain first second
  | conditional test consequent alternative =>
    simp only [Expr.equations, Nat.add_eq_zero_iff] at blind
    simp only [evaluate]
    refine echoes_bind (evaluate_echoes test blind.1.1) fun v w same => ?_
    rw [truthy_same same]
    split
    · exact evaluate_echoes consequent blind.1.2
    · exact evaluate_echoes alternative blind.2
  | list items =>
    simp only [evaluate]
    refine echoes_bind (evaluate_list_echoes items blind) fun vs vs' sames => echoes_pure _ _ ?_
    simp only [unmarked, Value.unmarked_list_map, sames]
  | record entries =>
    simp only [evaluate]
    refine echoes_bind (evaluate_entries_echo entries blind) fun fs fs' sames => echoes_pure _ _ ?_
    simp only [unmarked, sames]

theorem evaluate_list_echoes (es : List Expr) (blind : Expr.equationsOfList es = 0) :
    Echoes (List.map unmarked) (evaluateList (.ofKind kind game) scope es) (evaluateList (.ofKind kind game) scope es) := by
  cases es with
  | nil =>
    simp only [evaluateList]
    exact echoes_pure _ _ rfl
  | cons e es =>
    simp only [Expr.equationsOfList, Nat.add_eq_zero_iff] at blind
    simp only [evaluateList]
    refine echoes_bind (evaluate_echoes e blind.1) fun v w same => ?_
    refine echoes_bind (evaluate_list_echoes es blind.2) fun vs ws sames => echoes_pure _ _ ?_
    rw [List.map_cons, List.map_cons, same, sames]

theorem evaluate_entries_echo (entries : List (String × Expr)) (blind : Expr.equationsOfEntries entries = 0) :
    Echoes Value.unmarkedFields (evaluateEntries (.ofKind kind game) scope entries)
      (evaluateEntries (.ofKind kind game) scope entries) := by
  cases entries with
  | nil =>
    simp only [evaluateEntries]
    exact echoes_pure _ _ rfl
  | cons entry rest =>
    obtain ⟨key, e⟩ := entry
    simp only [Expr.equationsOfEntries, Nat.add_eq_zero_iff] at blind
    simp only [evaluateEntries]
    refine echoes_bind (evaluate_echoes e blind.1) fun v w same => ?_
    refine echoes_bind (evaluate_entries_echo rest blind.2) fun vs ws sames => echoes_pure _ _ ?_
    rw [Value.unmarkedFields, Value.unmarkedFields, same, sames]
end

end Expressions

end DamagePlan.Script
