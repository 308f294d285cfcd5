import DamagePlan.Proofs.Script.ModuleScope
import DamagePlan.Script.Gate

/-!
How the gate refuses a script: with a fault that it names, unless arithmetic in the script is undefined or the stack
runs out in its module scope.
-/
set_option autoImplicit false

namespace DamagePlan.Script

def LoadedDetail.entries (d : LoadedDetail) : List (Expr × Scope) := d.check.toList ++ [d.damage]

def LoadedBuff.closures (data : List (String × Value)) : List (Expr × Scope) := data.filterMap fun field => closureOf? field.2

def LoadedBuff.entries (b : LoadedBuff) : List (Expr × Scope) :=
  (closureOf? (Value.field b.fields "check")).toList ++ closures b.data

def LoadedScript.entries (loaded : LoadedScript) : List (Expr × Scope) :=
  loaded.details.flatMap LoadedDetail.entries ++ loaded.buffs.flatMap LoadedBuff.entries

namespace Gate

def Escapes (context : Context) (entries : List (Expr × Scope)) (g : GateError) : Prop :=
  (∀ e, g = .uncaught e → ∃ entry ∈ entries, ∃ part, Expr.Within part entry.1 ∧
    HasNoValue context.engine (Scope.overlay entry.2 context.bindings) part) ∧ ∀ report, g ≠ .overrun report

section Entries

variable (stack : Stack) {context : Context} {entries entries' : List (Expr × Scope)}

theorem Escapes.mono {g : GateError} (escapes : Escapes context entries g) (more : ∀ entry ∈ entries, entry ∈ entries') :
    Escapes context entries' g := by
  refine ⟨fun e same => ?_, escapes.2⟩
  obtain ⟨entry, among, undefined⟩ := escapes.1 e same
  exact ⟨entry, more entry among, undefined⟩

theorem runtime_fails (place reason : String) {α : Type} :
    Fails (Escapes context entries) (.error (.runtime place reason) : Except GateError α) :=
  fails_error _ ⟨nofun, nofun⟩

theorem check_number_fails (place : String) (v : Value) : Fails (Escapes context entries) (checkNumber place v) := by
  unfold checkNumber
  split
  · exact fails_ok _
  · exact fails_ok _
  · split
    · exact fails_ok _
    · exact runtime_fails _ _

theorem check_result_fails (place : String) (v : Value) : Fails (Escapes context entries) (checkResult place v) := by
  unfold checkResult
  split
  · split
    · exact runtime_fails _ _
    · split
      · exact fails_ok _
      · split
        · exact fails_ok _
        · exact runtime_fails _ _
  · exact runtime_fails _ _

theorem each_fails {α : Type} {P : GateError → Prop} (run : Nat → α → Except GateError Nat) (as : List α)
    (each : ∀ a ∈ as, ∀ i, Fails P (run i a)) (i : Nat) : Fails P (runEach run i as) := by
  induction as generalizing i with
  | nil => exact fails_ok _
  | cons a rest ih =>
    exact fails_bind _ _ (each a List.mem_cons_self i) fun _ _ =>
      fails_bind _ _ (ih (fun other member => each other (List.mem_cons_of_mem _ member)) (i + 1)) fun _ _ => fails_ok _

section Invocations

variable (plain : ∀ h args, Ensures (fun _ => True) Failure.IsPlain (context.engine.answer h args))
include plain

theorem invoke_fails (place : String) (entry : Expr × Scope) (among : entry ∈ entries) :
    Fails (Escapes context entries) (invokeAt stack context place entry) := by
  have blames := (evaluate_blames context.engine (Scope.overlay entry.2 context.bindings) entry.1).failed
    { marks := context.marks }
  unfold invokeAt Context.invoke invoke
  split
  · exact runtime_fails _ _
  cases outcome : ((evaluate context.engine (Scope.overlay entry.2 context.bindings) entry.1).run
      { marks := context.marks }).1 with
  | ok v => exact fails_ok v
  | error e =>
    obtain ⟨part, within, falters⟩ := blames e outcome
    dsimp only
    split
    · exact runtime_fails _ _
    · exact runtime_fails _ _
    · rename_i kind
      refine fails_error _ ⟨fun e' same => ⟨entry, among, part, within, ?_⟩, nofun⟩
      rcases falters_class _ plain _ part e falters with evaluation | undefined | ⟨overflow, -⟩
      · rw [kind] at evaluation
        cases evaluation
      · exact undefined
      · rw [kind] at overflow
        cases overflow

theorem run_detail_fails (i : Nat) (d : LoadedDetail) : Fails (Escapes context d.entries) (runDetail stack context i d) := by
  have damaged : ∀ place checks, Fails (Escapes context d.entries) (do
      let result ← invokeAt stack context place d.damage
      checkResult s!"details[{i}] ({d.title})" result
      return checks + 1) := fun place checks =>
    fails_bind _ _ (invoke_fails stack plain place d.damage (List.mem_append_right _ (List.mem_singleton_self _))) fun v _ =>
      fails_bind _ _ (check_result_fails _ v) fun _ _ => fails_ok _
  unfold runDetail
  dsimp only
  split
  · rename_i entry here
    have among : entry ∈ d.entries := List.mem_append_left _ (by simp [here])
    exact fails_bind _ _ (fails_map _ _ (invoke_fails stack plain _ entry among)) fun checks _ => damaged _ checks
  · exact fails_bind _ _ (fails_ok 0) fun checks _ => damaged _ checks

theorem run_data_fails (place : String) (data : List (String × Value)) :
    Fails (Escapes context (LoadedBuff.closures data)) (runData stack context place data) := by
  induction data with
  | nil => exact fails_ok _
  | cons field rest ih =>
    obtain ⟨key, v⟩ := field
    have later : ∀ entry ∈ LoadedBuff.closures rest, entry ∈ LoadedBuff.closures ((key, v) :: rest) := by
      intro entry member
      cases here : closureOf? v <;> simp_all [LoadedBuff.closures]
    have following := ih.mono fun g escapes => escapes.mono later
    unfold runData
    dsimp only
    split
    · exact fails_bind _ _ (invoke_fails stack plain _ _ (by simp [LoadedBuff.closures, closureOf?])) fun _ _ =>
        fails_bind _ _ (check_number_fails _ _) fun _ _ => fails_bind _ _ following fun _ _ => fails_ok _
    · exact fails_bind _ _ (check_number_fails _ _) fun _ _ => following

theorem run_buff_fails (i : Nat) (b : LoadedBuff) : Fails (Escapes context b.entries) (runBuff stack context i b) := by
  have filled : ∀ place (checks : Nat), Fails (Escapes context b.entries) (do
      return checks + (← runData stack context place b.data)) := fun place checks =>
    fails_bind _ _ ((run_data_fails stack plain place b.data).mono fun g escapes =>
      escapes.mono fun entry => List.mem_append_right _) fun _ _ => fails_ok _
  unfold runBuff
  dsimp only
  split
  · rename_i entry here
    have among : entry ∈ b.entries := List.mem_append_left _ (by simp [here])
    exact fails_bind _ _ (fails_map _ _ (invoke_fails stack plain _ entry among)) fun checks _ => filled _ checks
  · exact fails_bind _ _ (fails_ok 0) fun checks _ => filled _ checks

end Invocations

end Entries

theorem run_context_fails (stack : Stack) (loaded : LoadedScript) (context : Context) (among : context ∈ contexts loaded.game) :
    Fails (Escapes context loaded.entries) (runContext stack loaded context) := by
  let marked : Context := { context with marks := loaded.marks }
  have plain : ∀ h args, Ensures (fun _ => True) Failure.IsPlain (marked.engine.answer h args) := by
    simp only [contexts, List.mem_flatMap, List.mem_map] at among
    obtain ⟨truthy, -, arrayTables, -, cons, -, rfl⟩ := among
    exact of_kind_plain _ _
  unfold runContext
  refine fails_bind _ _ (each_fails _ _ (fun d member i => ?_) 0) fun _ _ =>
    fails_bind _ _ (each_fails _ _ (fun b member i => ?_) 0) fun _ _ => fails_ok _
  · refine (run_detail_fails stack plain i d).mono fun g escapes => escapes.mono fun entry inside => ?_
    exact List.mem_append_left _ (List.mem_flatMap.mpr ⟨d, member, inside⟩)
  · refine (run_buff_fails stack plain i b).mono fun g escapes => escapes.mono fun entry inside => ?_
    exact List.mem_append_right _ (List.mem_flatMap.mpr ⟨b, member, inside⟩)

/-- What the gate evaluates of a text: the assignments that are reached, each in the scope of the earlier ones, and the
entry points, each in every context. -/
inductive Evaluates (stack : Stack) (text : String) : Engine → Scope → Expr → Prop
  | assigned {script : Program} {scope : Scope} {value : Expr} (parsed : parseScript text = .ok script)
      (reached : Reaches stack [] 0 script.assignments scope value) : Evaluates stack text Context.empty.engine scope value
  | invoked {loaded : LoadedScript} {context : Context} {entry : Expr × Scope} (loads : load stack text = .ok loaded)
      (chosen : context ∈ contexts loaded.game) (among : entry ∈ loaded.entries) :
      Evaluates stack text context.engine (Scope.overlay entry.2 context.bindings) entry.1

/-- Something that the gate evaluates has a part without a value. -/
def HasUndefined (stack : Stack) (text : String) : Prop := ∃ engine scope whole part,
  Evaluates stack text engine scope whole ∧ Expr.Within part whole ∧ HasNoValue engine scope part

/-- The module scope is too much for the stack: an assignment that is reached, or what the script exports as its game. -/
def RunsOut (stack : Stack) (text report : String) : Prop := ∃ script, parseScript text = .ok script ∧
  ((∃ scope value, Reaches stack [] 0 script.assignments scope value ∧ stack.overrun? scope value = some report) ∨
    ∃ scope marks, evaluateAssignments stack [] 0 script.assignments = .ok (scope, marks) ∧
      stack.lookUpOverrun? (Value.field scope "game") = some report)

def Surprises (stack : Stack) (text : String) (g : GateError) : Prop :=
  (∀ e, g = .uncaught e → HasUndefined stack text) ∧ ∀ report, g = .overrun report → RunsOut stack text report

variable (stack : Stack) (text : String)

theorem refusal_causes (game : Value) (fault : StaticFault) : (∀ e, refusal stack game fault ≠ .uncaught e) ∧
    ∀ report, refusal stack game fault = .overrun report → stack.lookUpOverrun? game = some report := by
  unfold refusal
  split
  · split
    · rename_i report overrun
      exact ⟨nofun, fun report' same => by cases same; exact overrun⟩
    · exact ⟨nofun, nofun⟩
  · exact ⟨nofun, nofun⟩

theorem load_fails : Fails (Surprises stack text) (load stack text) := by
  unfold load
  cases parsed : parseScript text with
  | error fault => exact fails_error _ ⟨nofun, nofun⟩
  | ok script =>
    have faults := assignments_fail stack script.assignments [] 0 fun binding member => by cases member
    dsimp only
    cases evaluated : evaluateAssignments stack [] 0 script.assignments with
    | ok left =>
      obtain ⟨scope, marks⟩ := left
      refine fails_map_error _ _ _ (fun _ _ => trivial) fun fault _ => ⟨fun e same => ?_, fun report same => ?_⟩
      · exact absurd same ((refusal_causes stack _ fault).1 e)
      · exact ⟨script, parsed, .inr ⟨scope, marks, evaluated, (refusal_causes stack _ fault).2 report same⟩⟩
    | error g =>
      have fault := faults g evaluated
      refine fails_error g ⟨fun e same => ?_, fun report same => ?_⟩
      · subst same
        obtain ⟨scope, value, part, reached, within, undefined⟩ := module_fault_undefined stack _ _ _ e fault
        exact ⟨_, scope, value, part, .assigned parsed reached, within, undefined⟩
      · exact ⟨script, parsed, .inl (fault.2 report same)⟩

theorem validate_fails : Fails (Surprises stack text) (validate stack text) := by
  have static : Fails (Surprises stack text) (staticCheck stack text) :=
    fails_bind _ _ (load_fails stack text) fun loaded _ =>
      fails_bind _ _ (fails_map_error _ _ _ (fun _ _ => trivial) fun fault _ => ⟨nofun, nofun⟩) fun _ _ => fails_ok _
  refine fails_bind _ _ static fun _ _ => fails_bind _ _ (fails_bind _ _ (load_fails stack text) fun loaded loads => ?_)
    fun _ _ => fails_ok _
  refine each_fails _ _ (fun context chosen i => ?_) 0
  refine (run_context_fails stack loaded context chosen).mono fun g escapes => ⟨fun e same => ?_, fun report same => ?_⟩
  · obtain ⟨entry, among, part, within, undefined⟩ := escapes.1 e same
    exact ⟨_, _, _, part, .invoked loads chosen among, within, undefined⟩
  · exact absurd same (escapes.2 report)

theorem validation_ends_in_its_own_faults : validate stack text = .ok () ∨
    (∃ fault, validate stack text = .error (.static fault)) ∨
    (∃ place reason, validate stack text = .error (.runtime place reason)) ∨
    (∃ e, validate stack text = .error (.uncaught e) ∧ HasUndefined stack text) ∨
    ∃ report, validate stack text = .error (.overrun report) ∧ RunsOut stack text report := by
  have fails := validate_fails stack text
  cases outcome : validate stack text with
  | ok _ => exact .inl rfl
  | error g =>
    have causes := fails _ outcome
    cases g with
    | static fault => exact .inr (.inl ⟨fault, rfl⟩)
    | runtime place reason => exact .inr (.inr (.inl ⟨place, reason, rfl⟩))
    | uncaught e => exact .inr (.inr (.inr (.inl ⟨e, rfl, causes.1 e rfl⟩)))
    | overrun report => exact .inr (.inr (.inr (.inr ⟨report, rfl, causes.2 report rfl⟩)))

def isUncaught : Except GateError Unit → Bool
  | .error (.uncaught _) => true
  | _ => false

theorem infinite_dividend_escapes : ∃ e, validate (.levels 0) "x = 1e999 % 2" = .error (.uncaught e) := by
  have escapes : isUncaught (validate (.levels 0) "x = 1e999 % 2") = true := by decide +kernel
  cases outcome : validate (.levels 0) "x = 1e999 % 2" with
  | ok _ =>
    rw [outcome] at escapes
    cases escapes
  | error g =>
    rw [outcome] at escapes
    cases g with
    | static _ | runtime _ _ | overrun _ => cases escapes
    | uncaught e => exact ⟨e, rfl⟩

end Gate

end DamagePlan.Script
