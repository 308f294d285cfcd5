import DamagePlan.Proofs.Json.Fields
import DamagePlan.Proofs.Refine.Schemas
import DamagePlan.Refine.Reading

/-!
Stripped records: mending the faults of a record one after the other strips it, what is left has no fault but a missing
field, and a raw plan is read as if what its schemas do not admit had never been there.
-/
set_option autoImplicit false

namespace DamagePlan.RawRecord

inductive Fault where
  | missing (field : String)
  | value (field : String)
  | entry (field key : String)

def Property.faults (p : Property) (field : String) (j : Json) : List Fault :=
  (p.demands.filter (!·.isMet j)).map (fun _ => .value field) ++
    ((entriesIn j).filter (!p.admitsEntry ·)).map (.entry field ·.1)

def Document.faults (document : Document) (record : Fields Json) : List Fault :=
  (document.properties.flatMap fun (field, p) => ((record.find? field).map (p.faults field)).getD []) ++
    (document.required.filter (!record.contains ·)).map .missing

def nestedFields : List String := ["params", "data"]

def mend (record : Fields Json) : Fault → Fields Json
  | .missing _ => record
  | .value field => record.erase field
  | .entry field key =>
    match record.find? field with
    | some (.obj fields) =>
      if nestedFields.contains field then record.insert field (.obj (Fields.erase key fields)) else record.erase field
    | _ => record.erase field

structure Proper (record : Fields Json) : Prop where
  keys : (record.map (·.1)).Nodup
  entries : ∀ field fields, (field, .obj fields) ∈ record → (fields.map (·.1)).Nodup

def amend (field : String) (f : Json → Option Json) (record : Fields Json) : Fields Json :=
  record.filterMap fun entry => if entry.1 = field then (f entry.2).map (field, ·) else some entry

section Amend

variable (field : String)

theorem amend_here (f : Json → Option Json) (j : Json) (rest : Fields Json) :
    amend field f ((field, j) :: rest) = ((f j).map (field, ·)).toList ++ amend field f rest := by
  cases changed : f j <;> simp [amend, changed]

theorem amend_other (f : Json → Option Json) (k : String) (j : Json) (rest : Fields Json) (other : k ≠ field) :
    amend field f ((k, j) :: rest) = (k, j) :: amend field f rest := by
  simp [amend, other]

theorem amend_amend (f g : Json → Option Json) (record : Fields Json) :
    amend field g (amend field f record) = amend field (fun j => (f j).bind g) record := by
  unfold amend
  rw [List.filterMap_filterMap]
  refine List.filterMap_congr fun entry _ => ?_
  by_cases here : entry.1 = field
  · cases changed : f entry.2 <;> simp [here, changed]
  · simp [here]

theorem amend_congr (f g : Json → Option Json) (record : Fields Json) (same : ∀ j, (field, j) ∈ record → f j = g j) :
    amend field f record = amend field g record := by
  refine List.filterMap_congr fun entry member => ?_
  obtain ⟨k, j⟩ := entry
  by_cases here : k = field
  · subst here
    simp [same j member]
  · simp [here]

theorem amend_same (f : Json → Option Json) (record : Fields Json) (same : ∀ j, (field, j) ∈ record → f j = some j) :
    amend field f record = record := by
  rw [amend_congr field f some record same]
  refine (List.filterMap_congr fun entry _ => ?_).trans List.filterMap_some
  obtain ⟨k, j⟩ := entry
  by_cases here : k = field <;> simp [here]

theorem erase_amend (record : Fields Json) : record.erase field = amend field (fun _ => none) record := by
  unfold Fields.erase amend
  rw [← List.filterMap_eq_filter]
  refine List.filterMap_congr fun entry _ => ?_
  by_cases here : entry.1 = field <;> simp [here, Option.guard]

theorem amend_keys (f : Json → Option Json) (record : Fields Json) :
    ((amend field f record).map (·.1)).Sublist (record.map (·.1)) := by
  induction record with
  | nil => exact .slnil
  | cons entry rest ih =>
    obtain ⟨k, j⟩ := entry
    by_cases here : k = field
    · subst here
      rw [amend_here]
      cases f j with
      | none => exact ih.cons k
      | some j' => exact ih.cons_cons k
    · rw [amend_other field f k j rest here]
      exact ih.cons_cons k

theorem find_amend (f : Json → Option Json) (record : Fields Json) (other : String) (apart : other ≠ field) :
    (amend field f record).find? other = record.find? other := by
  induction record with
  | nil => rfl
  | cons entry rest ih =>
    obtain ⟨k, j⟩ := entry
    unfold Fields.find? at ih ⊢
    by_cases here : k = field
    · subst here
      have skip : (other == k) = false := beq_eq_false_iff_ne.mpr apart
      rw [amend_here, List.lookup_cons, skip, ← ih]
      cases f j with
      | none => rfl
      | some j' => simp only [Option.map_some, Option.toList_some, List.singleton_append, List.lookup_cons, skip]
    · rw [amend_other field f k j rest here, List.lookup_cons, List.lookup_cons, ih]

theorem insert_amend (j : Json) (record : Fields Json) (distinct : (record.map (·.1)).Nodup)
    (present : field ∈ record.map (·.1)) : record.insert field j = amend field (fun _ => some j) record := by
  induction record with
  | nil => cases present
  | cons entry rest ih =>
    obtain ⟨k, old⟩ := entry
    obtain ⟨absent, distinct⟩ := List.nodup_cons.mp distinct
    by_cases here : k = field
    · subst here
      have later := amend_same k (fun _ => some j) rest fun j' member => absurd (List.mem_map_of_mem member) absent
      rw [amend_here, later]
      simp [Fields.insert]
    · have later : field ∈ rest.map (·.1) := (List.mem_cons.mp present).resolve_left (Ne.symm here)
      rw [amend_other field _ k old rest here, ← ih distinct later]
      simp [Fields.insert, here]

end Amend

section Mending

variable (field : String)

def Fault.isAbout : Fault → Bool
  | .missing _ => false
  | .value other => other == field
  | .entry other _ => other == field

theorem mend_absent (record : Fields Json) (fault : Fault) (about : fault.isAbout field = true)
    (absent : record.find? field = none) : mend record fault = record := by
  have erased : record.erase field = record := by
    refine List.filter_eq_self.mpr fun entry member => ?_
    have other := List.lookup_eq_none_iff.mp absent entry member
    rw [bne_iff_ne, ne_comm, ← bne_iff_ne]
    exact other
  cases fault with
  | missing other => rfl
  | value other =>
    obtain rfl := eq_of_beq about
    exact erased
  | entry other key =>
    obtain rfl := eq_of_beq about
    rw [mend, absent]
    exact erased

theorem value_mended (record : Fields Json) (faults : List Fault) (about : ∀ fault ∈ faults, fault.isAbout field = true) :
    (Fault.value field :: faults).foldl mend record = amend field (fun _ => none) record := by
  rw [List.foldl_cons, mend, ← erase_amend]
  have absent : (record.erase field).find? field = none := by rw [Fields.find_erase, if_pos rfl]
  generalize record.erase field = left at absent
  induction faults with
  | nil => rfl
  | cons fault faults ih =>
    rw [List.forall_mem_cons] at about
    rw [List.foldl_cons, mend_absent field left fault about.1 absent]
    exact ih about.2

theorem entries_mended (nested : nestedFields.contains field = true) (keys : List String) : ∀ (record fields : Fields Json),
    (record.map (·.1)).Nodup → record.find? field = some (.obj fields) →
      (keys.map (Fault.entry field)).foldl mend record =
        amend field (fun _ => some (.obj (fields.filter (!keys.contains ·.1)))) record := by
  induction keys with
  | nil =>
    intro record fields distinct found
    refine (amend_same field _ record fun j member => ?_).symm
    simp [record.found_only distinct field _ found j member]
  | cons key keys ih =>
    intro record fields distinct found
    have present : field ∈ record.map (·.1) := List.mem_map_of_mem (Fields.found_entry record field _ found)
    have again : (record.insert field (.obj (Fields.erase key fields))).find? field = some (.obj (Fields.erase key fields)) := by
      rw [Fields.find_insert, if_pos rfl]
    have mended : mend record (.entry field key) = record.insert field (.obj (Fields.erase key fields)) := by
      rw [mend, found]
      exact if_pos nested
    rw [List.map_cons, List.foldl_cons, mended, ih _ _ (Fields.inserted_distinct record field _ distinct) again,
      insert_amend field _ record distinct present, amend_amend]
    refine amend_congr field _ _ record fun j _ => ?_
    rw [Option.bind_some, Fields.erase, List.filter_filter]
    refine congrArg (fun left => some (Json.obj left)) (List.filter_congr fun entry _ => ?_)
    rw [List.contains_cons, Bool.not_or, Bool.and_comm]
    rfl

end Mending

section Fields

variable (p : Property) (field : String)

theorem faults_about (j : Json) : ∀ fault ∈ p.faults field j, fault.isAbout field = true := by
  intro fault member
  rcases List.mem_append.mp member with value | entry
  · obtain ⟨_, -, rfl⟩ := List.mem_map.mp value
    exact beq_self_eq_true field
  · obtain ⟨_, -, rfl⟩ := List.mem_map.mp entry
    exact beq_self_eq_true field

theorem rejected_keys (fields : Fields Json) (distinct : (fields.map (·.1)).Nodup) :
    fields.filter (!((fields.filter (!p.admitsEntry ·)).map (·.1)).contains ·.1) = fields.filter p.admitsEntry := by
  refine List.filter_congr fun entry member => ?_
  cases admitted : p.admitsEntry entry with
  | true =>
    have absent : entry.1 ∉ (fields.filter (!p.admitsEntry ·)).map (·.1) := by
      intro listed
      obtain ⟨other, rejected, same⟩ := List.mem_map.mp listed
      obtain ⟨among, fails⟩ := List.mem_filter.mp rejected
      rw [List.inj_on_of_nodup_map distinct among member same, admitted] at fails
      cases fails
    simpa using absent
  | false =>
    have listed : entry.1 ∈ (fields.filter (!p.admitsEntry ·)).map (·.1) :=
      List.mem_map_of_mem (List.mem_filter.mpr ⟨member, by rw [admitted]; rfl⟩)
    simpa using listed

theorem field_mended (nested : p.entries.isSome = true → nestedFields.contains field = true) (record : Fields Json)
    (distinct : (record.map (·.1)).Nodup) (j : Json) (found : record.find? field = some j)
    (entries : ((entriesIn j).map (·.1)).Nodup) : (p.faults field j).foldl mend record = amend field p.part? record := by
  have known : amend field p.part? record = amend field (fun _ => p.part? j) record :=
    amend_congr field _ _ record fun j' member => by rw [record.found_only distinct field j found j' member]
  rw [known]
  cases unmet : p.demands.filter (!·.isMet j) with
  | cons demand others =>
    -- the first of the faults takes the field out, the others find nothing
    have rejected : p.admits j = false := by
      obtain ⟨among, fails⟩ := List.mem_filter.mp (unmet ▸ List.mem_cons_self)
      exact List.all_eq_false.mpr ⟨demand, among, by simpa using fails⟩
    have about := faults_about p field j
    have first : p.faults field j = .value field :: (p.faults field j).tail := by rw [Property.faults, unmet]; rfl
    rw [first] at about ⊢
    rw [value_mended field record _ (List.forall_mem_cons.mp about).2, Property.part?, rejected, if_neg Bool.false_ne_true]
  | nil =>
    -- only entries can be at fault
    have admitted : p.admits j = true := by
      refine List.all_eq_true.mpr fun demand among => ?_
      simpa using List.filter_eq_nil_iff.mp unmet demand among
    rw [Property.faults, unmet, List.map_nil, List.nil_append, Property.part?, if_pos admitted]
    by_cases whole : p.entries.isSome = true ∧ ∃ fields, j = .obj fields
    · obtain ⟨some_, fields, rfl⟩ := whole
      have mended := entries_mended field (nested some_) ((fields.filter (!p.admitsEntry ·)).map (·.1)) record fields distinct found
      rw [List.map_map, rejected_keys p fields entries] at mended
      exact mended
    · -- a value without entries, or entries of which nothing is demanded
      have kept : p.withoutEntries j = j ∧ (entriesIn j).filter (!p.admitsEntry ·) = [] := by
        cases j with
        | obj fields =>
          have free : p.entries = none := by simpa using whole
          simp [Property.withoutEntries, Property.admitsEntry, entriesIn, free]
        | _ => exact ⟨rfl, rfl⟩
      rw [kept.1, kept.2]
      refine (amend_same field _ record fun j' member => ?_).symm
      rw [record.found_only distinct field j found j' member]

end Fields

section Records

variable (record : Fields Json) (properties : List (String × Property))

-- Induction on the properties with the record as left so far open. The faults were found in the record as it was: mending
-- one field leaves the others alone, so each property still finds its own as it was.
theorem properties_mended (proper : Proper record) (distinct : (properties.map (·.1)).Nodup)
    (nested : ∀ stated ∈ properties, stated.2.entries.isSome = true → nestedFields.contains stated.1 = true) (left : Fields Json)
    (keys : (left.map (·.1)).Nodup) (same : ∀ stated ∈ properties, left.find? stated.1 = record.find? stated.1) :
    (properties.flatMap fun (field, p) => ((record.find? field).map (p.faults field)).getD []).foldl mend left =
      left.filterMap (Document.keep? ⟨properties, []⟩) := by
  induction properties generalizing left with
  | nil => exact List.filterMap_some.symm
  | cons stated properties ih =>
    obtain ⟨field, p⟩ := stated
    obtain ⟨absent, distinct⟩ := List.nodup_cons.mp distinct
    rw [List.forall_mem_cons] at nested same
    have first : (((record.find? field).map (p.faults field)).getD []).foldl mend left = amend field p.part? left := by
      cases found : record.find? field with
      | none =>
        refine (amend_same field _ left fun j member => ?_).symm
        have missing := List.lookup_eq_none_iff.mp (same.1.trans found) _ member
        exact absurd rfl (bne_iff_ne.mp missing)
      | some j =>
        refine field_mended p field nested.1 left keys j (same.1.trans found) ?_
        cases j with
        | obj fields => exact proper.entries field fields (Fields.found_entry record field _ found)
        | _ => exact List.nodup_nil
    have others : ∀ stated ∈ properties, stated.1 ≠ field := fun stated member here =>
      absent (List.mem_map.mpr ⟨stated, member, here⟩)
    rw [List.flatMap_cons, List.foldl_append, first, ih distinct nested.2 (amend field p.part? left)
      ((amend_keys field _ left).nodup keys) fun stated member => by
        rw [find_amend field _ left stated.1 (others stated member), same.2 stated member]]
    unfold amend
    rw [List.filterMap_filterMap]
    refine List.filterMap_congr fun entry _ => ?_
    obtain ⟨k, j⟩ := entry
    by_cases here : k = field
    · subst here
      have unknown : properties.lookup k = none := List.lookup_eq_none_iff.mpr fun stated member =>
        bne_iff_ne.mpr (others stated member).symm
      cases left : p.part? j <;> simp [Document.keep?, left, unknown]
    · have skip : (k == field) = false := beq_eq_false_iff_ne.mpr here
      simp [Document.keep?, here, List.lookup_cons, skip]

end Records

def Document.mended (document : Document) (record : Fields Json) : Fields Json := (document.faults record).foldl mend record

theorem mended_strips (kind : RecordKind) (record : Fields Json) (proper : Proper record) :
    kind.document.mended record = strip kind.shapes record := by
  have distinct : (kind.document.properties.map (·.1)).Nodup := by cases kind <;> decide
  have nested : ∀ stated ∈ kind.document.properties, stated.2.entries.isSome = true → nestedFields.contains stated.1 = true := by
    cases kind <;> decide
  have idle (missing : List String) (left : Fields Json) : (missing.map Fault.missing).foldl mend left = left := by
    induction missing with
    | nil => rfl
    | cons field missing ih => exact ih
  have fields := properties_mended record kind.document.properties proper distinct nested record proper.keys fun _ _ => rfl
  rw [Document.mended, Document.faults, List.foldl_append, fields, idle, strip_keeps]
  rfl

section Left

variable (p : Property) (document : Document)

theorem entries_left (j : Json) : entriesIn (p.withoutEntries j) = (entriesIn j).filter p.admitsEntry := by
  cases j <;> rfl

theorem admits_left (j : Json) : p.admits (p.withoutEntries j) = p.admits j := by
  cases j with
  | obj fields =>
    refine congrArg (p.demands.all ·) (funext fun demand => ?_)
    cases demand with
    | types names => exact congrArg (names.any ·) (funext fun name => by cases name <;> rfl)
    | _ => rfl
  | _ => rfl

theorem met_iff_part (j : Json) : p.isMet j = true ↔ p.part? j = some j := by
  have whole_iff : p.withoutEntries j = j ↔ (entriesIn j).all p.admitsEntry = true := by
    cases j with
    | obj fields => simp [Property.withoutEntries, entriesIn]
    | _ => exact iff_of_true rfl rfl
  rw [Property.isMet, Property.part?, Bool.and_eq_true, ← whole_iff]
  cases p.admits j <;> simp

theorem part_met (j left : Json) (made : p.part? j = some left) : p.isMet left = true := by
  unfold Property.part? at made
  split at made
  · rename_i admitted
    cases made
    rw [Property.isMet, admits_left, admitted, entries_left, Bool.true_and, List.all_filter, List.all_eq_true]
    simp
  · cases made

theorem met_faultless (field : String) (j : Json) (met : p.isMet j = true) : p.faults field j = [] := by
  obtain ⟨demands, entries⟩ := Bool.and_eq_true_iff.mp met
  have unmet : p.demands.filter (!·.isMet j) = [] := by
    rw [List.filter_eq_nil_iff]
    intro demand among
    simpa using List.all_eq_true.mp demands demand among
  have rejected : (entriesIn j).filter (!p.admitsEntry ·) = [] := by
    rw [List.filter_eq_nil_iff]
    intro entry among
    simpa using List.all_eq_true.mp entries entry among
  rw [Property.faults, unmet, rejected]
  rfl

theorem keep_again (entry left : String × Json) (kept : document.keep? entry = some left) :
    left.1 = entry.1 ∧ document.keep? left = some left ∧
      ∀ p, document.properties.lookup left.1 = some p → p.isMet left.2 = true := by
  unfold Document.keep? at kept
  split at kept
  · rename_i p known
    obtain ⟨part, made, rfl⟩ := Option.map_eq_some_iff.mp kept
    have met := part_met p entry.2 part made
    refine ⟨rfl, ?_, ?_⟩
    · simp only [Document.keep?, known, (met_iff_part p part).mp met, Option.map_some]
    · intro p' known'
      rw [known] at known'
      cases known'
      exact met
  · rename_i unknown
    cases kept
    refine ⟨rfl, by simp only [Document.keep?, unknown], fun p known => ?_⟩
    rw [unknown] at known
    cases known

theorem kept_again (record : Fields Json) :
    (record.filterMap document.keep?).filterMap document.keep? = record.filterMap document.keep? := by
  rw [List.filterMap_filterMap]
  refine List.filterMap_congr fun entry _ => ?_
  cases kept : document.keep? entry with
  | none => rfl
  | some left => exact (keep_again document entry left kept).2.1

theorem kept_keys (record : Fields Json) :
    ((record.filterMap document.keep?).map (·.1)).Sublist (record.map (·.1)) := by
  induction record with
  | nil => exact .slnil
  | cons entry rest ih =>
    cases kept : document.keep? entry with
    | none =>
      rw [List.filterMap_cons_none kept]
      exact ih.cons _
    | some left =>
      rw [List.filterMap_cons_some kept, List.map_cons, (keep_again document entry left kept).1]
      exact ih.cons_cons _

theorem kept_faults (distinct : (document.properties.map (·.1)).Nodup) (left : Fields Json)
    (again : left.filterMap document.keep? = left) :
    document.faults left = (document.required.filter (!left.contains ·)).map .missing := by
  have faultless : ∀ stated ∈ document.properties,
      ((left.find? stated.1).map (stated.2.faults stated.1)).getD [] = [] := by
    rintro ⟨field, p⟩ among
    cases found : left.find? field with
    | none => rfl
    | some j =>
      -- what is found is left of some field, by this property and no other
      have member := Fields.found_entry left field j found
      rw [← again] at member
      obtain ⟨entry, -, kept⟩ := List.mem_filterMap.mp member
      have known : document.properties.lookup field = some p := Fields.find_member _ distinct field p among
      exact met_faultless p field j ((keep_again document entry (field, j) kept).2.2 p known)
  have none : (document.properties.flatMap fun (field, p) => ((left.find? field).map (p.faults field)).getD []) = [] :=
    List.flatMap_eq_nil_iff.mpr faultless
  rw [Document.faults, none, List.nil_append]

end Left

def RecordKind.admitted (kind : RecordKind) : Json → Json
  | .obj fields => .obj (fields.filterMap kind.document.keep?)
  | j => j

def itemKind? : String → Option RecordKind
  | "details" => some .detail
  | "buffs" => some .buff
  | _ => none

def itemsAdmitted (field : String) : Json → Json
  | .arr items => .arr (items.map (((itemKind? field).map RecordKind.admitted).getD id))
  | j => j

/-- A raw plan without what the documents of its records do not admit. -/
def withoutFaults : Json → Json
  | .obj fields =>
    .obj ((fields.filterMap RecordKind.plan.document.keep?).map fun (field, j) => (field, itemsAdmitted field j))
  | j => j

end DamagePlan.RawRecord

namespace DamagePlan.RawPlan

open RawRecord

theorem items_kept (field : String × Json) :
    RecordKind.plan.document.keep? (field.1, itemsAdmitted field.1 field.2) =
      (RecordKind.plan.document.keep? field).map fun (field, j) => (field, itemsAdmitted field j) := by
  obtain ⟨key, j⟩ := field
  have parts : ∀ p, (key, p) ∈ RecordKind.plan.document.properties →
      p.part? (itemsAdmitted key j) = (p.part? j).map (itemsAdmitted key) := by
    intro p member
    simp only [RecordKind.document, List.mem_cons, Prod.mk.injEq, List.not_mem_nil, or_false] at member
    rcases member with ⟨-, rfl⟩ | ⟨-, rfl⟩ | ⟨-, rfl⟩ | ⟨-, rfl⟩ <;> cases j <;> rfl
  cases known : RecordKind.plan.document.properties.lookup key with
  | none => simp only [Document.keep?, known, Option.map_some]
  | some p =>
    have part := parts p (Fields.found_entry _ key p known)
    simp only [Document.keep?, known, part, Option.map_map]
    rfl

theorem strip_admitted (kind : RecordKind) (record : Fields Json) :
    strip kind.shapes (record.filterMap kind.document.keep?) = strip kind.shapes record := by
  rw [strip_keeps, strip_keeps, kept_again]

theorem admitted_detail (kit : Kit) (i : Nat) (j : Json) :
    readDetail kit i (RecordKind.detail.admitted j) = readDetail kit i j := by
  cases j with
  | obj fields =>
    have again : strip detailSchema (fields.filterMap RecordKind.detail.document.keep?) = strip detailSchema fields :=
      strip_admitted .detail fields
    simp only [RecordKind.admitted, readDetail, again]
  | _ => rfl

theorem admitted_details (kit : Kit) (i : Nat) (items : List Json) :
    readDetails kit i (items.map RecordKind.detail.admitted) = readDetails kit i items := by
  induction items generalizing i with
  | nil => rfl
  | cons j rest ih => rw [List.map_cons, readDetails, readDetails, admitted_detail, ih]

theorem admitted_buff (game : Game) (j : Json) : readBuff game (RecordKind.buff.admitted j) = readBuff game j := by
  cases j with
  | obj fields =>
    have again : strip buffSchema (fields.filterMap RecordKind.buff.document.keep?) = strip buffSchema fields :=
      strip_admitted .buff fields
    simp only [RecordKind.admitted, readBuff, again]
  | _ => rfl

section Items

variable (record : Fields Json)

theorem find_admitted (key : String) :
    Fields.find? (record.map fun (field, j) => (field, itemsAdmitted field j)) key =
      (record.find? key).map (itemsAdmitted key) := by
  unfold Fields.find?
  induction record with
  | nil => rfl
  | cons entry rest ih =>
    obtain ⟨k, j⟩ := entry
    rw [List.map_cons, List.lookup_cons, List.lookup_cons, ih]
    cases here : key == k with
    | true => rw [eq_of_beq here]; rfl
    | false => rfl

theorem admitted_text (key : String) :
    textOf (record.map fun (field, j) => (field, itemsAdmitted field j)) key = textOf record key := by
  unfold textOf
  rw [find_admitted]
  cases record.find? key with
  | none => rfl
  | some j => cases j <;> rfl

theorem admitted_items (key : String) :
    itemsOf (record.map fun (field, j) => (field, itemsAdmitted field j)) key =
      (itemsOf record key).map (((itemKind? key).map RecordKind.admitted).getD id) := by
  unfold itemsOf
  rw [find_admitted]
  cases record.find? key with
  | none => rfl
  | some j => cases j <;> rfl

theorem admitted_plan (kit : Kit) :
    readPlan kit (record.map fun (field, j) => (field, itemsAdmitted field j)) = readPlan kit record := by
  have details : readDetails kit 0 ((itemsOf record "details").map RecordKind.detail.admitted) =
      readDetails kit 0 (itemsOf record "details") := admitted_details kit 0 _
  have buffs : ((itemsOf record "buffs").map RecordKind.buff.admitted).mapM (readBuff kit.game) =
      (itemsOf record "buffs").mapM (readBuff kit.game) := by
    rw [List.mapM_map]
    exact congrArg (List.mapM · _) (funext (admitted_buff kit.game))
  have rows := admitted_items record "details"
  have effects := admitted_items record "buffs"
  unfold readPlan defaultKeyOf
  rw [rows, effects]
  simp only [admitted_text, itemKind?, Option.map_some, Option.getD_some, details, buffs]

end Items

theorem read_without_faults (kit : Kit) (raw : Json) : read kit (withoutFaults raw) = read kit raw := by
  cases raw with
  | obj fields =>
    -- the plan's own fields are stripped alike, with or without the faults of the items in its lists
    have stripped : strip planSchema ((fields.filterMap RecordKind.plan.document.keep?).map
        fun (field, j) => (field, itemsAdmitted field j)) =
          (strip planSchema fields).map fun (field, j) => (field, itemsAdmitted field j) := by
      have keeps := strip_keeps .plan
      simp only [RecordKind.shapes] at keeps
      rw [keeps, keeps, List.filterMap_map, ← kept_again RecordKind.plan.document fields, List.map_filterMap,
        kept_again RecordKind.plan.document fields]
      exact List.filterMap_congr fun field _ => items_kept field
    rw [withoutFaults, read, stripped, admitted_plan]
    rfl
  | _ => rfl

/-- Fields that are not as they should be count as absent. A record of any kind is left with what its document admits, in
its order and with no fault but missing fields; that is what mending its faults one after the other comes to. A raw plan is
read as if what its documents do not admit had never been there. -/
theorem wrong_fields_count_as_absent :
    (∀ (kind : RecordKind) (record : Fields Json),
      strip kind.shapes record = record.filterMap kind.document.keep? ∧
      ((strip kind.shapes record).map (·.1)).Sublist (record.map (·.1)) ∧
      kind.document.faults (strip kind.shapes record) =
        (kind.document.required.filter (!(strip kind.shapes record).contains ·)).map .missing ∧
      strip kind.shapes (strip kind.shapes record) = strip kind.shapes record ∧
      (Proper record → kind.document.mended record = strip kind.shapes record)) ∧
    ∀ kit raw, read kit (withoutFaults raw) = read kit raw := by
  refine ⟨fun kind record => ?_, read_without_faults⟩
  have keeps := strip_keeps kind record
  have again : (strip kind.shapes record).filterMap kind.document.keep? = strip kind.shapes record := by
    rw [keeps, kept_again]
  have distinct : (kind.document.properties.map (·.1)).Nodup := by cases kind <;> decide
  refine ⟨keeps, ?_, kept_faults kind.document distinct _ again, ?_, mended_strips kind record⟩
  · rw [keeps]
    exact kept_keys kind.document record
  · rw [strip_keeps kind (strip kind.shapes record), again]

/-- Of a row whose title, choice, stat and constellation are all wrong, the parameters that are scalars are left, and what
has no demands on it. -/
theorem row_with_wrong_fields :
    let row : Fields Json := [("title", .int 42), ("kind", .str "bogus"), ("pick", .str "first"), ("cons", .int 9),
      ("stat", .str "luck"), ("params", .obj [("stacks", .int 3), ("bad", .arr [.int 1]), ("flag", .bool true), ("none", .null)]),
      ("note", .null)]
    Proper row ∧ RecordKind.detail.document.mended row =
      [("kind", .str "bogus"), ("params", .obj [("stacks", .int 3), ("flag", .bool true)]), ("note", .null)] := by
  intro row
  have proper : Proper row := by
    refine ⟨by decide, fun field fields member => ?_⟩
    simp only [row, List.mem_cons, Prod.mk.injEq, reduceCtorEq, and_false, false_or, List.not_mem_nil, or_false] at member
    obtain ⟨-, same⟩ := member
    cases same
    decide
  exact ⟨proper, ((wrong_fields_count_as_absent.1 .detail row).2.2.2.2 proper).trans rfl⟩

end DamagePlan.RawPlan
