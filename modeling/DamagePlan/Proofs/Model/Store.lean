import DamagePlan.Model.Fingerprint
import DamagePlan.Model.Store
import DamagePlan.Proofs.Document.Work
import DamagePlan.Proofs.Json.Newlines
import DamagePlan.Proofs.Json.Printing
import Mathlib.Tactic.IntervalCases

/-!
Stored answers: which bytes count as an entry, and that storing an answer changes no entry but its own.
-/
set_option autoImplicit false

namespace DamagePlan.Store

open Files FileWork
open Json (IsGap Spells parseList)

theorem decode_total (bytes : List UInt8) : (∃ text, decodeText bytes = .ok text) ∨ decodeText bytes = .error ⟨bytes⟩ := by
  rw [decodeText]
  cases String.fromUTF8? bytes.toByteArray with
  | none => exact .inr rfl
  | some text => exact .inl ⟨text, rfl⟩

theorem text_of_entry (entry : Json) (t : String) : (entry.field? "text").bind Json.str? = some t ↔
    ∃ fields, entry = .obj fields ∧ Fields.find? fields "text" = some (.str t) := by
  cases entry with
  | obj fields =>
    simp only [Json.field?, Json.obj.injEq, exists_eq_left']
    cases Fields.find? fields "text" with
    | none => simp
    | some v => cases v <;> simp [Json.str?]
  | _ => simp [Json.field?]

theorem answer_of_iff (text t : String) : answerOf text = .ok (some t) ↔
    ∃ fields, Json.parse text = .ok (.obj fields) ∧ Fields.find? fields "text" = some (.str t) := by
  have parsed := Json.universal_newlines_parse text.toList
  rw [answerOf]
  cases read : parseList (Text.universalNewlines text.toList) with
  | error e =>
    have no_entry : ∀ v, Json.parse text ≠ .ok v := by
      intro v good
      cases read.symm.trans ((parsed v).mpr good)
    cases kind : e.kind <;> simp [kind, no_entry]
  | ok entry =>
    have same : Json.parse text = .ok entry := (parsed entry).mp read
    simp only [Except.ok.injEq, text_of_entry, same]

theorem answer_of_fails (text : String) : (∃ e, answerOf text = .error e) ↔
    ∃ e, parseList (Text.universalNewlines text.toList) = .error e ∧ e.isOfNumber = true := by
  rw [answerOf]
  cases parseList (Text.universalNewlines text.toList) with
  | ok entry => simp
  | error e => cases kind : e.kind <;> simp [Json.ParseError.isOfNumber, kind]

def entryFields (createdAt : String) (model : Option String) (answer : String) : Fields Json :=
  [("created_at", .str createdAt), ("model", (model.map Json.str).getD .null), ("text", .str answer)]

theorem entry_encodable (createdAt : String) (model : Option String) (answer : String) :
    Json.Encodable (.obj (entryFields createdAt model answer)) := by
  have named : Json.Encodable ((model.map Json.str).getD .null) := by
    cases model with
    | none => exact .null
    | some name => exact .str name
  refine .obj _ (by simp [entryFields]) ?_
  simp only [entryFields, List.forall_mem_cons]
  exact ⟨.str _, named, .str _, List.forall_mem_nil _⟩

theorem entry_text_answer (createdAt : String) (model : Option String) (answer : String) :
    answerOf (entryText createdAt model answer) = .ok (some answer) := by
  have spelled := Json.Style.print_spelled { indent := some 2 } (Json.Style.plain_spaced false (some 2))
    (entry_encodable createdAt model answer) 0
  have parsed : Json.parse (entryText createdAt model answer) = .ok (.obj (entryFields createdAt model answer)) := by
    rw [Json.parse, Json.parse_list_iff]
    refine ⟨[], _, ['\n'], List.forall_mem_nil _, by simp [IsGap, Json.isSpace], spelled, ?_⟩
    rw [entryText, Json.Style.render, String.toList_append, String.toList_ofList]
    rfl
  exact (answer_of_iff _ answer).mpr ⟨_, parsed, rfl⟩

section Reading

variable (s : Store) (files later : Files) (key : String)

theorem get_read (bytes : List UInt8) (read : files.read (s.pathOf key) = .ok bytes) :
    s.get files key = (decodeText bytes).mapError .undecodable >>= fun text => (answerOf text).mapError .integerTooLong := by
  unfold Store.get
  rw [read]

theorem get_decoded (bytes : List UInt8) (text : String) (read : files.read (s.pathOf key) = .ok bytes)
    (decoded : decodeText bytes = .ok text) : s.get files key = (answerOf text).mapError .integerTooLong := by
  rw [get_read s files key bytes read, decoded]
  rfl

theorem get_absent (absent : files.Absent (s.pathOf key)) : s.get files key = .ok none := by
  obtain ⟨e, lost, kind⟩ := absent
  unfold Store.get
  rw [lost]
  exact if_neg kind

theorem get_alike (alike : ReadAlike files later (s.pathOf key)) : s.get later key = s.get files key := by
  rcases alike with same | ⟨before, after⟩
  · unfold Store.get
    rw [same]
  · rw [get_absent s files key before, get_absent s later key after]

theorem get_some_iff (bytes : List UInt8) (read : files.read (s.pathOf key) = .ok bytes) (t : String) :
    s.get files key = .ok (some t) ↔ ∃ text fields, decodeText bytes = .ok text ∧ Json.parse text = .ok (.obj fields) ∧
      Fields.find? fields "text" = some (.str t) := by
  rcases decode_total bytes with ⟨text, decoded⟩ | broken
  · have whole := answer_of_iff text t
    rw [get_decoded s files key bytes text read decoded, decoded]
    cases made : answerOf text <;> simpa [made, Except.mapError] using whole
  · rw [get_read s files key bytes read, broken]
    simp [Except.mapError, bind, Except.bind]

theorem get_fails_iff (bytes : List UInt8) (read : files.read (s.pathOf key) = .ok bytes) :
    (∃ e, s.get files key = .error e) ↔ (∀ text, decodeText bytes ≠ .ok text) ∨
      ∃ text e, decodeText bytes = .ok text ∧ parseList (Text.universalNewlines text.toList) = .error e ∧
        e.isOfNumber = true := by
  rcases decode_total bytes with ⟨text, decoded⟩ | broken
  · have whole := answer_of_fails text
    rw [get_decoded s files key bytes text read decoded, decoded]
    cases made : answerOf text <;> simpa [made, Except.mapError] using whole
  · rw [get_read s files key bytes read, broken]
    simp [Except.mapError, bind, Except.bind]

end Reading

def folder (s : Store) : Path := s.root.join (Path.ofText s.purpose)

theorem of_text_name (name : String) (plain : '/' ∉ name.toList) (named : name ≠ "" ∧ name ≠ ".") :
    Path.ofText name = { names := [name] } := by
  have no_slash : name.toList.takeWhile (· == '/') = [] := by
    cases whole : name.toList with
    | nil => rfl
    | cons c cs =>
      have apart : c ≠ '/' := fun same => plain (by rw [whole, same]; exact List.mem_cons_self)
      simp [apart]
  have one : name.toList.splitOnP (· == '/') = [name.toList] := by
    refine List.splitOnP_eq_singleton fun c member => beq_eq_false_iff_ne.mpr ?_
    rintro rfl
    exact plain member
  rw [Path.ofText]
  simp [no_slash, one, named]

theorem append_last (name ending : String) (some_ : ending.toList ≠ []) :
    (name ++ ending).toList.getLast? = ending.toList.getLast? := by
  rw [String.toList_append, List.getLast?_append_of_ne_nil _ some_]

theorem json_name (key other : String) (apart : other.toList.getLast? ≠ some 'n') : key ++ ".json" ≠ other := by
  rintro rfl
  exact apart (append_last key ".json" (by decide))

theorem json_forth (key : String) : key ++ ".json" ≠ ".." := json_name key _ (by decide)

theorem tmp_forth (stem : String) : stem ++ ".json.tmp" ≠ ".." := by
  intro same
  have last := append_last stem ".json.tmp" (by decide)
  rw [same] at last
  revert last
  decide

theorem aside_not_json (stem key : String) : stem ++ ".json.tmp" ≠ key ++ ".json" := by
  refine (json_name key _ ?_).symm
  rw [append_last stem ".json.tmp" (by decide)]
  decide

theorem path_of_key (s : Store) (key : String) (plain : '/' ∉ key.toList) : s.pathOf key = s.folder.child (key ++ ".json") := by
  have no_slash : '/' ∉ (key ++ ".json").toList := by
    rw [String.toList_append, List.mem_append]
    rintro (inside | inside)
    · exact plain inside
    · revert inside
      decide
  rw [pathOf, of_text_name _ no_slash ⟨json_name key _ (by decide), json_name key _ (by decide)⟩]
  rfl

theorem aside_child (folder : Path) (name : String) :
    ∃ stem, (folder.child name).withEnding ".json.tmp" = folder.child (stem ++ ".json.tmp") := by
  refine ⟨(folder.child name).splitEnding.1, ?_⟩
  rw [Path.withEnding, Path.child, List.dropLast_concat, Path.child]

theorem child_parent (folder : Path) (name : String) : (folder.child name).parent = folder := by
  rw [Path.parent, Path.child, List.dropLast_concat]

def IsKey (key : String) : Prop := '/' ∉ key.toList ∧ (key ++ ".json").utf8ByteSize ≤ maxNameSize

theorem hex_digit_plain (d : Nat) (small : d < 16) : Text.Quoted.hexDigit d ≠ '/' ∧ (Text.Quoted.hexDigit d).utf8Size = 1 := by
  interval_cases d <;> decide

theorem hex_digits_plain (count n : Nat) : (Text.Quoted.hexDigits count n).length = count ∧
    ∀ c ∈ Text.Quoted.hexDigits count n, c ≠ '/' ∧ c.utf8Size = 1 := by
  induction count generalizing n with
  | zero => exact ⟨rfl, List.forall_mem_nil _⟩
  | succ count ih =>
    obtain ⟨long, plain⟩ := ih (n / 16)
    rw [Text.Quoted.hexDigits]
    refine ⟨by rw [List.length_append, long]; rfl, List.forall_mem_append.mpr ⟨plain, List.forall_mem_singleton.mpr ?_⟩⟩
    exact hex_digit_plain _ (Nat.mod_lt n (by decide))

theorem hex_text_plain (bytes : List UInt8) : (Sha256.hexText bytes).toList.length = 64 ∧
    ∀ c ∈ (Sha256.hexText bytes).toList, c ≠ '/' ∧ c.utf8Size = 1 := by
  rw [Sha256.hexText, String.toList_ofList]
  constructor
  · simp [Sha256.State.words, (hex_digits_plain 8 _).1]
  · intro c member
    obtain ⟨word, -, inside⟩ := List.mem_flatMap.mp member
    exact (hex_digits_plain 8 word.toNat).2 c inside

theorem single_bytes (text : String) (each : ∀ c ∈ text.toList, c.utf8Size = 1) : text.utf8ByteSize = text.toList.length := by
  have size : text.utf8ByteSize = String.utf8Len text.toList := by rw [← String.utf8ByteSize_ofList, String.ofList_toList]
  rw [size]
  generalize text.toList = cs at each
  induction cs with
  | nil => rfl
  | cons c cs ih =>
    obtain ⟨first, others⟩ := List.forall_mem_cons.mp each
    rw [String.utf8Len_cons, ih others, first, List.length_cons]

theorem fingerprint_key (version purpose : String) (messages : List Json) (parameters : Fields Json) :
    IsKey (Fingerprint.ofRequest version purpose messages parameters) := by
  obtain ⟨long, plain⟩ := hex_text_plain (Fingerprint.requestText version purpose messages parameters).toUTF8.toList
  refine ⟨fun inside => (plain '/' inside).1 rfl, ?_⟩
  rw [Fingerprint.ofRequest, String.utf8ByteSize_append, single_bytes _ fun c member => (plain c member).2, long]
  decide

section Writing

variable (s : Store) (files later : Files) (bytes : List UInt8)

theorem write_aside_keeps (path : Path) (result : Except FileFault Unit)
    (does : Does (writeAside path bytes) files result later) : Keeps files later := by
  rw [writeAside] at does
  rcases does_bind _ _ _ _ _ does with ⟨_, failed, -⟩ | ⟨_, opened, kept, does⟩
  · exact (does_keep_folders _ _ _ _ failed).toKeeps
  have first := (does_keep_folders _ _ _ _ kept).toKeeps
  rcases does_bind _ _ _ _ _ does with ⟨_, failed, -⟩ | ⟨_, written, wrote, does⟩
  · exact first.trans (write_keeps _ _ _ _ _ failed)
  · exact (first.trans (write_keeps _ _ _ _ _ wrote)).trans (move_keeps _ _ _ _ _ does)

theorem write_aside_done (folder : Path) (key : String)
    (does : Does (writeAside (folder.child (key ++ ".json")) bytes) files (.ok ()) later) :
    ∃ opened above stem, Opens files opened ∧ Keeps opened later ∧
      later.follow (later.start folder) folder.names = .ok above ∧ later.entryAt? above = some .folder ∧
      later.read (folder.child (key ++ ".json")) = .ok bytes ∧
      ∀ other, other ≠ above ++ [key ++ ".json"] → other ≠ above ++ [stem ++ ".json.tmp"] →
        later.entryAt? other = opened.entryAt? other := by
  obtain ⟨stem, asideIs⟩ := aside_child folder (key ++ ".json")
  have asideForth := tmp_forth stem
  rw [writeAside, asideIs, child_parent] at does
  rcases does_bind _ _ _ _ _ does with ⟨_, -, same⟩ | ⟨_, opened, kept, does⟩
  · cases same
  have opens := does_keep_folders _ _ _ _ kept
  rcases does_bind _ _ _ _ _ does with ⟨_, -, same⟩ | ⟨_, written, wrote, moved⟩
  · cases same
  rcases does_write _ _ _ _ _ wrote with ⟨_, same, -⟩ | ⟨aside, locatedAside, freeAside, -, rfl⟩
  · cases same
  rcases does_move _ _ _ _ _ moved with ⟨_, same, -⟩ | ⟨old, new, bytes', atOld, stands, atNew, freeNew, -, result⟩
  · cases same
  have keepsWritten := keeps_set _ aside locatedAside freeAside (.file bytes)
  have keepsMoved := move_keeps _ _ _ _ _ moved
  have whole := keepsWritten.trans keepsMoved
  obtain ⟨above, onward, standsAbove, rfl⟩ := locate_child folder _ asideForth aside locatedAside
  have onwardWritten := keepsWritten.follow_ok _ _ _ onward
  obtain rfl : above ++ [stem ++ ".json.tmp"] = old :=
    Except.ok.inj ((keepsWritten.located _ _ locatedAside).symm.trans atOld)
  obtain ⟨above', onward', -, rfl⟩ := locate_child folder _ (json_forth key) new atNew
  rw [keepsWritten.start, onwardWritten] at onward'
  cases onward'
  -- the endings differ, so the file aside is neither this entry nor any other
  have apart : above ++ [stem ++ ".json.tmp"] ≠ above ++ [key ++ ".json"] := fun same =>
    aside_not_json stem key (List.singleton_inj.mp (List.append_cancel_left same))
  have belowAside := below_root _ freeAside
  have belowNew := below_root _ freeNew
  rw [entry_set _ _ _ _ belowAside, if_pos rfl] at stands
  cases stands
  rw [if_neg apart] at result
  have readable : later.read (folder.child (key ++ ".json")) = .ok bytes := by
    refine read_file _ _ _ _ (keepsMoved.located _ _ atNew) ?_
    rw [result, entry_remove _ _ _ belowAside, if_neg apart.symm, entry_set _ _ _ _ belowNew, if_pos rfl]
  refine ⟨opened, above, stem, opens, whole, ?_, whole.folders _ standsAbove, readable, fun other notNew notAside => ?_⟩
  · rw [whole.start]
    exact whole.follow_ok _ _ _ onward
  · rw [result, entry_remove _ _ _ belowAside, if_neg notAside, entry_set _ _ _ _ belowNew, if_neg notNew,
      entry_set _ _ _ _ belowAside, if_neg notAside]

theorem put_stores (createdAt key answer : String) (model : Option String) (plain : '/' ∉ key.toList)
    (does : Does (writeAside (s.pathOf key) (entryText createdAt model answer).toUTF8.toList) files (.ok ()) later) :
    Does (s.put createdAt key answer model) files (.ok ()) later ∧ s.get later key = .ok (some answer) ∧
      (files.Rooted → later.Rooted ∧ (files.Direct s.folder → ∀ other, other ≠ key → IsKey other →
        s.get later other = s.get files other)) := by
  have pathIs := path_of_key s key plain
  refine ⟨did_catch files does _, ?_, fun rooted => ⟨(write_aside_keeps _ _ _ _ _ does).rooted rooted, ?_⟩⟩
  · rw [pathIs] at does
    obtain ⟨-, -, -, -, -, -, -, readable, -⟩ := write_aside_done files later _ s.folder key does
    rw [← pathIs] at readable
    rw [get_decoded s later key _ _ readable (decode_encoded _), entry_text_answer]
    rfl
  · intro direct other apart ⟨otherPlain, short⟩
    rw [pathIs] at does
    obtain ⟨opened, above, stem, opens, keeps, followed, stands, -, others⟩ := write_aside_done files later _ s.folder key does
    apply get_alike
    rw [path_of_key s other otherPlain]
    refine child_read_alike s.folder _ (json_forth other) short rooted direct opens keeps above followed stands
      (others _ (fun same => apart ?_) (fun same => aside_not_json stem other ?_))
    · exact (String.append_left_inj ".json").mp (List.singleton_inj.mp (List.append_cancel_left same))
    · exact (List.singleton_inj.mp (List.append_cancel_left same)).symm

end Writing

/-- Fingerprints are keys. The bytes of an entry give an answer exactly if they are a text that parses as an object
with that answer as its text. They fail to give one or none exactly if they are no text, or if reading that stops at an
integer that is too long. An answer whose writing succeeds is read back, and entries of other keys are as before. -/
theorem entry_outcomes (s : Store) :
    (∀ version purpose messages parameters, IsKey (Fingerprint.ofRequest version purpose messages parameters)) ∧
    (∀ (files : Files) (key : String) (bytes : List UInt8), files.read (s.pathOf key) = .ok bytes →
      (∀ t, s.get files key = .ok (some t) ↔ ∃ text fields, decodeText bytes = .ok text ∧
        Json.parse text = .ok (.obj fields) ∧ Fields.find? fields "text" = some (.str t)) ∧
      ((∃ e, s.get files key = .error e) ↔ (∀ text, decodeText bytes ≠ .ok text) ∨
        ∃ text e, decodeText bytes = .ok text ∧ parseList (Text.universalNewlines text.toList) = .error e ∧
          e.isOfNumber = true)) ∧
    ∀ (files later : Files) (createdAt key answer : String) (model : Option String), IsKey key →
      Does (writeAside (s.pathOf key) (entryText createdAt model answer).toUTF8.toList) files (.ok ()) later →
      Does (s.put createdAt key answer model) files (.ok ()) later ∧ s.get later key = .ok (some answer) ∧
        (files.Rooted → later.Rooted ∧ (files.Direct s.folder → ∀ other, other ≠ key → IsKey other →
          s.get later other = s.get files other)) :=
  ⟨fingerprint_key,
    fun files key bytes read => ⟨get_some_iff s files key bytes read, get_fails_iff s files key bytes read⟩,
    fun files later createdAt key answer model isKey => put_stores s files later createdAt key answer model isKey.1⟩

def sample : Store := { root := { root := "/", names := ["cache"] } }

def holding (bytes : List UInt8) : Files := Files.ofList [(["cache", "calc-plan", "deadbeef.json"], bytes)]

def sampleText : String := Json.asciiText (.obj [("text", .str "hi")])

theorem holding_read (bytes : List UInt8) : (holding bytes).read (sample.pathOf "deadbeef") = .ok bytes := by
  have path : sample.pathOf "deadbeef" = { root := "/", names := ["cache", "calc-plan", "deadbeef.json"] } := by decide
  rw [path]
  exact read_file _ _ ["cache", "calc-plan", "deadbeef.json"] _
    ((locate_ok _ _ _).mpr ⟨by decide, by decide, rfl⟩) rfl

theorem sample_entry_outcomes :
    ((holding sampleText.toUTF8.toList).read (sample.pathOf "deadbeef") = .ok sampleText.toUTF8.toList ∧
      sample.get (holding sampleText.toUTF8.toList) "deadbeef" = .ok (some "hi")) ∧
    ∃ later, Does (writeAside (sample.pathOf "deadbeef") (entryText "now" none "hi").toUTF8.toList) {} (.ok ()) later ∧
      sample.get later "deadbeef" = .ok (some "hi") ∧ later.Rooted ∧ sample.get later "cafe" = sample.get {} "cafe" := by
  obtain ⟨-, reads, stores⟩ := entry_outcomes sample
  have encodable : Json.Encodable (.obj [("text", .str "hi")]) :=
    .obj _ (by simp) (by simp only [List.forall_mem_cons]; exact ⟨.str "hi", nofun⟩)
  have parsed := Json.Style.print_parses { asciiOnly := true } (Json.Style.plain_spaced true none) encodable
  refine ⟨⟨holding_read _, ((reads _ _ _ (holding_read _)).1 "hi").mpr ⟨_, _, decode_encoded _, parsed, rfl⟩⟩, ?_⟩
  let outcome := (writeAside (sample.pathOf "deadbeef") (entryText "now" none "hi").toUTF8.toList).run.run {}
  have written : outcome.1.toOption = some () := by decide
  have does : Does (writeAside (sample.pathOf "deadbeef") (entryText "now" none "hi").toUTF8.toList) {} (.ok ()) outcome.2 := by
    obtain ⟨_, done, -⟩ := evaluated_ok outcome.1 id () (by rw [written]; rfl)
    exact Prod.ext done rfl
  obtain ⟨-, got, kept⟩ := stores {} outcome.2 "now" "deadbeef" "hi" none ⟨by decide, by decide⟩ does
  obtain ⟨rooted, others⟩ := kept empty_rooted
  exact ⟨outcome.2, does, got, rooted, others (.inl (by decide)) "cafe" (by decide) ⟨by decide, by decide⟩⟩

theorem stray_byte_fails : ¬∀ (s : Store) (files : Files) (key : String) (bytes : List UInt8),
    files.read (s.pathOf key) = .ok bytes → ∃ answer, s.get files key = .ok answer := by
  intro claim
  obtain ⟨answer, got⟩ := claim sample (holding [0xff]) "deadbeef" [0xff] (holding_read _)
  have fails : (sample.get (holding [0xff]) "deadbeef").toOption = none := by decide
  rw [got] at fails
  cases fails

end DamagePlan.Store
