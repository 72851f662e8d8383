import ConnectionJobs.Log.Record
import ConnectionJobs.Proofs.Json.Document
import ConnectionJobs.Proofs.Json.Visible
import ConnectionJobs.Proofs.Log.Clock
import ConnectionJobs.Proofs.Outcome

/-!
# What a log line says

A log line is made of texts that come from anywhere: the name of a logger, an argument of a message, the message of an
exception, an attribute. Whoever can choose one of them must not be able to end the line and start another one, nor to
add a member to it. The first is a matter of how texts are written (`Json.visible_write`). The second is seen from the
other side: a line is read back as one object, by any reader that opens enough containers, and the keys of that object
are those of the record.

Not every record has a line. Its time may be too far away to be shown, its message may hold half of a surrogate pair,
and its attributes may nest more containers than are written. Nothing else stands in the way of a proper record.
-/

namespace ConnectionJobs.Log

/-! ## Values that are written -/

/-- **An integer of sixty-four bits**, with a sign or without. -/
def InRange (n : Int) : Prop := -9223372036854775808 ≤ n ∧ n < 18446744073709551616

instance : DecidablePred InRange := fun _ => inferInstanceAs (Decidable (_ ∧ _))

section Values

variable {room : Nat} {v : Json} {items : List Json} {members : Members}

/-- Every reader takes integers in range. -/
theorem fits_of_inRange (inRange : v.EveryInteger InRange) (countsSign : Bool) : v.Fits countsSign := by
  intro n part
  obtain ⟨low, high⟩ := inRange n part
  have small : n.natAbs < 10 ^ 20 := by omega
  exact Json.fitsReader_of_lt small (by decide) (by decide)

theorem checkValues_eq_ok_iff : checkValues room items = .ok () ↔ ∀ item ∈ items, checkValue room item = .ok () := by
  induction items with
  | nil => exact iff_of_true rfl (List.forall_mem_nil _)
  | cons item rest ih =>
    rw [checkValues, List.forall_mem_cons, ← ih]
    exact check_eq_ok_iff

theorem checkMembers_eq_ok_iff :
    checkMembers room members = .ok () ↔ ∀ member ∈ members, checkValue room member.2 = .ok () := by
  induction members with
  | nil => exact iff_of_true rfl (List.forall_mem_nil _)
  | cons member rest ih =>
    rw [checkMembers, List.forall_mem_cons, ← ih]
    exact check_eq_ok_iff

/-- **A value can be written** when it nests no more containers than there is room for, and its integers are in
range. -/
theorem checkValue_eq_ok_iff : checkValue room v = .ok () ↔ v.nesting ≤ room ∧ v.EveryInteger InRange := by
  induction v using Json.induction generalizing room with
  | null | boolean | real | text =>
    refine iff_of_true rfl ⟨Nat.zero_le _, fun n part => ?_⟩
    cases part
  | integer n =>
    refine Iff.trans ?_ (and_iff_right (Nat.zero_le _)).symm
    simp only [checkValue, Json.everyInteger_integer, Bool.and_eq_true, decide_eq_true_eq]
    split_ifs with inRange
    · exact iff_of_true rfl inRange
    · exact iff_of_false not_false inRange
  | array items each =>
    rw [Json.everyInteger_array]
    cases room with
    | zero =>
      rw [Json.nesting, Json.height]
      exact iff_of_false (by rintro ⟨⟩) fun both => absurd both.1 (Nat.not_succ_le_zero _)
    | succ room =>
      rw [checkValue, checkValues_eq_ok_iff, Json.nesting, Json.height_array_le]
      exact (forall₂_congr fun item inside => each item inside).trans forall₂_and
  | object members each =>
    rw [Json.everyInteger_object]
    cases room with
    | zero =>
      rw [Json.nesting, Json.height]
      exact iff_of_false (by rintro ⟨⟩) fun both => absurd both.1 (Nat.not_succ_le_zero _)
    | succ room =>
      rw [checkValue, checkMembers_eq_ok_iff, Json.nesting, Json.height_object_le]
      exact (forall₂_congr fun member inside => each member inside).trans forall₂_and

end Values

/-! ## Keys of lines -/

/-- **The name of an attribute that is written.** -/
def IsContextName (name : String) : Prop := "ctx_".toList <+: name.toList

instance : DecidablePred IsContextName := fun _ => inferInstanceAs (Decidable (_ <+: _))

namespace Record

/-- **The keys of a line**: those that every line has, that of an exception if there is one, and the names of the
attributes that are written, in the order of the record. -/
def lineKeys (r : Record) : List String :=
  ["timestamp", "level", "name", "message"] ++ (if r.exceptionInfo.isSome then ["exc_info"] else []) ++
    (Keyed.keys r.attributes).filter (IsContextName ·)

/-- **A proper record**: its attributes have distinct names, and the numbers and keys in those that are written can be
written as they are. -/
structure Proper (r : Record) : Prop where
  /-- No two attributes have one name. -/
  distinct : (Keyed.keys r.attributes).Nodup
  /-- Numbers are finite, and keys do not repeat. -/
  exact : ∀ a ∈ r.attributes, IsContextName a.1 → a.2.toJson.Exact
  /-- Integers have no more than sixty-four bits. -/
  inRange : ∀ a ∈ r.attributes, IsContextName a.1 → a.2.toJson.EveryInteger InRange

/-- **A record that has a line** in a zone. -/
structure Writable (r : Record) (zone : Zone) : Prop where
  /-- Its time can be shown there. -/
  shown : IsShown (zone.clock r.created)
  /-- Its message consists of characters. -/
  message : ∃ cs, r.message = .ok (Text.codePoints cs)
  /-- Each attribute that is written leaves room for the line around it. -/
  shallow : ∀ a ∈ r.attributes, IsContextName a.1 → a.2.toJson.nesting ≤ 253

/-- **What the members of a line tell of a record**, in a zone. -/
structure ToldBy (r : Record) (zone : Zone) (members : Members) : Prop where
  /-- There are no other members. -/
  keys : Keyed.keys members = r.lineKeys
  /-- The time. -/
  time : ∃ time, DateTime.ofSeconds? zone r.created = .ok time ∧
    Keyed.find? "timestamp" members = some (.text (time.text "T"))
  /-- The level. -/
  level : Keyed.find? "level" members = some (.text (levelName r.level))
  /-- The logger. -/
  name : Keyed.find? "name" members = some (.text r.logger)
  /-- The message. -/
  message : ∃ cs, r.message = .ok (Text.codePoints cs) ∧
    Keyed.find? "message" members = some (.text (String.ofList cs))
  /-- The exception. -/
  exception : ∀ e, r.exceptionInfo = some e → Keyed.find? "exc_info" members = some (.text e.text)
  /-- The attributes. -/
  attributes : ∀ a ∈ r.attributes, IsContextName a.1 → Keyed.find? a.1 members = some a.2.toJson

/-- **A line that says what a record says** in a zone, and nothing else: it has no control character in it, and it is
the text of one object, which any reader that has a level left for its scalars finds in it and which tells the
record. -/
structure LoggedAs (r : Record) (zone : Zone) (line : String) : Prop where
  /-- The line does not end before its end. -/
  visible : ∀ c ∈ line.toList, Json.Visible c
  /-- The line tells the record. -/
  members : ∃ members, (Json.object members).HasText line ∧
    (∀ rules : Json.Rules, lineNestingLimit + rules.scalar ≤ rules.levels →
      Json.read rules line = .ok (.object members)) ∧
    r.ToldBy zone members

section Members

variable {r : Record} {time message : String}

theorem context_eq (r : Record) :
    r.context = (r.attributes.filter (IsContextName ·.1)).map fun a => (a.1, a.2.toJson) := by
  unfold context
  refine congrArg (List.map _) (List.filter_congr fun a _ => ?_)
  rw [Bool.eq_iff_iff, List.isPrefixOf_iff_prefix, decide_eq_true_eq]
  rfl

theorem keys_context (r : Record) : Keyed.keys r.context = (Keyed.keys r.attributes).filter (IsContextName ·) := by
  rw [context_eq]
  unfold Keyed.keys
  rw [List.map_map, List.filter_map]
  rfl

theorem settle_context (distinct : (Keyed.keys r.attributes).Nodup) : Keyed.settle r.context = r.context :=
  Keyed.settle_of_nodup (keys_context r ▸ distinct.filter _)

/-- The value of a member is a text, or that of an attribute. -/
theorem forall_lineMembers {P : Json → Prop} (distinct : (Keyed.keys r.attributes).Nodup) (texts : ∀ s, P (.text s)) :
    (∀ member ∈ r.lineMembers time message, P member.2) ↔
      ∀ a ∈ r.attributes, IsContextName a.1 → P a.2.toJson := by
  have context : (∀ member ∈ r.context, P member.2) ↔ ∀ a ∈ r.attributes, IsContextName a.1 → P a.2.toJson := by
    rw [context_eq]
    simp only [List.forall_mem_map, List.mem_filter, decide_eq_true_eq, and_imp]
  unfold lineMembers
  rw [settle_context distinct, List.forall_mem_append, context]
  refine and_iff_right ?_
  cases r.exceptionInfo <;> simp [texts]

theorem keys_lineMembers (distinct : (Keyed.keys r.attributes).Nodup) :
    Keyed.keys (r.lineMembers time message) = r.lineKeys := by
  unfold lineMembers lineKeys
  rw [settle_context distinct, ← keys_context]
  unfold Keyed.keys
  rw [List.map_append, List.map_append]
  cases r.exceptionInfo <;> rfl

/-- **No key of a line repeats**: the name of no attribute that is written is one of the other keys. -/
theorem nodup_lineKeys (distinct : (Keyed.keys r.attributes).Nodup) : r.lineKeys.Nodup := by
  refine List.nodup_append.mpr ⟨?own, distinct.filter _, ?apart⟩
  case own => cases r.exceptionInfo.isSome <;> decide
  case apart =>
    have own : ∀ key ∈ ["timestamp", "level", "name", "message"] ++
        (if r.exceptionInfo.isSome then ["exc_info"] else []), ¬IsContextName key := by
      cases r.exceptionInfo.isSome <;> decide +kernel
    rintro key inside _ context rfl
    exact own key inside (of_decide_eq_true (List.mem_filter.mp context).2)

theorem exact_line (proper : r.Proper) (time message : String) :
    (Json.object (r.lineMembers time message)).Exact :=
  Json.exact_object (keys_lineMembers proper.distinct ▸ nodup_lineKeys proper.distinct)
    ((forall_lineMembers proper.distinct Json.exact_text).mpr proper.exact)

theorem inRange_line (proper : r.Proper) (time message : String) :
    (Json.object (r.lineMembers time message)).EveryInteger InRange := by
  have texts (s : String) : (Json.text s).EveryInteger InRange := fun n part => by cases part
  exact Json.everyInteger_object.mpr ((forall_lineMembers proper.distinct texts).mpr proper.inRange)

/-- A line is a container around the attributes, and of the other members none is a container. -/
theorem nesting_line_le (proper : r.Proper) (time message : String) :
    (Json.object (r.lineMembers time message)).nesting ≤ lineNestingLimit ↔
      ∀ a ∈ r.attributes, IsContextName a.1 → a.2.toJson.nesting ≤ 253 := by
  unfold lineNestingLimit
  rw [Json.nesting, Json.height_object_le]
  exact forall_lineMembers proper.distinct (P := fun v => v.nesting ≤ 253) fun _ => Nat.zero_le _

end Members

/-! ## The line of a record -/

section Lines

variable {r : Record} {zone : Zone} {time : DateTime} {cs : List Char} {line : String}

theorem time_eq_ok_iff {separator text : String} :
    r.time zone separator = .ok text ↔
      ∃ time, DateTime.ofSeconds? zone r.created = .ok time ∧ time.text separator = text := by
  unfold Record.time
  cases DateTime.ofSeconds? zone r.created with
  | error problem => exact ⟨nofun, fun ⟨_, shown, _⟩ => nomatch shown⟩
  | ok time =>
    constructor
    · exact fun written => ⟨time, rfl, Except.ok.inj written⟩
    · rintro ⟨_, ⟨⟩, rfl⟩
      rfl

theorem writtenMessage_eq_ok_iff {points : List Text.CodePoint} {text : String} :
    writtenMessage points = .ok text ↔ ∃ cs, points = Text.codePoints cs ∧ String.ofList cs = text := by
  simp only [← Text.characters?_eq_some_iff]
  unfold writtenMessage
  cases Text.characters? points with
  | none => exact ⟨nofun, fun ⟨_, whole, _⟩ => nomatch whole⟩
  | some cs =>
    constructor
    · exact fun written => ⟨cs, rfl, Except.ok.inj written⟩
    · rintro ⟨_, ⟨⟩, rfl⟩
      rfl

/-- **A line is written** from a time, a message and members that can all be written. -/
theorem jsonLine_eq_ok_iff :
    r.jsonLine zone = .ok line ↔ ∃ time cs, DateTime.ofSeconds? zone r.created = .ok time ∧
      r.message = .ok (Text.codePoints cs) ∧
      checkValue lineNestingLimit (.object (r.lineMembers (time.text "T") (String.ofList cs))) = .ok () ∧
      (Json.object (r.lineMembers (time.text "T") (String.ofList cs))).write = line := by
  constructor
  · intro written
    obtain ⟨_, timed, written⟩ := bind_eq_ok_iff.mp written
    obtain ⟨_, formatted, written⟩ := bind_eq_ok_iff.mp written
    obtain ⟨_, whole, written⟩ := bind_eq_ok_iff.mp written
    obtain ⟨_, checked, written⟩ := bind_eq_ok_iff.mp written
    obtain ⟨time, shown, rfl⟩ := time_eq_ok_iff.mp timed
    obtain ⟨cs, rfl, rfl⟩ := writtenMessage_eq_ok_iff.mp whole
    exact ⟨time, cs, shown, formatted, checked, Except.ok.inj written⟩
  · rintro ⟨time, cs, shown, formatted, checked, rfl⟩
    refine bind_eq_ok_iff.mpr ⟨_, time_eq_ok_iff.mpr ⟨time, shown, rfl⟩, ?_⟩
    refine bind_eq_ok_iff.mpr ⟨_, formatted, ?_⟩
    refine bind_eq_ok_iff.mpr ⟨_, writtenMessage_eq_ok_iff.mpr ⟨cs, rfl, rfl⟩, ?_⟩
    exact bind_eq_ok_iff.mpr ⟨(), checked, rfl⟩

theorem toldBy_lineMembers (distinct : (Keyed.keys r.attributes).Nodup)
    (shown : DateTime.ofSeconds? zone r.created = .ok time) (formatted : r.message = .ok (Text.codePoints cs)) :
    r.ToldBy zone (r.lineMembers (time.text "T") (String.ofList cs)) := by
  have found {key : String} {value : Json}
      (inside : (key, value) ∈ r.lineMembers (time.text "T") (String.ofList cs)) :
      Keyed.find? key (r.lineMembers (time.text "T") (String.ofList cs)) = some value :=
    Keyed.find?_of_mem (keys_lineMembers distinct ▸ nodup_lineKeys distinct) inside
  refine ⟨keys_lineMembers distinct, ⟨time, shown, found ?_⟩, found ?_, found ?_, ⟨cs, formatted, found ?_⟩,
    fun e attached => found ?_, fun a inside context => found ?_⟩
  iterate 4 · simp [lineMembers]
  · simp [lineMembers, attached]
  · refine List.mem_append_right _ ?_
    rw [settle_context distinct, context_eq]
    exact List.mem_map.mpr ⟨a, List.mem_filter.mpr ⟨inside, decide_eq_true context⟩, rfl⟩

/-- **The line of a proper record says what the record says.** -/
theorem loggedAs_jsonLine (proper : r.Proper) (written : r.jsonLine zone = .ok line) : r.LoggedAs zone line := by
  obtain ⟨time, cs, shown, formatted, checked, rfl⟩ := jsonLine_eq_ok_iff.mp written
  have exact := exact_line proper (time.text "T") (String.ofList cs)
  have text (rules : Json.Rules) := Json.lexes_write rules
    (fits_of_inRange (inRange_line proper (time.text "T") (String.ofList cs)) rules.countsSign)
  rw [Json.written_of_exact exact] at text
  refine ⟨Json.visible_write _, _, text Json.documentRules, fun rules room => ?_,
    toldBy_lineMembers proper.distinct shown formatted⟩
  have shallow := (checkValue_eq_ok_iff.mp checked).1
  have high := (Json.height_le_nesting rules.scalar _).trans ((Nat.add_le_add_right shallow _).trans room)
  rw [Json.read_of_lexes (text rules) high, Json.settled_of_exact exact]

/-- **The proper records that have a line.** -/
theorem exists_jsonLine_iff (proper : r.Proper) : (∃ line, r.jsonLine zone = .ok line) ↔ r.Writable zone := by
  constructor
  · rintro ⟨line, written⟩
    obtain ⟨time, cs, shown, formatted, checked, -⟩ := jsonLine_eq_ok_iff.mp written
    have shallow := (nesting_line_le proper _ _).mp (checkValue_eq_ok_iff.mp checked).1
    exact ⟨exists_ofSeconds?_iff.mp ⟨time, shown⟩, ⟨cs, formatted⟩, shallow⟩
  · rintro ⟨shown, ⟨cs, formatted⟩, shallow⟩
    obtain ⟨time, shown⟩ := exists_ofSeconds?_iff.mpr shown
    have fits := (nesting_line_le proper (time.text "T") (String.ofList cs)).mpr shallow
    have checked := checkValue_eq_ok_iff.mpr ⟨fits, inRange_line proper _ _⟩
    exact ⟨_, jsonLine_eq_ok_iff.mpr ⟨time, cs, shown, formatted, checked, rfl⟩⟩

/-- **A proper record becomes one line that says what the record says**, in any zone and whatever its texts contain,
unless its time cannot be shown there, its message is no text, or its attributes nest too many containers; it has no
line then. -/
theorem jsonLine_faithful (zone : Zone) (proper : r.Proper) :
    (∀ line, r.jsonLine zone = .ok line → r.LoggedAs zone line) ∧
      ((∃ line, r.jsonLine zone = .ok line) ↔ r.Writable zone) :=
  ⟨fun _ => loggedAs_jsonLine proper, exists_jsonLine_iff proper⟩

end Lines

end Record

/-! ## A record that forges a line -/

namespace Forged

/-- An attribute with an identifier and numbers inside. -/
def job : Attribute :=
  .table [
    ("id", .uuid (Uuid.ofNat 1)),
    ("sizes", .list [.json (.integer 18446744073709551615), .json (.real (Double.zero true))])]

/-- A record whose logger, argument, attributes and exception all try to end the line, and whose argument goes on with
a line of its own. One of its attributes is not written. -/
def record : Record where
  logger := "sync\r\n"
  level := 25
  template := "%s"
  arguments := [.text "done\"\x7d\n\x7b\"level\":\"INFO\"\x7d"]
  created := 1700000000
  milliseconds := 0
  attributes := [("ctx_job", job), ("secret", .json (.real Double.nan)), ("ctx_note\n", .json (.text "\n"))]
  exceptionInfo := some ⟨"Traceback (most recent call last):\n  File \"jobs.py\", line 1\nValueError: one\ntwo\n"⟩

theorem exact_job : job.toJson.Exact := by
  have sizes : (Json.array [.integer 18446744073709551615, .real (Double.zero true)]).Exact :=
    Json.exact_array (List.forall_mem_cons.mpr ⟨Json.exact_integer _, List.forall_mem_singleton.mpr
      (Json.exact_real rfl)⟩)
  exact Json.exact_object (by decide)
    (List.forall_mem_cons.mpr ⟨Json.exact_text _, List.forall_mem_singleton.mpr sizes⟩)

theorem inRange_job : job.toJson.EveryInteger InRange := by
  have checked : checkValue 2 job.toJson = .ok () := by decide +kernel
  exact (checkValue_eq_ok_iff.mp checked).2

theorem proper : record.Proper := by
  have unwritten : ¬IsContextName "secret" := by decide +kernel
  have checked : checkValue 0 (.text "\n") = .ok () := rfl
  refine ⟨by decide, ?exact, ?inRange⟩
  case exact =>
    refine List.forall_mem_cons.mpr ⟨fun _ => exact_job, List.forall_mem_cons.mpr ⟨?_, ?_⟩⟩
    · exact fun context => absurd context unwritten
    · exact List.forall_mem_singleton.mpr fun _ => Json.exact_text _
  case inRange =>
    refine List.forall_mem_cons.mpr ⟨fun _ => inRange_job, List.forall_mem_cons.mpr ⟨?_, ?_⟩⟩
    · exact fun context => absurd context unwritten
    · exact List.forall_mem_singleton.mpr fun _ => (checkValue_eq_ok_iff.mp checked).2

/-- The record has a line, and it says what the record says. -/
theorem exists_line : record.Proper ∧
    ∃ line, record.jsonLine .universal = .ok line ∧ record.LoggedAs .universal line := by
  obtain ⟨tells, writes⟩ := Record.jsonLine_faithful .universal proper
  have message : record.message = .ok (Text.codePoints "done\"\x7d\n\x7b\"level\":\"INFO\"\x7d".toList) := by
    decide +kernel
  obtain ⟨line, written⟩ := writes.mpr ⟨by decide, ⟨_, message⟩, by decide +kernel⟩
  exact ⟨proper, line, written, tells line written⟩

end Forged

/-! ## Records without a line -/

namespace Lost

/-- **A proper record whose message can be formatted has no line** in universal time, because of a problem. -/
def Lacks (r : Record) (problem : LineProblem) : Prop :=
  r.Proper ∧ (∃ points, r.message = .ok points) ∧ r.jsonLine .universal = .error problem

/-- A record whose message is half of a surrogate pair. -/
def half : Record := ⟨"sync_jobs", 20, "%c", [.integer 55296], 0, 0, [], none⟩

/-- A record with an attribute that nests one container too many. -/
def deep : Record := ⟨"sync_jobs", 20, "done", [], 0, 0, [("ctx_a", .json (Json.nested 254))], none⟩

/-- A record made in the first second of the year after the last one. -/
def late : Record := ⟨"sync_jobs", 20, "done", [], 67767976233532800, 0, [], none⟩

/-- **Each limit loses a record**: half of a surrogate pair, one container too many, and one second too many. -/
theorem lacks_line : Lacks half .broken ∧ Lacks deep .nesting ∧ Lacks late (.time .greatYear) := by
  have bare {r : Record} (none : r.attributes = []) : r.Proper := by
    refine ⟨?_, ?_, ?_⟩ <;> rw [none]
    exacts [List.nodup_nil, List.forall_mem_nil _, List.forall_mem_nil _]
  refine ⟨⟨bare rfl, ⟨_, rfl⟩, ?half⟩, ⟨⟨List.pairwise_singleton _ _, ?_, ?_⟩, ⟨_, rfl⟩, ?deep⟩, bare rfl, ⟨_, rfl⟩, ?late⟩
  case half => decide +kernel
  case deep => decide +kernel
  case late => decide +kernel
  · exact List.forall_mem_singleton.mpr fun _ => Json.exact_nested 254
  · have checked : checkValue 254 (Json.nested 254) = .ok () := by decide +kernel
    exact List.forall_mem_singleton.mpr fun _ => (checkValue_eq_ok_iff.mp checked).2

end Lost

end ConnectionJobs.Log
