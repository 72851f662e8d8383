import ConnectionJobs.Proofs.Job.RoundTrip
import ConnectionJobs.Proofs.Json.Unambiguous
import ConnectionJobs.Proofs.State.Document
import ConnectionJobs.Proofs.State.Store
import Mathlib.Logic.Function.Basic

/-!
# Reading back the state that was written last

Here the database keeps one document per connection. A statement that writes a state names a text, and what is kept is
the document of that text. A document is handed over as the driver likes: as text, not necessarily the text that was
written, as bytes, or decoded. Writing is part of a transaction, so there are the documents that are committed and
those that the open session works on.

After a state has been written, whatever happens to other connections, reading answers that state. Its payloads have to
survive as JSON values, and its document has to be within the limits of a reader: nothing stands inside of more than two
hundred containers, and no integer has more than 4300 digits, of which a minus sign may be one. When the driver decodes
documents itself these limits do not matter, since no reader of this library sees the text.
-/

namespace ConnectionJobs

/-! ## Texts of documents -/

namespace Json

variable [Release] {v w : Json} {t : String}

/-- **A text of a document**: the text that an exact document is written as, and any text that a reader takes for it. -/
def TextOf (document : Json) (t : String) : Prop :=
  (document.Exact ∧ document.write = t) ∨ readDocument? t = some document

theorem textOf_write (exact : v.Exact) : v.TextOf v.write := .inl ⟨exact, rfl⟩

/-- What is read from the text of an exact document is the document. -/
theorem eq_of_readDocument?_write (exact : v.Exact) (read : readDocument? v.write = some w) : w = v := by
  by_cases within : v.depth ≤ 201 ∧ v.Short
  · rw [readDocument?_write within.2 within.1, asRead_of_exact exact] at read
    exact (Option.some.inj read).symm
  · rw [readDocument?_outside within] at read
    exact nomatch read

/-- **A text is the text of one document.** -/
theorem TextOf.unique (h : v.TextOf t) (h' : w.TextOf t) : v = w := by
  obtain ⟨exact, rfl⟩ | read := h
  · obtain ⟨exact', same⟩ | read' := h'
    · exact eq_of_write exact exact' same.symm
    · exact (eq_of_readDocument?_write exact read').symm
  · obtain ⟨exact', rfl⟩ | read' := h'
    · exact eq_of_readDocument?_write exact' read
    · exact Option.some.inj (read.symm.trans read')

end Json

namespace Sql

/-! ## The database -/

/-- **How a driver hands documents over.** -/
inductive Handover where
  /-- As text. -/
  | text
  /-- As bytes. -/
  | bytes
  /-- Decoded. -/
  | decoded
  deriving DecidableEq, Repr

/-- The documents of connections. -/
abbrev Documents := Uuid → Option Json

/-- **What a database keeps.** -/
structure Kept where
  /-- The documents that are committed. -/
  committed : Documents
  /-- The documents as the open session leaves them. -/
  working : Documents

/-- **The document of a connection is settled**: it is committed, and the open session sees it. -/
structure Kept.Has (connection : Uuid) (document : Json) (kept : Kept) : Prop where
  /-- It is committed. -/
  committed : kept.committed connection = some document
  /-- The session sees it. -/
  working : kept.working connection = some document

/-- What has just been committed is settled. -/
theorem Kept.has_update (documents : Documents) (connection : Uuid) (document : Json) :
    Kept.Has connection document
      ⟨Function.update documents connection (some document), Function.update documents connection (some document)⟩ :=
  ⟨Function.update_self .., Function.update_self ..⟩

section Databases

variable [Json.Release]

/-- A cell holds a document, handed over in a form. -/
inductive Handover.Holds (document : Json) : Handover → Cell → Prop
  /-- It holds a text of the document. -/
  | text {t : String} : document.TextOf t → Holds document .text (.value (.text t))
  /-- It holds the bytes of such a text. -/
  | bytes {t : String} : document.TextOf t → Holds document .bytes (.bytes t)
  /-- It holds the document itself. -/
  | decoded : Holds document .decoded (.value document)

/-- **An exchange with a database that keeps documents**, from what is kept before it to what is kept after it. -/
inductive Exchange.Keeps (form : Handover) : Kept → Exchange → Kept → Prop
  /-- A session works on what is committed. -/
  | started {kept : Kept} {kind : SessionKind} :
      Keeps form kept ⟨.start kind, .ok ()⟩ ⟨kept.committed, kept.committed⟩
  /-- No document is read where there is none. -/
  | vacant {kept : Kept} {connection : Uuid} (absent : kept.working connection = none) :
      Keeps form kept ⟨.execute (.selectState connection), .ok (stateTable none)⟩ kept
  /-- A document is read. -/
  | selected {kept : Kept} {connection : Uuid} {document : Json} {cell : Cell}
      (there : kept.working connection = some document) (handed : form.Holds document cell) :
      Keeps form kept ⟨.execute (.selectState connection), .ok (stateTable (some cell))⟩ kept
  /-- A document is written. -/
  | upserted {kept : Kept} {connection : Uuid} {t : String} {document : Json} {table : Table}
      (meant : document.TextOf t) :
      Keeps form kept ⟨.execute (.upsertState connection t), .ok table⟩
        ⟨kept.committed, Function.update kept.working connection (some document)⟩
  /-- Any other statement leaves the documents alone. -/
  | executed {kept : Kept} {statement : Statement} {table : Table}
      (noRead : ∀ connection, statement ≠ .selectState connection)
      (noWrite : ∀ connection t, statement ≠ .upsertState connection t) :
      Keeps form kept ⟨.execute statement, .ok table⟩ kept
  /-- A reading session is closed. -/
  | closed {kept : Kept} : Keeps form kept ⟨.finish .close, .ok ()⟩ kept
  /-- A transaction is committed. -/
  | committed {kept : Kept} : Keeps form kept ⟨.finish .commit, .ok ()⟩ ⟨kept.working, kept.working⟩
  /-- A transaction is rolled back. -/
  | rolledBack {kept : Kept} : Keeps form kept ⟨.finish .rollback, .ok ()⟩ ⟨kept.committed, kept.committed⟩

/-- **Exchanges with such a database**, one after another. -/
inductive Passes (form : Handover) : Kept → List Exchange → Kept → Prop
  /-- Nothing happens. -/
  | nil (kept : Kept) : Passes form kept [] kept
  /-- One exchange, and more. -/
  | cons {before middle after : Kept} {exchange : Exchange} {exchanges : List Exchange} :
      exchange.Keeps form before middle → Passes form middle exchanges after →
      Passes form before (exchange :: exchanges) after

/-- The exchange writes the document of a connection. -/
def Exchange.Writes (connection : Uuid) (exchange : Exchange) : Prop :=
  ∃ t, exchange.operation = .execute (.upsertState connection t)

section Exchanges

variable {α : Type} {form : Handover} {before after : Kept} {connection : Uuid} {document : Json}

/-- **An exchange that does not write a document leaves it settled.** -/
theorem Exchange.Keeps.has {exchange : Exchange} (keeps : exchange.Keeps form before after)
    (spares : ¬exchange.Writes connection) (has : before.Has connection document) :
    after.Has connection document := by
  cases keeps with
  | started => exact ⟨has.committed, has.committed⟩
  | vacant | selected | executed | closed => exact has
  | committed => exact ⟨has.working, has.working⟩
  | rolledBack => exact ⟨has.committed, has.committed⟩
  | @upserted other t _ _ _ =>
    have different : connection ≠ other := by
      rintro rfl
      exact spares ⟨t, rfl⟩
    exact ⟨has.committed, (Function.update_of_ne different _ _).trans has.working⟩

/-- **A document stays settled** until an exchange writes it. -/
theorem Passes.has {exchanges : List Exchange} (passes : Passes form before exchanges after)
    (spare : ∀ exchange ∈ exchanges, ¬exchange.Writes connection) (has : before.Has connection document) :
    after.Has connection document := by
  induction passes with
  | nil _ => exact has
  | cons keeps _ ih =>
    obtain ⟨first, others⟩ := List.forall_mem_cons.mp spare
    exact ih others (keeps.has first has)

/-! ## Dialogues with the database -/

/-- **A dialogue ends** in a value, and leaves the database keeping something. -/
def Dialogue.Ends (form : Handover) (before : Kept) (dialogue : Dialogue α) (value : α) (after : Kept) : Prop :=
  ∃ exchanges, dialogue.Leads exchanges (.done value) ∧ Passes form before exchanges after

theorem ends_done {a value : α} :
    (Dialogue.done a).Ends form before value after ↔ value = a ∧ after = before := by
  constructor
  · rintro ⟨exchanges, leads, passes⟩
    obtain ⟨rfl, same⟩ := Dialogue.leads_done.mp leads
    cases passes
    exact ⟨Dialogue.done.inj same, rfl⟩
  · rintro ⟨rfl, rfl⟩
    exact ⟨[], .here _, .nil _⟩

theorem ends_ask {operation : Operation} {next : Except Failure operation.Answer → Dialogue α} {value : α} :
    (Dialogue.ask operation next).Ends form before value after ↔
      ∃ outcome middle, Exchange.Keeps form before ⟨operation, outcome⟩ middle ∧
        (next outcome).Ends form middle value after := by
  constructor
  · rintro ⟨exchanges, leads, passes⟩
    obtain ⟨-, waits⟩ | ⟨outcome, more, rfl, rest⟩ := Dialogue.leads_ask.mp leads
    · exact nomatch waits
    · cases passes with
      | cons keeps others => exact ⟨outcome, _, keeps, more, rest, others⟩
  · rintro ⟨outcome, middle, keeps, exchanges, leads, passes⟩
    exact ⟨_, .ask leads, .cons keeps passes⟩

/-- A session is opened. -/
theorem ends_start {kind : SessionKind} {next : Except Failure Unit → Dialogue α} {value : α} :
    (Dialogue.ask (.start kind) next).Ends form before value after ↔
      (next (.ok ())).Ends form ⟨before.committed, before.committed⟩ value after := by
  refine ends_ask.trans ⟨?_, fun rest => ⟨_, _, .started, rest⟩⟩
  rintro ⟨outcome, middle, keeps, rest⟩
  cases keeps
  exact rest

/-- A transaction is committed. -/
theorem ends_commit {next : Except Failure Unit → Dialogue α} {value : α} :
    (Dialogue.ask (.finish .commit) next).Ends form before value after ↔
      (next (.ok ())).Ends form ⟨before.working, before.working⟩ value after := by
  refine ends_ask.trans ⟨?_, fun rest => ⟨_, _, .committed, rest⟩⟩
  rintro ⟨outcome, middle, keeps, rest⟩
  cases keeps
  exact rest

/-- A reading session is closed. -/
theorem ends_close {next : Except Failure Unit → Dialogue α} {value : α} :
    (Dialogue.ask (.finish .close) next).Ends form before value after ↔
      (next (.ok ())).Ends form before value after := by
  refine ends_ask.trans ⟨?_, fun rest => ⟨_, _, .closed, rest⟩⟩
  rintro ⟨outcome, middle, keeps, rest⟩
  cases keeps
  exact rest

/-- The document of a text is written. -/
theorem ends_upsert {t : String} {next : Except Failure Table → Dialogue α} {value : α} (meant : document.TextOf t) :
    (Dialogue.ask (.execute (.upsertState connection t)) next).Ends form before value after ↔
      ∃ table, (next (.ok table)).Ends form
        ⟨before.committed, Function.update before.working connection (some document)⟩ value after := by
  refine ends_ask.trans ⟨?_, ?_⟩
  · rintro ⟨outcome, middle, keeps, rest⟩
    cases keeps with
    | upserted other =>
      obtain rfl := other.unique meant
      exact ⟨_, rest⟩
    | executed _ noWrite => exact absurd rfl (noWrite connection t)
  · rintro ⟨table, rest⟩
    exact ⟨_, _, .upserted meant, rest⟩

/-- A document that is there is read. -/
theorem ends_select {next : Except Failure Table → Dialogue α} {value : α}
    (there : before.working connection = some document) :
    (Dialogue.ask (.execute (.selectState connection)) next).Ends form before value after ↔
      ∃ cell, form.Holds document cell ∧ (next (.ok (stateTable (some cell)))).Ends form before value after := by
  refine ends_ask.trans ⟨?_, ?_⟩
  · rintro ⟨outcome, middle, keeps, rest⟩
    cases keeps with
    | vacant absent => exact nomatch absent.symm.trans there
    | selected found handed =>
      obtain rfl := Option.some.inj (found.symm.trans there)
      exact ⟨_, handed, rest⟩
    | executed noRead _ => exact absurd rfl (noRead connection)
  · rintro ⟨cell, handed, rest⟩
    exact ⟨_, _, .selected there handed, rest⟩

end Exchanges

/-! ## Writing and reading a state -/

section States

variable {form : Handover} {before after kept : Kept} {connection : Uuid} {state : SavedState}

/-- **Writing a state that can be written settles its document**, whatever has been there. -/
theorem ends_putState {outcome : Except Failure Unit} (exact : state.toJson.Exact)
    (written : state.text? = some state.toJson.write) :
    ((stateStore Dialogue.engine).put connection state).run.Ends form before outcome after ↔
      outcome = .ok () ∧
        after = ⟨Function.update before.committed connection (some state.toJson),
          Function.update before.committed connection (some state.toJson)⟩ := by
  show (putState Dialogue.engine connection state).run.Ends form before outcome after ↔ _
  unfold putState
  rw [written, storing_transact, run_discard]
  unfold transaction Dialogue.executing
  rw [ends_start]
  simp only [Dialogue.andThen]
  rw [ends_upsert (Json.textOf_write exact)]
  constructor
  · rintro ⟨table, rest⟩
    exact ends_done.mp (ends_commit.mp rest)
  · exact fun same => ⟨default, ends_commit.mpr (ends_done.mpr same)⟩

/-- **Reading a state** answers what the cell it is handed over in is checked to be. -/
theorem ends_getState {document : Json} {outcome : Except Failure (Option SavedState)}
    (has : kept.Has connection document) :
    (∃ after, ((stateStore Dialogue.engine).get connection).run.Ends form kept outcome after) ↔
      ∃ cell, form.Holds document cell ∧ outcome = stateIn (some cell) := by
  show (∃ after, (getState Dialogue.engine connection).run.Ends form kept outcome after) ↔ _
  have body : (Dialogue.engine.execute (.selectState connection)).run =
      .ask (.execute (.selectState connection)) .done := rfl
  have there : Kept.working ⟨kept.committed, kept.committed⟩ connection = some document := has.committed
  unfold getState
  rw [run_bind, storing_read, body]
  unfold readingSession
  simp only [Dialogue.andThen]
  constructor
  · rintro ⟨after, ends⟩
    obtain ⟨cell, handed, rest⟩ := (ends_select there).mp (ends_start.mp ends)
    have settled : (Dialogue.done (stateIn (some cell))).Ends form ⟨kept.committed, kept.committed⟩ outcome after := by
      rw [← run_stateOfTable]
      exact ends_close.mp rest
    exact ⟨cell, handed, (ends_done.mp settled).1⟩
  · rintro ⟨cell, handed, rfl⟩
    have settled : (Dialogue.done (stateIn (some cell))).Ends form ⟨kept.committed, kept.committed⟩
        (stateIn (some cell)) ⟨kept.committed, kept.committed⟩ := ends_done.mpr ⟨rfl, rfl⟩
    rw [← run_stateOfTable] at settled
    exact ⟨_, ends_start.mpr ((ends_select there).mpr ⟨cell, handed, ends_close.mpr settled⟩)⟩

/-- A document is handed over somehow. -/
theorem exists_holds {document : Json} (exact : document.Exact) : ∃ cell, form.Holds document cell := by
  cases form with
  | text => exact ⟨_, .text (Json.textOf_write exact)⟩
  | bytes => exact ⟨_, .bytes (Json.textOf_write exact)⟩
  | decoded => exact ⟨_, .decoded⟩

/-- **The state in a cell that holds its document**, within the limits of a reader where one is needed. -/
theorem stateIn_of_holds {cell : Cell} (within : form ≠ .decoded → state.toJson.depth ≤ 201 ∧ state.toJson.Short)
    (handed : form.Holds state.toJson cell) : stateIn (some cell) = .ok (some state) := by
  have read {t : String} (inReach : state.toJson.depth ≤ 201 ∧ state.toJson.Short) (text : state.toJson.TextOf t) :
      decodeText Decoder.savedState t = .valid state := by
    obtain ⟨exact, rfl⟩ | read := text
    · exact SavedState.decodeText_of_read (SavedState.readDocument?_write exact inReach.1 inReach.2)
    · exact SavedState.decodeText_of_read read
  have present : cell.isNull = false := by cases handed <;> rfl
  have checked : checkState cell = .valid state := by
    cases handed with
    | text meant => exact read (within nofun) meant
    | bytes meant => exact read (within nofun) meant
    | decoded => exact Decoder.undoes_savedState state
  rw [stateIn, present, checked]
  rfl

/-- **A text that no reader takes** is no state. -/
theorem stateIn_of_unread {t : String} (unread : Json.readDocument? t = none) :
    stateIn (some (.value (.text t))) =
      .error (.persistence "stored connection state is invalid" (some (.invalid [⟨.jsonInvalid, []⟩]))) := by
  have checked : checkState (.value (.text t)) = .invalid [⟨.jsonInvalid, []⟩] := by
    show decodeText Decoder.savedState t = _
    unfold decodeText
    rw [unread]
    rfl
  have present : (Cell.value (.text t)).isNull = false := rfl
  rw [stateIn, present, checked]
  rfl

/-- **A state that has been written is read back**, in whatever form documents are handed over: the write succeeds, and
until the document of the connection is written again, every read answers the state. -/
theorem get_iff_of_put (form : Handover) (before : Kept) (connection : Uuid) (state : SavedState)
    (exact : ∀ ms ∈ state.payloads, (Json.object ms).Exact) (shallow : state.toJson.nesting ≤ 201)
    (within : form ≠ .decoded → state.toJson.depth ≤ 201 ∧ state.toJson.Short) :
    (∃ after, ((stateStore Dialogue.engine).put connection state).run.Ends form before (.ok ()) after) ∧
      ∀ outcome after, ((stateStore Dialogue.engine).put connection state).run.Ends form before outcome after →
        outcome = .ok () ∧
          ∀ exchanges later, Passes form after exchanges later →
            (∀ exchange ∈ exchanges, ¬exchange.Writes connection) →
              ∀ answer, (∃ final, ((stateStore Dialogue.engine).get connection).run.Ends form later answer final) ↔
                answer = .ok (some state) := by
  have exactDocument : state.toJson.Exact := SavedState.exact_toJson exact
  have written := SavedState.text?_of_shallow shallow
  refine ⟨⟨_, (ends_putState exactDocument written).mpr ⟨rfl, rfl⟩⟩, fun outcome after put => ?_⟩
  obtain ⟨rfl, rfl⟩ := (ends_putState exactDocument written).mp put
  refine ⟨rfl, fun exchanges later passes spare answer => ?_⟩
  have has : later.Has connection state.toJson := passes.has spare (Kept.has_update ..)
  rw [ends_getState has]
  constructor
  · rintro ⟨cell, handed, rfl⟩
    exact stateIn_of_holds within handed
  · rintro rfl
    obtain ⟨cell, handed⟩ := exists_holds exactDocument
    exact ⟨cell, handed, (stateIn_of_holds within handed).symm⟩

end States

end Databases

/-- A database without any document. -/
def Kept.vacant : Kept := ⟨fun _ => none, fun _ => none⟩

namespace MixedState

/-- A global state with an empty shared part and an opaque cursor, and beside it a legacy payload and a cursor without
a payload. -/
def state : SavedState :=
  ⟨.global, some Labelled.payload, some ⟨some [], [⟨"users", none, some Labelled.payload⟩]⟩,
    [⟨"orders", some "public", none⟩]⟩

theorem exact : ∀ ms ∈ state.payloads, (Json.object ms).Exact := by
  have empty : (Json.object []).Exact := Json.exact_object List.nodup_nil nofun
  show ∀ ms ∈ [Labelled.payload, [], Labelled.payload], (Json.object ms).Exact
  simp only [List.forall_mem_cons]
  exact ⟨Labelled.exact_payload, empty, Labelled.exact_payload, nofun⟩

theorem within : state.toJson.nesting ≤ 201 ∧ state.toJson.depth ≤ 201 ∧ state.toJson.Short := by decide +kernel

/-- The state is written, and read back from the bytes of its text. -/
theorem exists_put_get :
    (∀ ms ∈ state.payloads, (Json.object ms).Exact) ∧ state.toJson.nesting ≤ 201 ∧
      (state.toJson.depth ≤ 201 ∧ state.toJson.Short) ∧
      ∃ after, ((stateStore Dialogue.engine).put default state).run.Ends .bytes Kept.vacant (.ok ()) after ∧
        ∃ final, ((stateStore Dialogue.engine).get default).run.Ends .bytes after (.ok (some state)) final := by
  obtain ⟨⟨after, put⟩, each⟩ := get_iff_of_put .bytes Kept.vacant default state exact within.1 fun _ => within.2
  refine ⟨exact, within.1, within.2, after, put, ?_⟩
  exact ((each _ after put).2 [] after (.nil after) (List.forall_mem_nil _) _).mpr rfl

end MixedState

/-- **A state is written and then lost**, when the driver hands over text: its payloads are as they should be, and its
document nests no more than 201 containers; the write succeeds, and the read finds the stored state invalid. -/
def IsLost (state : SavedState) : Prop :=
  (∀ ms ∈ state.payloads, (Json.object ms).Exact) ∧ state.toJson.nesting ≤ 201 ∧
    ∃ after, ((stateStore Dialogue.engine).put default state).run.Ends .text Kept.vacant (.ok ()) after ∧
      ∃ final, ((stateStore Dialogue.engine).get default).run.Ends .text after (.error
        (.persistence "stored connection state is invalid" (some (.invalid [⟨.jsonInvalid, []⟩])))) final

theorem isLost_of_outside {state : SavedState} (exact : ∀ ms ∈ state.payloads, (Json.object ms).Exact)
    (shallow : state.toJson.nesting ≤ 201) (outside : ¬(state.toJson.depth ≤ 201 ∧ state.toJson.Short)) :
    IsLost state := by
  have document := SavedState.exact_toJson exact
  have invalid := stateIn_of_unread (Json.readDocument?_outside outside)
  refine ⟨exact, shallow, _, (ends_putState document (SavedState.text?_of_shallow shallow)).mpr ⟨rfl, rfl⟩, ?_⟩
  refine (ends_getState (Kept.has_update ..)).mpr ?_
  exact ⟨_, .text (Json.textOf_write document), invalid.symm⟩

namespace LongCursor

/-- A stream state whose only cursor holds a power of ten. -/
def state (k : Nat) : SavedState :=
  ⟨.stream, none, none, [⟨"users", none, some [("count", .integer ((10 ^ k : Nat) : Int))]⟩]⟩

theorem long {k : Nat} (h : Json.wholeDigitLimit ≤ k) : ¬(state k).toJson.Short := by
  intro short
  have cursors := Json.short_object.mp short ("stream_states", _) (List.mem_append_right [_, _, _] List.mem_cons_self)
  have cursor := Json.short_array.mp cursors _ List.mem_cons_self
  have payload := Json.short_object.mp cursor ("state", _) (List.mem_append_right [_, _] List.mem_cons_self)
  have count := Json.short_object.mp payload ("count", _) List.mem_cons_self
  exact Json.not_fitsReader_pow h (Json.short_integer.mp count)

theorem exact (k : Nat) : ∀ ms ∈ (state k).payloads, (Json.object ms).Exact := fun ms inside => by
  obtain rfl := List.mem_singleton.mp inside
  exact LongCount.exact_payload _

/-- A state with a long integer is lost. -/
theorem isLost : IsLost (state Json.wholeDigitLimit) :=
  isLost_of_outside (exact _) (by decide +kernel) fun within => long (Nat.le_refl _) within.2

end LongCursor

namespace DeepCursor

/-- A stream state whose only cursor holds nested arrays. -/
def state (n : Nat) : SavedState := ⟨.stream, none, none, [⟨"users", none, some [("deep", Json.nested n)]⟩]⟩

theorem exact (n : Nat) : ∀ ms ∈ (state n).payloads, (Json.object ms).Exact := fun ms inside => by
  obtain rfl := List.mem_singleton.mp inside
  exact DeepPayload.exact_payload n

theorem shallow : (state 197).toJson.nesting ≤ 201 := by decide +kernel

theorem deep : ¬(state 197).toJson.depth ≤ 201 := by decide +kernel

/-- A state whose document nests two hundred and one containers, the innermost of them around a value, is lost. -/
theorem isLost : IsLost (state 197) := isLost_of_outside (exact _) shallow fun within => deep within.1

end DeepCursor

/-- **Both limits lose states**: one with a long integer, and one with a deep cursor. -/
theorem exists_put_invalid : IsLost (LongCursor.state Json.wholeDigitLimit) ∧ IsLost (DeepCursor.state 197) :=
  ⟨LongCursor.isLost, DeepCursor.isLost⟩

end Sql

end ConnectionJobs
