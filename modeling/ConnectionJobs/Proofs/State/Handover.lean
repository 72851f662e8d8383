import ConnectionJobs.Proofs.Json.LongNumber
import ConnectionJobs.Proofs.State.Database

/-!
# One document in three forms

A driver hands the document of a state over as text, as bytes of text, or decoded, and there are two ways to read the
state: a text goes through the reader of documents, and a decoded value goes straight to the decoder of states. Both ways
end in that decoder, so they can differ only where the reader does not take the text for what it means.

Within its limits the reader does, with repeated keys and all: nothing stands inside of more than two hundred
containers, and no number has too many digits before its point. Beyond them it finds no document at all, while a driver
that decodes may well find one. The problem that the reader reports then is about the whole document, and the decoder
never reports it; so there the forms never agree, whatever the document holds.

The problems of a document are compared by what they are and where. How they are worded is not said here, and the two
ways do differ in that.
-/

namespace ConnectionJobs

/-- **An array or an object.** -/
def Json.IsContainer : Json → Prop
  | array _ | object _ => True
  | _ => False

theorem Json.IsContainer.settled {v : Json} (container : v.IsContainer) : v.settled.IsContainer := by
  cases v with
  | array items =>
    rw [Json.settled]
    trivial
  | object members =>
    rw [Json.settled]
    trivial
  | _ => exact container.elim

/-- **The decoder of states never finds fault with a text**: its problems lie inside the document, unless that is no
object. -/
theorem Decoder.savedState_ne_jsonInvalid (v : Json) : savedState v ≠ .invalid [⟨.jsonInvalid, []⟩] := by
  intro invalid
  cases v with
  | object members =>
    have inner : (savedState (.object members)).Inner :=
      (((inner_required.map _).ap inner_omissible).ap inner_omissible).ap inner_withDefault
    rw [invalid] at inner
    exact inner _ List.mem_cons_self rfl
  | _ => exact nomatch invalid

namespace Sql

/-- **The cell in which a document is handed over**: a text of it, or what it means. -/
def Handover.cell (v : Json) (t : String) : Handover → Cell
  | text => .value (.text t)
  | bytes => .bytes t
  | decoded => .value v.settled

/-- **What a check of a stored document comes to**: the state, or a failure with the problems of the document. -/
def readingOf : Checked SavedState → Except Failure (Option SavedState)
  | .valid state => .ok (some state)
  | .invalid problems => .error (.persistence "stored connection state is invalid" (some (.invalid problems)))

theorem readingOf_inj {checked other : Checked SavedState} (same : readingOf checked = readingOf other) :
    checked = other := by
  cases checked <;> cases other <;> cases same <;> rfl

/-- A document has no fault of the database. -/
theorem readingOf_ne_lost {checked : Checked SavedState} {message : String} {fault : Fault} :
    readingOf checked ≠ .error (lost message fault) := by
  intro same
  cases checked with
  | valid state => exact nomatch same
  | invalid problems =>
    obtain ⟨-, causes⟩ := Failure.persistence.inj (Except.error.inj same)
    exact nomatch Option.some.inj causes

section Forms

open Dialogue (Yields)

variable {v : Json} {t : String} {form : Handover} {cell : Cell} {connection : Uuid}

/-- No form of a container is an empty cell. -/
theorem isNull_cell (container : v.IsContainer) : (form.cell v t).isNull = false := by
  cases form with
  | decoded =>
    have settled := container.settled
    show (Cell.value v.settled).isNull = false
    cases h : v.settled with
    | null =>
      rw [h] at settled
      exact settled.elim
    | _ => rfl
  | _ => rfl

variable [Json.Release]

/-- A cell that is not empty is read as what its check comes to. -/
theorem stateIn_eq_readingOf (present : cell.isNull = false) : stateIn (some cell) = readingOf (checkState cell) := by
  rw [stateIn, present, if_neg Bool.false_ne_true]
  cases checkState cell <;> rfl

/-- The decoded form is checked by the decoder of states. -/
theorem checkState_decoded (container : v.IsContainer) :
    checkState (Handover.decoded.cell v t) = Decoder.savedState v.settled := by
  have settled := container.settled
  show checkState (.value v.settled) = _
  cases h : v.settled with
  | text s =>
    rw [h] at settled
    exact settled.elim
  | _ => rfl

/-- **Every form of a document that is read is checked alike.** -/
theorem checkState_cell (container : v.IsContainer) (read : Json.readDocument? t = some v.settled) :
    checkState (form.cell v t) = Decoder.savedState v.settled := by
  have decoded : decodeText Decoder.savedState t = Decoder.savedState v.settled := by
    unfold decodeText
    rw [read]
  cases form with
  | text => exact decoded
  | bytes => exact decoded
  | decoded => exact checkState_decoded container

/-- **A text and what it means are checked differently where the text is not read.** -/
theorem checkState_text_ne_decoded (container : v.IsContainer) (unread : Json.readDocument? t = none) :
    checkState (Handover.text.cell v t) ≠ checkState (Handover.decoded.cell v t) := by
  have invalid : checkState (Handover.text.cell v t) = .invalid [⟨.jsonInvalid, []⟩] := by
    show decodeText Decoder.savedState t = _
    unfold decodeText
    rw [unread]
    rfl
  rw [invalid, checkState_decoded container]
  exact fun same => Decoder.savedState_ne_jsonInvalid _ same.symm

/-- **The forms of a document are read alike exactly when its text is within the limits of the reader.** Then each of
them, if the database does not fail, is read as what the decoder makes of the settled value: a state, or a failure with
the problems of the document. -/
theorem yields_alike_iff_hasText (container : v.IsContainer) (text : v.HasFreeText t) :
    (v.depth ≤ 201 ∧ v.HasText t → ∀ (form : Handover) (outcome : Except Failure (Option SavedState)),
      Yields (some (form.cell v t)) ((stateStore Dialogue.engine).get connection).run outcome ↔
        (∃ fault, outcome = .error (lost "failed to read connection state" fault)) ∨
          outcome = readingOf (Decoder.savedState v.settled)) ∧
      ((∀ (form other : Handover) (outcome : Except Failure (Option SavedState)),
        Yields (some (form.cell v t)) ((stateStore Dialogue.engine).get connection).run outcome ↔
          Yields (some (other.cell v t)) ((stateStore Dialogue.engine).get connection).run outcome) ↔
            v.depth ≤ 201 ∧ v.HasText t) := by
  have each (within : v.depth ≤ 201 ∧ v.HasText t) (form : Handover) (outcome : Except Failure (Option SavedState)) :
      Yields (some (form.cell v t)) ((stateStore Dialogue.engine).get connection).run outcome ↔
        (∃ fault, outcome = .error (lost "failed to read connection state" fault)) ∨
          outcome = readingOf (Decoder.savedState v.settled) := by
    rw [yields_getState, stateIn_eq_readingOf (isNull_cell container),
      checkState_cell container (Json.readDocument?_of_hasText within.2 within.1)]
  refine ⟨each, fun alike => ?_, fun within form other outcome => (each within form outcome).trans
    (each within other outcome).symm⟩
  refine text.inReach_or_unread.resolve_right fun unread => ?_
  -- What the text is read as would be what the value is read as, and that is no fault of the database.
  obtain ⟨fault, failed⟩ | same := yields_getState.mp ((alike .text .decoded _).mp (yields_getState.mpr (.inr rfl)))
  · rw [stateIn_eq_readingOf (isNull_cell container)] at failed
    exact readingOf_ne_lost failed
  · rw [stateIn_eq_readingOf (isNull_cell container), stateIn_eq_readingOf (isNull_cell container)] at same
    exact checkState_text_ne_decoded container unread (readingOf_inj same)

end Forms

namespace RepeatedType

/-- A document that gives the type of a state twice. -/
def document : Json := .object [("state_type", .text "legacy"), ("state_type", .text "stream")]

/-- The last type counts, in every form. -/
theorem yields_alike :
    document.IsContainer ∧ document.HasFreeText document.write ∧
      ∀ (form : Handover) (outcome : Except Failure (Option SavedState)),
        Dialogue.Yields (some (form.cell document document.write))
            ((stateStore Dialogue.engine).get default).run outcome ↔
          (∃ fault, outcome = .error (lost "failed to read connection state" fault)) ∨
            outcome = .ok (some ⟨.stream, none, none, []⟩) := by
  have container : document.IsContainer := trivial
  have limits : document.depth ≤ 201 ∧ document.Short := by decide +kernel
  have text : document.HasText document.write := Json.hasText_write limits.2
  exact ⟨container, text.free, (yields_alike_iff_hasText container text.free).1 ⟨limits.1, text⟩⟩

end RepeatedType

/-- **The forms of a document differ**: it nests no more than 201 containers, and a state is read from it where it is
decoded, but not from its text. -/
def FormsDiffer (document : Json) : Prop :=
  document.IsContainer ∧ document.nesting ≤ 201 ∧ document.HasFreeText document.write ∧
    ∃ outcome : Except Failure (Option SavedState),
      Dialogue.Yields (some (Handover.decoded.cell document document.write))
          ((stateStore Dialogue.engine).get default).run outcome ∧
        ¬Dialogue.Yields (some (Handover.text.cell document document.write))
          ((stateStore Dialogue.engine).get default).run outcome

/-- The forms of a state differ when its document is beyond the limits of the reader. -/
theorem formsDiffer_of_outside {state : SavedState} (exact : ∀ ms ∈ state.payloads, (Json.object ms).Exact)
    (shallow : state.toJson.nesting ≤ 201) (outside : ¬(state.toJson.depth ≤ 201 ∧ state.toJson.Short)) :
    FormsDiffer state.toJson := by
  have container : state.toJson.IsContainer := trivial
  have document := SavedState.exact_toJson exact
  have text : state.toJson.HasFreeText state.toJson.write := by
    have free := Json.hasFreeText_write state.toJson
    rwa [Json.written_of_exact document] at free
  refine ⟨container, shallow, text, .ok (some state), yields_getState.mpr (.inr ?_), ?_⟩
  · rw [stateIn_eq_readingOf (isNull_cell container), checkState_decoded container, Json.settled_of_exact document,
      Decoder.undoes_savedState]
    rfl
  · intro yields
    have invalid := stateIn_of_unread (Json.readDocument?_outside outside)
    obtain ⟨fault, failed⟩ | same := yields_getState.mp yields
    · exact nomatch failed
    · exact nomatch invalid.symm.trans same.symm

/-- **Beyond each of the two limits forms differ**: at a long integer, and at a deep cursor. -/
theorem exists_forms_differ :
    FormsDiffer (LongCursor.state Json.wholeDigitLimit).toJson ∧ FormsDiffer (DeepCursor.state 197).toJson := by
  constructor
  · refine formsDiffer_of_outside (LongCursor.exact _) (by decide +kernel) fun within => ?_
    exact LongCursor.long (Nat.le_refl _) within.2
  · exact formsDiffer_of_outside (DeepCursor.exact _) DeepCursor.shallow fun within => DeepCursor.deep within.1

end Sql

end ConnectionJobs
