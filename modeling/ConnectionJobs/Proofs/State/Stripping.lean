import ConnectionJobs.Proofs.Creation.Clearing

/-!
# What stripping clears, and what it leaves

Stripping drops the cursors of the requested streams, and with the last cursor of a global state its shared part.
The first effect is local, one cursor at a time. The second is not: whether the shared part survives depends on all
cursors together. That stripping composes all the same rests on two facts. The cursors retained in two stages are
those that neither stage names (`retainedStreams_append`). And a stage that clears the shared part leaves no cursor, so
no later stage would have kept it (`GlobalState.strip_append`).

Whether a cursor remains is asked whether or not one was dropped. So a payload with a shared part and no cursor loses
the shared part under any requests, and even under none; no other state is changed by requests for streams that it
has no cursor of (`SavedState.strip_frame`).
-/

namespace ConnectionJobs

variable {a b requests : List RefreshRequest}

/-! ## The retained cursors -/

section Retained

variable {streams : List StreamState}

/-- The cursors retained by two lists of requests are retained by the one and then by the other. -/
theorem retainedStreams_append : retainedStreams (a ++ b) streams = retainedStreams b (retainedStreams a streams) := by
  rw [retainedStreams, retainedStreams, retainedStreams, List.filter_filter]
  refine List.filter_congr fun cursor _ => ?_
  rw [List.map_append, Bool.eq_iff_iff]
  simp only [List.mem_append, Bool.not_eq_true', decide_eq_false_iff_not, Bool.and_eq_true, not_or]
  exact and_comm

/-- **Only the set of requested streams matters.** -/
theorem retainedStreams_congr
    (same : ∀ stream, stream ∈ a.map RefreshRequest.stream ↔ stream ∈ b.map RefreshRequest.stream) :
    retainedStreams a streams = retainedStreams b streams :=
  List.filter_congr fun cursor _ => by rw [decide_eq_decide.mpr (same cursor.stream)]

theorem retainedStreams_eq_self :
    retainedStreams requests streams = streams ↔
      ∀ cursor ∈ streams, cursor.stream ∉ requests.map RefreshRequest.stream := by
  rw [retainedStreams, List.filter_eq_self]
  simp only [Bool.not_eq_true', decide_eq_false_iff_not]

end Retained

/-! ## Stripping in stages -/

/-- **Stripping a payload composes**, its shared part included. -/
theorem GlobalState.strip_append (g : GlobalState) : g.strip (a ++ b) = (g.strip a).strip b := by
  have cursors : (g.strip (a ++ b)).streams = ((g.strip a).strip b).streams := retainedStreams_append
  have shared : (g.strip (a ++ b)).shared = ((g.strip a).strip b).shared := by
    change (if (retainedStreams (a ++ b) g.streams).isEmpty then none else g.shared) =
      if (retainedStreams b (retainedStreams a g.streams)).isEmpty then none
      else if (retainedStreams a g.streams).isEmpty then none else g.shared
    rw [retainedStreams_append]
    -- Where the first stage cleared the shared part it left nothing for the second to retain.
    cases retained : retainedStreams a g.streams with
    | nil => rfl
    | cons _ _ => rfl
  exact congrArg₂ GlobalState.mk shared cursors

theorem GlobalState.strip_congr
    (same : ∀ stream, stream ∈ a.map RefreshRequest.stream ↔ stream ∈ b.map RefreshRequest.stream) :
    GlobalState.strip a = GlobalState.strip b :=
  funext fun g => by rw [GlobalState.strip, GlobalState.strip, retainedStreams_congr same]

namespace SavedState

variable {s s' : SavedState}

/-- **Stripping composes.** -/
theorem strip_append : s.strip (a ++ b) = (s.strip a).strip b := by
  obtain ⟨shape, legacy, payload, streams⟩ := s
  cases shape with
  | legacy => rfl
  | stream => exact congrArg _ retainedStreams_append
  | global =>
    cases payload with
    | none => rfl
    | some g => exact congrArg (fun g => (⟨.global, legacy, some g, streams⟩ : SavedState)) g.strip_append

theorem strip_congr
    (same : ∀ stream, stream ∈ a.map RefreshRequest.stream ↔ stream ∈ b.map RefreshRequest.stream) :
    s.strip a = s.strip b := by
  obtain ⟨shape, legacy, payload, streams⟩ := s
  cases shape with
  | legacy => rfl
  | stream => exact congrArg _ (retainedStreams_congr same)
  | global => rw [strip, strip, GlobalState.strip_congr same]

/-! ## The stripped state, part by part -/

/-- The shared part of the payload of a global state. -/
def shared (s : SavedState) : Option Members := s.global.bind GlobalState.shared

/-- **What a stripped state is**, part by part. -/
structure Stripped (requests : List RefreshRequest) (s s' : SavedState) : Prop where
  /-- The shape is kept. -/
  shape : s'.shape = s.shape
  /-- The payload of a legacy state is kept, whatever the shape. -/
  legacy : s'.legacy = s.legacy
  /-- The payload of a global state is kept under another shape. -/
  global : s.shape ≠ .global → s'.global = s.global
  /-- The cursors of a stream state are kept under another shape. -/
  streams : s.shape ≠ .stream → s'.streams = s.streams
  /-- No payload comes or goes. -/
  payload : s'.global.isSome = s.global.isSome
  /-- The surviving cursors are those of the streams that no request names, as they were and in their order. -/
  cursors : s'.cursors = s.cursors.filter fun cursor => cursor.stream ∉ requests.map RefreshRequest.stream
  /-- The shared part of a global state is kept when a cursor survives, and otherwise cleared. -/
  shared : s.shape = .global → s'.shared = if s'.cursors = [] then none else s.shared

theorem stripped_strip : Stripped requests s (s.strip requests) where
  shape := shape_strip
  legacy := by
    obtain ⟨shape, _, _, _⟩ := s
    cases shape <;> rfl
  global other := by
    obtain ⟨shape, _, _, _⟩ := s
    cases shape with
    | global => exact absurd rfl other
    | _ => rfl
  streams other := by
    obtain ⟨shape, _, _, _⟩ := s
    cases shape with
    | stream => exact absurd rfl other
    | _ => rfl
  payload := by
    obtain ⟨shape, _, payload, _⟩ := s
    cases shape with
    | global => exact Option.isSome_map
    | _ => rfl
  cursors := by
    rw [cursors_strip, retainedStreams]
    exact List.filter_congr fun cursor _ => (decide_not ..).symm
  shared global := by
    rw [cursors_strip]
    obtain ⟨shape, _, payload, _⟩ := s
    obtain rfl : shape = .global := global
    cases payload with
    | none => rfl
    | some g => exact if_congr List.isEmpty_iff rfl rfl

/-- **Nothing else is a stripped state**: the parts determine the whole. -/
theorem Stripped.unique {t : SavedState} (hs : Stripped requests s s') (ht : Stripped requests s t) : s' = t := by
  have shape : s'.shape = t.shape := hs.shape.trans ht.shape.symm
  have legacy : s'.legacy = t.legacy := hs.legacy.trans ht.legacy.symm
  have payload : s'.global.isSome = t.global.isSome := hs.payload.trans ht.payload.symm
  have cursors : s'.cursors = t.cursors := hs.cursors.trans ht.cursors.symm
  obtain ⟨shape', legacy', global', streams'⟩ := s'
  obtain ⟨_, _, global, streams⟩ := t
  cases shape
  cases legacy
  have kept := hs.shape
  cases shape' with
  | legacy =>
    have other : s.shape ≠ .global ∧ s.shape ≠ .stream := by simp [← kept]
    rw [show global' = global from (hs.global other.1).trans (ht.global other.1).symm,
      show streams' = streams from (hs.streams other.2).trans (ht.streams other.2).symm]
  | stream =>
    have other : s.shape ≠ .global := by simp [← kept]
    rw [show global' = global from (hs.global other).trans (ht.global other).symm,
      show streams' = streams from cursors]
  | global =>
    have other : s.shape ≠ .stream := by simp [← kept]
    have shared := hs.shared kept.symm
    rw [cursors, ← ht.shared kept.symm] at shared
    rw [show streams' = streams from (hs.streams other).trans (ht.streams other).symm]
    match global', global with
    | none, none => rfl
    | some g, some h => rw [show g = h from congrArg₂ GlobalState.mk shared cursors]

theorem eq_strip_iff : s' = s.strip requests ↔ Stripped requests s s' :=
  ⟨fun h => h ▸ stripped_strip, fun h => h.unique stripped_strip⟩

/-! ## The laws of stripping -/

/-- **The laws of stripping.** Stages of a stripping merge into one, in either order; so stripping again changes
nothing, and only the set of requested streams matters. The stripped state is the one with the parts that `Stripped`
lists, and a state without a payload that holds cursors is returned as it is. -/
theorem strip_laws (s : SavedState) (a b : List RefreshRequest) :
    (s.strip a).strip b = s.strip (a ++ b) ∧ (s.strip b).strip a = s.strip (a ++ b) ∧
      (s.strip a).strip a = s.strip a ∧
      (∀ c : List RefreshRequest,
        (∀ stream, stream ∈ c.map RefreshRequest.stream ↔ stream ∈ a.map RefreshRequest.stream) →
          s.strip c = s.strip a) ∧
      (∀ s', s' = s.strip a ↔ Stripped a s s') ∧
      (s.shape = .legacy ∨ s.shape = .global ∧ s.global = none → s.strip a = s) := by
  have swapped : s.strip (b ++ a) = s.strip (a ++ b) := strip_congr fun stream => by
    rw [List.map_append, List.map_append, List.mem_append, List.mem_append, or_comm]
  have doubled : s.strip (a ++ a) = s.strip a := strip_congr fun stream => by
    rw [List.map_append, List.mem_append, or_self]
  refine ⟨strip_append.symm, strip_append.symm.trans swapped, strip_append.symm.trans doubled,
    fun c same => strip_congr same, fun s' => eq_strip_iff, ?_⟩
  obtain ⟨shape, legacy, payload, streams⟩ := s
  rintro (rfl | ⟨rfl, rfl⟩) <;> rfl

namespace LogPosition

/-- A global state that shares a log position among some cursors. -/
def state (cursors : List StreamState) : SavedState :=
  ⟨.global, none, some ⟨some [("lsn", .integer 99)], cursors⟩, []⟩

/-- A cursor of a stream without a namespace. -/
def plain : StreamState := ⟨"users", none, none⟩

/-- A cursor of the stream of the same name in a namespace. -/
def spaced : StreamState := ⟨"users", some "public", some [("count", .integer 3)]⟩

/-- The request to refresh the stream of a cursor. -/
def request (cursor : StreamState) : RefreshRequest := ⟨default, cursor.streamName, cursor.streamNamespace⟩

/-- The log position outlives the first of two cursors, which may be requested twice, and goes with the second. -/
theorem strip_in_stages :
    (∀ stream, stream ∈ [request plain, request plain].map RefreshRequest.stream ↔
      stream ∈ [request plain].map RefreshRequest.stream) ∧
      (state [plain, spaced]).strip [request plain, request plain] = state [spaced] ∧
      ((state [plain, spaced]).strip [request plain]).strip [request spaced] =
        { state [] with global := some ⟨none, []⟩ } ∧
      (⟨.global, none, none, [plain]⟩ : SavedState).strip [request plain] = ⟨.global, none, none, [plain]⟩ := by
  have same : ∀ stream, stream ∈ [request plain, request plain].map RefreshRequest.stream ↔
      stream ∈ [request plain].map RefreshRequest.stream := fun stream => by simp
  obtain ⟨merged, -, -, congr, -, -⟩ := strip_laws (state [plain, spaced]) [request plain] [request spaced]
  obtain ⟨-, -, -, -, -, unchanged⟩ := strip_laws ⟨.global, none, none, [plain]⟩ [request plain] []
  exact ⟨same, (congr _ same).trans rfl, merged.trans rfl, unchanged (.inr ⟨rfl, rfl⟩)⟩

end LogPosition

/-! ## Requests for streams without a cursor -/

/-- **The shared part stands alone**: the state is a global one whose payload has a shared part and no cursor. -/
def SharedAlone (s : SavedState) : Prop := s.shape = .global ∧ s.cursors = [] ∧ s.shared ≠ none

/-- **A shared part that stands alone is cleared**, whatever is requested, and nothing else is. -/
theorem strip_of_sharedAlone (alone : s.SharedAlone) : s.strip requests = { s with global := some ⟨none, []⟩ } := by
  obtain ⟨shape, legacy, payload, streams⟩ := s
  obtain ⟨global, bare, shared⟩ := alone
  obtain rfl : shape = .global := global
  match payload with
  | none => exact absurd rfl shared
  | some ⟨part, cursors⟩ =>
    obtain rfl : cursors = [] := bare
    rfl

/-- **A state is returned as it is** when no request names a stream that it has a cursor of and no shared part stands
alone in it. -/
theorem strip_eq_self_iff :
    s.strip requests = s ↔
      (∀ cursor ∈ s.cursors, cursor.stream ∉ requests.map RefreshRequest.stream) ∧ ¬s.SharedAlone := by
  constructor
  · intro kept
    have cursors : retainedStreams requests s.cursors = s.cursors := by rw [← cursors_strip, kept]
    refine ⟨retainedStreams_eq_self.mp cursors, fun ⟨global, bare, shared⟩ => ?_⟩
    have stripped : Stripped requests s (s.strip requests) := stripped_strip
    have cleared := stripped.shared global
    rw [kept, if_pos bare] at cleared
    exact shared cleared
  · rintro ⟨spared, accompanied⟩
    have cursors : s.cursors = s.cursors.filter fun cursor => cursor.stream ∉ requests.map RefreshRequest.stream :=
      (List.filter_eq_self.mpr fun cursor hc => decide_eq_true (spared cursor hc)).symm
    have shared (global : s.shape = .global) : s.shared = if s.cursors = [] then none else s.shared := by
      by_cases bare : s.cursors = []
      · rw [if_pos bare]
        exact not_not.mp fun present => accompanied ⟨global, bare, present⟩
      · rw [if_neg bare]
    exact (eq_strip_iff.mpr ⟨rfl, rfl, fun _ => rfl, fun _ => rfl, rfl, cursors, shared⟩).symm

/-- **What stripping leaves alone.** A state is returned as it is exactly when no request names a stream that it has a
cursor of, unless its shared part stands alone; and then that part is all that is cleared. -/
theorem strip_frame (s : SavedState) (requests : List RefreshRequest) :
    (s.strip requests = s ↔
      (∀ cursor ∈ s.cursors, cursor.stream ∉ requests.map RefreshRequest.stream) ∧ ¬s.SharedAlone) ∧
      (s.SharedAlone → s.strip requests = { s with global := some ⟨none, []⟩ }) :=
  ⟨strip_eq_self_iff, strip_of_sharedAlone⟩

namespace LogPosition

/-- The log position is kept beside a cursor of another stream, and cleared where it stands alone. -/
theorem strip_stray :
    (state [plain]).strip [request spaced] = state [plain] ∧ (state []).SharedAlone ∧
      (state []).strip [request spaced] = { state [] with global := some ⟨none, []⟩ } := by
  have spared : ∀ cursor ∈ (state [plain]).cursors, cursor.stream ∉ [request spaced].map RefreshRequest.stream := by
    simp [state, SavedState.cursors, plain, spaced, request, StreamState.stream, RefreshRequest.stream]
  have alone : (state []).SharedAlone := ⟨rfl, rfl, nofun⟩
  exact ⟨(strip_frame _ _).1.mpr ⟨spared, fun ⟨_, bare, _⟩ => nomatch bare⟩, alone, (strip_frame _ _).2 alone⟩

/-- **Requests for other streams, and no requests at all, change a state**: one that has no cursor, but a log position.
-/
theorem exists_strip_ne :
    ∃ s : SavedState, ∀ requests, (∀ cursor ∈ s.cursors, cursor.stream ∉ requests.map RefreshRequest.stream) ∧
      s.strip requests ≠ s := by
  refine ⟨state [], fun requests => ⟨nofun, fun same => ?_⟩⟩
  have shared : (none : Option Members) = some [("lsn", .integer 99)] := congrArg SavedState.shared same
  exact nomatch shared

end LogPosition

end SavedState

end ConnectionJobs
