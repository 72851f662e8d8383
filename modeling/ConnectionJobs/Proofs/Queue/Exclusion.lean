import ConnectionJobs.Proofs.Queue.Database
import Mathlib.Data.List.TakeWhile

/-!
# One active job in a scope

Calls on the queue may interleave in every way, and still no scope has two active jobs. The lock alone does not
give this, since it is released when a transaction ends, and the guard of the insertion alone does not, since it
does not see what other transactions have not committed. Together they do: a pending insertion holds the lock of
its scope (`Transaction.Sound.locked`), so all other pending insertions are in other scopes, and the scope of a
pending insertion has no active job among the committed ones (`Transaction.Sound.room`).

What a call contributes is one rule, `Dialogue.Orderly`: it inserts a job only under a scope that is trimmed and
whose lock it has taken in the same transaction.
-/

namespace ConnectionJobs

/-! ## Blanks around scopes -/

namespace Text

variable {p : Char → Bool}

theorem dropEndWhile_append {cs blanks : List Char} (h : ∀ c ∈ blanks, p c = true) :
    dropEndWhile p (cs ++ blanks) = dropEndWhile p cs := by
  unfold dropEndWhile
  rw [List.reverse_append, List.dropWhile_append_of_pos fun c hc => h c (List.mem_reverse.mp hc)]

/-- Dropping at both ends does not see what would be dropped there. -/
theorem dropAround_append_append {before cs after : List Char} (hb : ∀ c ∈ before, p c = true)
    (ha : ∀ c ∈ after, p c = true) : dropAround p (before ++ cs ++ after) = dropAround p cs := by
  unfold dropAround
  rw [List.append_assoc, List.dropWhile_append_of_pos hb, List.dropWhile_append]
  by_cases empty : (cs.dropWhile p).isEmpty = true
  · rw [if_pos empty, List.isEmpty_iff.mp empty, ← List.append_nil after, List.dropWhile_append_of_pos ha]
    rfl
  · rw [if_neg empty, dropEndWhile_append ha]

/-- What is dropped at both ends. -/
theorem exists_eq_append_dropAround (cs : List Char) :
    ∃ before after, (∀ c ∈ before, p c = true) ∧ (∀ c ∈ after, p c = true) ∧
      cs = before ++ dropAround p cs ++ after := by
  have rest : cs.dropWhile p = dropAround p cs ++ ((cs.dropWhile p).reverse.takeWhile p).reverse := by
    unfold dropAround dropEndWhile
    rw [← List.reverse_append, List.takeWhile_append_dropWhile, List.reverse_reverse]
  refine ⟨cs.takeWhile p, ((cs.dropWhile p).reverse.takeWhile p).reverse, fun c hc => List.mem_takeWhile_imp hc,
    fun c hc => List.mem_takeWhile_imp (List.mem_reverse.mp hc), ?_⟩
  rw [List.append_assoc, ← rest, List.takeWhile_append_dropWhile]

/-- What is left after dropping at both ends has nothing to drop there. -/
theorem dropAround_dropAround (cs : List Char) : dropAround p (dropAround p cs) = dropAround p cs := by
  obtain ⟨before, after, hb, ha, e⟩ := exists_eq_append_dropAround (p := p) cs
  have same := congrArg (dropAround p) e
  rw [dropAround_append_append hb ha] at same
  exact same.symm

/-- Blanks around a text do not change its trimmed form. -/
theorem trim_append_append {before after : String} (s : String) (hb : isBlankText before = true)
    (ha : isBlankText after = true) : trim (before ++ s ++ after) = trim s := by
  unfold isBlankText at hb ha
  unfold trim
  rw [String.toList_append, String.toList_append,
    dropAround_append_append (List.all_eq_true.mp hb) (List.all_eq_true.mp ha)]

@[simp] theorem trim_trim (s : String) : trim (trim s) = trim s := by
  unfold trim
  rw [String.toList_ofList, dropAround_dropAround]

end Text

namespace Sql

/-! ## Orderly dialogues -/

/-- **The locks that are surely held** after an exchange, when some were before it. -/
def Exchange.locksAfter (locks : List (Int × Int)) : Exchange → List (Int × Int)
  | ⟨.execute (.tryLock key1 key2), .ok table⟩ =>
    match lockOutcome table with
    | .ok true => (key1, key2) :: locks
    | _ => locks
  | ⟨.execute _, _⟩ => locks
  | ⟨.start _, _⟩ => []
  | ⟨.finish _, _⟩ => []

/-- **An operation that is in order** for a party that holds some locks: a job is inserted under a trimmed scope
whose lock is held. -/
def Operation.InOrder (locks : List (Int × Int)) : Operation → Prop
  | .execute (.insertJob _ scope _) => lockKeys scope ∈ locks ∧ Text.trim scope = scope
  | _ => True

namespace Dialogue

variable {α β : Type}

/-- **A dialogue that asks only for what is in order**, when it goes on holding some locks. -/
def Orderly : List (Int × Int) → Dialogue α → Prop
  | _, done _ => True
  | locks, ask operation next =>
    operation.InOrder locks ∧ ∀ outcome, (next outcome).Orderly (Exchange.locksAfter locks ⟨operation, outcome⟩)

theorem Orderly.andThen {locks : List (Int × Int)} {p : Dialogue α} {f : α → Dialogue β} (h : p.Orderly locks)
    (then_orderly : ∀ a locks, (f a).Orderly locks) : (p.andThen f).Orderly locks := by
  induction p generalizing locks with
  | done value => exact then_orderly value locks
  | ask operation next ih => exact ⟨h.1, fun outcome => ih outcome (h.2 outcome)⟩

theorem orderly_conclude (message : String) (outcome : Except Failure α) (locks : List (Int × Int)) :
    (conclude message outcome).Orderly locks := by
  cases outcome with
  | ok a =>
    refine ⟨trivial, fun ended => ?_⟩
    cases ended <;> exact trivial
  | error failure =>
    refine ⟨trivial, fun ended => ?_⟩
    cases ended <;> exact trivial

theorem orderly_transaction {message : String} {body : Dialogue (Except Failure α)} {locks : List (Int × Int)}
    (h : body.Orderly []) : (transaction message body).Orderly locks := by
  refine ⟨trivial, fun outcome => ?_⟩
  cases outcome with
  | error failure => exact trivial
  | ok opened => exact h.andThen (orderly_conclude message)

theorem orderly_insertDialogue {scope : String} {config : JobConfig} {locks : List (Int × Int)}
    (held : lockKeys scope ∈ locks) (trimmed : Text.trim scope = scope) :
    (insertDialogue scope config).Orderly locks := by
  unfold insertDialogue
  cases config.text? with
  | none => exact trivial
  | some text =>
    refine ⟨⟨held, trimmed⟩, fun outcome => ?_⟩
    cases outcome <;> exact trivial

theorem orderly_enqueueDialogue {scope : String} {config : JobConfig} {locks : List (Int × Int)}
    (trimmed : Text.trim scope = scope) : (enqueueDialogue scope config).Orderly locks := by
  refine ⟨trivial, fun outcome => ?_⟩
  obtain failure | table := outcome
  · exact trivial
  · simp only [Exchange.locksAfter]
    obtain failure | taken := lockOutcome table
    · exact trivial
    · cases taken with
      | false => exact trivial
      | true => exact orderly_insertDialogue List.mem_cons_self trimmed

theorem orderly_updateDialogue {job : Int} {config : JobConfig} {locks : List (Int × Int)} :
    (updateDialogue job config).Orderly locks := by
  unfold updateDialogue
  cases config.text? with
  | none => exact trivial
  | some text =>
    refine ⟨trivial, fun outcome => ?_⟩
    cases outcome <;> exact trivial

end Dialogue

/-- **Every call on the queue is orderly.** -/
theorem QueueCall.orderly (call : QueueCall) : call.dialogue.Orderly [] := by
  cases call with
  | enqueue scope config =>
    rw [dialogue_enqueue]
    have trimmed := Text.trim_trim scope
    generalize Text.trim scope = name at trimmed ⊢
    by_cases blank : name.isEmpty = true
    · rw [if_pos blank]
      exact trivial
    · rw [if_neg blank]
      exact Dialogue.orderly_transaction (Dialogue.orderly_enqueueDialogue trimmed)
  | updateConfig job config =>
    rw [dialogue_updateConfig]
    apply Dialogue.Orderly.andThen
    · exact Dialogue.orderly_transaction Dialogue.orderly_updateDialogue
    · intro outcome locks
      exact trivial

/-! ## Sound databases -/

/-- How many jobs are active in a scope. -/
def occupants (scope : String) (jobs : List JobRow) : Nat := jobs.countP (JobRow.occupies scope)

/-- **A sound transaction** over some committed jobs. -/
structure Transaction.Sound (jobs : List JobRow) (t : Transaction) : Prop where
  /-- Jobs are inserted under trimmed scopes. -/
  trimmed : ∀ row ∈ t.rows, Text.trim row.scope = row.scope
  /-- A transaction that inserts a job holds the lock of its scope. -/
  locked : ∀ row ∈ t.rows, lockKeys row.scope ∈ t.locks
  /-- A scope has room for what is inserted into it. -/
  room : ∀ scope, occupants scope jobs + occupants scope t.rows ≤ 1

/-- **A sound database.** -/
structure Database.Sound (db : Database) : Prop where
  /-- Scopes are trimmed. -/
  trimmed : ∀ row ∈ db.jobs, Text.trim row.scope = row.scope
  /-- No scope has two active jobs. -/
  single : ∀ scope, occupants scope db.jobs ≤ 1
  /-- No lock is held twice. -/
  exclusive : ∀ {i j t u key}, db.sessions i = some t → db.sessions j = some u →
    key ∈ t.locks → key ∈ u.locks → i = j
  /-- Every open transaction is sound. -/
  transactions : ∀ {i t}, db.sessions i = some t → t.Sound db.jobs

namespace Transaction

variable {t : Transaction} {jobs : List JobRow}

@[simp] theorem rows_lock (t : Transaction) (key : Int × Int) : (t.lock key).rows = t.rows := rfl

@[simp] theorem rows_insert (t : Transaction) (row : JobRow) : (t.write (.insert row)).rows = t.rows ++ [row] := by
  unfold rows write
  rw [List.filterMap_append]
  rfl

@[simp] theorem rows_setConfig (t : Transaction) (job : Int) (config : String) :
    (t.write (.setConfig job config)).rows = t.rows := by
  unfold rows write
  rw [List.filterMap_append]
  exact List.append_nil _

/-- Writes change how many jobs are active in a scope only by inserting some. -/
theorem occupants_foldl_apply (scope : String) (writes : List Write) (jobs : List JobRow) :
    occupants scope (writes.foldl Write.apply jobs) =
      occupants scope jobs + occupants scope (writes.filterMap Write.row?) := by
  induction writes generalizing jobs with
  | nil => rfl
  | cons w writes ih =>
    rw [List.foldl_cons, ih]
    cases w with
    | insert row =>
      rw [show (Write.insert row :: writes).filterMap Write.row? = row :: writes.filterMap Write.row? from rfl]
      unfold occupants Write.apply
      rw [List.countP_append, List.countP_singleton, List.countP_cons]
      omega
    | setConfig job config =>
      rw [List.filterMap_cons_none rfl]
      unfold occupants Write.apply
      rw [List.countP_map]
      congr 2
      funext row
      unfold JobRow.occupies JobRow.isActive
      simp only [Function.comp]
      split <;> rfl

theorem occupants_view (scope : String) (t : Transaction) (jobs : List JobRow) :
    occupants scope (t.view jobs) = occupants scope jobs + occupants scope t.rows :=
  occupants_foldl_apply scope t.writes jobs

/-- A row that a transaction sees has the scope of a row that is committed or inserted. -/
theorem exists_of_mem_foldl_apply {row : JobRow} {writes : List Write} {jobs : List JobRow}
    (h : row ∈ writes.foldl Write.apply jobs) :
    ∃ other, (other ∈ jobs ∨ other ∈ writes.filterMap Write.row?) ∧ other.scope = row.scope := by
  induction writes generalizing jobs with
  | nil => exact ⟨row, .inl h, rfl⟩
  | cons w writes ih =>
    obtain ⟨other, mem, e⟩ := ih h
    cases w with
    | insert r =>
      refine ⟨other, ?_, e⟩
      obtain mem | mem := mem
      · obtain mem | rfl := (List.mem_append.mp mem).imp_right List.mem_singleton.mp
        · exact .inl mem
        · exact .inr List.mem_cons_self
      · exact .inr (List.mem_cons_of_mem r mem)
    | setConfig job config =>
      obtain mem | mem := mem
      · obtain ⟨first, found, rfl⟩ := List.mem_map.mp mem
        refine ⟨first, .inl found, ?_⟩
        split at e <;> exact e
      · exact ⟨other, .inr mem, e⟩

theorem exists_of_mem_view {row : JobRow} (h : row ∈ t.view jobs) :
    ∃ other, (other ∈ jobs ∨ other ∈ t.rows) ∧ other.scope = row.scope :=
  exists_of_mem_foldl_apply h

theorem occupants_append (scope : String) (jobs more : List JobRow) :
    occupants scope (jobs ++ more) = occupants scope jobs + occupants scope more :=
  List.countP_append

/-- A transaction without writes is sound. -/
theorem Sound.empty (single : ∀ scope, occupants scope jobs ≤ 1) : (⟨[], []⟩ : Transaction).Sound jobs where
  trimmed _ h := absurd h List.not_mem_nil
  locked _ h := absurd h List.not_mem_nil
  room := single

theorem Sound.lock (sound : t.Sound jobs) (key : Int × Int) : (t.lock key).Sound jobs where
  trimmed := sound.trimmed
  locked row h := List.mem_cons_of_mem key (sound.locked row h)
  room := sound.room

/-- **An insertion in order into a vacant scope** keeps a transaction sound. -/
theorem Sound.insert (sound : t.Sound jobs) {row : JobRow} (held : lockKeys row.scope ∈ t.locks)
    (trimmed : Text.trim row.scope = row.scope) (vacant : ∀ other ∈ t.view jobs, other.occupies row.scope = false) :
    (t.write (.insert row)).Sound jobs where
  trimmed other h := by
    rw [rows_insert, List.mem_append, List.mem_singleton] at h
    obtain h | rfl := h
    · exact sound.trimmed other h
    · exact trimmed
  locked other h := by
    rw [rows_insert, List.mem_append, List.mem_singleton] at h
    obtain h | rfl := h
    · exact sound.locked other h
    · exact held
  room scope := by
    rw [rows_insert, occupants_append]
    by_cases same : row.scope = scope
    · subst same
      -- The transaction sees no active job of the scope, so none is committed and it has inserted none.
      have none : occupants row.scope (t.view jobs) = 0 :=
        List.countP_eq_zero.mpr fun other h => by rw [vacant other h]; exact Bool.false_ne_true
      rw [occupants_view] at none
      have one : occupants row.scope [row] ≤ 1 := List.countP_le_length
      omega
    · have none : occupants scope [row] = 0 :=
        List.countP_eq_zero.mpr fun other h => by
          rw [List.mem_singleton.mp h]
          simp [JobRow.occupies, same]
      have := sound.room scope
      omega

theorem Sound.setConfig (sound : t.Sound jobs) (job : Int) (config : String) :
    (t.write (.setConfig job config)).Sound jobs where
  trimmed row h := sound.trimmed row (by rwa [rows_setConfig] at h)
  locked row h := sound.locked row (by rwa [rows_setConfig] at h)
  room scope := by
    rw [rows_setConfig]
    exact sound.room scope

/-- A transaction that inserts an active job into a scope holds the lock of the scope. -/
theorem Sound.held (sound : t.Sound jobs) {scope : String} (h : 0 < occupants scope t.rows) :
    lockKeys scope ∈ t.locks := by
  obtain ⟨row, mem, occupies⟩ := List.countP_pos_iff.mp h
  unfold JobRow.occupies at occupies
  rw [Bool.and_eq_true, beq_iff_eq] at occupies
  rw [← occupies.1]
  exact sound.locked row mem

end Transaction

namespace Database

variable {db db' : Database} {party : Nat} {t : Transaction}

@[simp] theorem setSession_same (db : Database) (party : Nat) (session : Option Transaction) :
    (db.setSession party session).sessions party = session := Function.update_self ..

theorem setSession_of_ne {other : Nat} (ne : other ≠ party) (session : Option Transaction) :
    (db.setSession party session).sessions other = db.sessions other := Function.update_of_ne ne ..

/-- A session with a sound transaction whose locks no other transaction holds. -/
theorem Sound.setSession (sound : db.Sound) {session : Option Transaction}
    (transaction : ∀ t, session = some t → t.Sound db.jobs)
    (free : ∀ t, session = some t → ∀ key ∈ t.locks, ∀ other u, other ≠ party → db.sessions other = some u →
      key ∉ u.locks) : (db.setSession party session).Sound where
  trimmed := sound.trimmed
  single := sound.single
  exclusive := by
    intro i j t u key hi hj ht hu
    by_cases ei : i = party
    · by_cases ej : j = party
      · rw [ei, ej]
      · rw [setSession_of_ne ej] at hj
        rw [ei, setSession_same] at hi
        exact absurd hu (free t hi key ht j u ej hj)
    · rw [setSession_of_ne ei] at hi
      by_cases ej : j = party
      · rw [ej, setSession_same] at hj
        exact absurd ht (free u hj key hu i t ei hi)
      · rw [setSession_of_ne ej] at hj
        exact sound.exclusive hi hj ht hu
  transactions := by
    intro i t h
    by_cases e : i = party
    · rw [e, setSession_same] at h
      exact transaction t h
    · rw [setSession_of_ne e] at h
      exact sound.transactions h

theorem Sound.closed (sound : db.Sound) (party : Nat) : (db.setSession party none).Sound :=
  sound.setSession (fun _ h => nomatch h) fun _ h => nomatch h

/-- The locks of a transaction are not held by others. -/
theorem Sound.unheld (sound : db.Sound) (session : db.sessions party = some t) {key : Int × Int}
    (held : key ∈ t.locks) {other : Nat} {u : Transaction} (ne : other ≠ party)
    (h : db.sessions other = some u) : key ∉ u.locks :=
  fun hu => ne (sound.exclusive h session hu held)

/-- The committed jobs can change as long as no scope gets too full. -/
theorem Sound.setJobs (sound : db.Sound) {jobs : List JobRow}
    (trimmed : ∀ row ∈ jobs, Text.trim row.scope = row.scope) (single : ∀ scope, occupants scope jobs ≤ 1)
    (room : ∀ i t, db.sessions i = some t → ∀ scope, occupants scope jobs + occupants scope t.rows ≤ 1) :
    ({ db with jobs := jobs } : Database).Sound where
  trimmed := trimmed
  single := single
  exclusive := sound.exclusive
  transactions h := { sound.transactions h with room := room _ _ h }

/-- **A commit keeps the database sound.** -/
theorem Sound.commit (sound : db.Sound) (session : db.sessions party = some t) : (db.commit party t).Sound := by
  refine (sound.closed party).setJobs ?_ ?_ ?_
  · intro row h
    obtain ⟨other, mem, e⟩ := Transaction.exists_of_mem_view h
    rw [← e]
    exact mem.elim (sound.trimmed other) ((sound.transactions session).trimmed other)
  · intro scope
    rw [Transaction.occupants_view]
    exact (sound.transactions session).room scope
  · intro i u h scope
    by_cases e : i = party
    · rw [e, setSession_same] at h
      exact nomatch h
    · rw [setSession_of_ne e] at h
      rw [Transaction.occupants_view]
      have mine := (sound.transactions session).room scope
      have others := (sound.transactions h).room scope
      -- Two transactions that insert into one scope would both hold its lock.
      by_cases both : 0 < occupants scope t.rows ∧ 0 < occupants scope u.rows
      · have held := (sound.transactions session).held both.1
        exact absurd ((sound.transactions h).held both.2) (sound.unheld session held e h)
      · omega

/-- **A worker keeps the database sound.** -/
theorem Sound.work (sound : db.Sound) (job : Int) (status : String) : (db.work job status).Sound := by
  have fewer (scope : String) : occupants scope (db.work job status).jobs ≤ occupants scope db.jobs := by
    unfold occupants Database.work
    rw [List.countP_map]
    refine List.countP_mono_left fun row _ h => ?_
    unfold JobRow.occupies at h ⊢
    simp only [Function.comp] at h
    split at h
    · rename_i changed
      rw [Bool.and_eq_true] at h ⊢
      exact ⟨h.1, changed.2⟩
    · exact h
  refine sound.setJobs ?_ (fun scope => (fewer scope).trans (sound.single scope)) fun i t h scope =>
    (Nat.add_le_add_right (fewer scope) _).trans ((sound.transactions h).room scope)
  intro row h
  obtain ⟨other, mem, rfl⟩ := List.mem_map.mp h
  split
  · exact sound.trimmed other mem
  · exact sound.trimmed other mem

/-- A party holds some locks, if it has an open transaction. -/
def Holds (db : Database) (party : Nat) (locks : List (Int × Int)) : Prop :=
  ∀ t, db.sessions party = some t → ∀ key ∈ locks, key ∈ t.locks

/-- **A statement in order** keeps a transaction sound, and takes the locks it says it takes. -/
theorem Sound.executes {statement : Statement} {table : Table} {t' : Transaction} {locks : List (Int × Int)}
    (sound : db.Sound) (session : db.sessions party = some t) (executes : db.Executes party t statement table t')
    (holds : ∀ key ∈ locks, key ∈ t.locks) (inOrder : (Operation.execute statement).InOrder locks) :
    (db.setSession party (some t')).Sound ∧
      ∀ key ∈ Exchange.locksAfter locks ⟨.execute statement, .ok table⟩, key ∈ t'.locks := by
  have transaction := sound.transactions session
  -- Unless a lock is taken, the locks stay as they are.
  have keeps (t' : Transaction) (same : t'.locks = t.locks) (h : t'.Sound db.jobs) :
      (db.setSession party (some t')).Sound := by
    refine sound.setSession (fun _ e => Option.some.inj e ▸ h) fun u e key hk other v ne hv => ?_
    rw [← Option.some.inj e, same] at hk
    exact sound.unheld session hk ne hv
  cases executes with
  | @locked key1 key2 free =>
    constructor
    · refine sound.setSession (fun _ e => Option.some.inj e ▸ transaction.lock _) fun u e key hk other v ne hv => ?_
      rw [← Option.some.inj e] at hk
      obtain rfl | hk := List.mem_cons.mp hk
      · exact free other v ne hv
      · exact sound.unheld session hk ne hv
    · intro key hk
      obtain rfl | hk := List.mem_cons.mp hk
      · exact List.mem_cons_self
      · exact List.mem_cons_of_mem _ (holds key hk)
  | refused _ _ _ => exact ⟨keeps t rfl transaction, holds⟩
  | inserted vacant => exact ⟨keeps _ rfl (transaction.insert (holds _ inOrder.1) inOrder.2 vacant), holds⟩
  | occupied _ _ => exact ⟨keeps t rfl transaction, holds⟩
  | updated _ _ => exact ⟨keeps _ rfl (transaction.setConfig _ _), holds⟩
  | missing _ => exact ⟨keeps t rfl transaction, holds⟩

/-- **An exchange in order keeps the database sound.** -/
theorem Sound.answers {exchange : Exchange} {locks : List (Int × Int)} (sound : db.Sound)
    (answers : db.Answers party exchange db') (holds : db.Holds party locks)
    (inOrder : exchange.operation.InOrder locks) :
    db'.Sound ∧ db'.Holds party (exchange.locksAfter locks) := by
  cases answers with
  | started _ =>
    refine ⟨sound.setSession (fun _ e => Option.some.inj e ▸ .empty sound.single) fun u e key hk => ?_,
      fun _ _ _ h => absurd h List.not_mem_nil⟩
    rw [← Option.some.inj e] at hk
    exact absurd hk List.not_mem_nil
  | unstarted => exact ⟨sound, fun _ _ _ h => absurd h List.not_mem_nil⟩
  | executed session executes =>
    obtain ⟨sound', holds'⟩ := sound.executes session executes (holds _ session) inOrder
    refine ⟨sound', fun u h => ?_⟩
    rw [setSession_same] at h
    rw [← Option.some.inj h]
    exact holds'
  | @failed statement failure =>
    have same : Exchange.locksAfter locks ⟨.execute statement, .error failure⟩ = locks := by
      cases statement <;> rfl
    rw [same]
    exact ⟨sound, holds⟩
  | committed session => exact ⟨sound.commit session, fun _ _ _ h => absurd h List.not_mem_nil⟩
  | dropped _ => exact ⟨sound.closed party, fun _ _ _ h => absurd h List.not_mem_nil⟩

/-- An exchange of a party leaves the sessions of the others alone. -/
theorem Answers.sessions_of_ne {exchange : Exchange} (answers : db.Answers party exchange db') {other : Nat}
    (ne : other ≠ party) : db'.sessions other = db.sessions other := by
  cases answers with
  | started _ => exact setSession_of_ne ne _
  | unstarted => rfl
  | executed _ _ => exact setSession_of_ne ne _
  | failed => rfl
  | committed _ => exact setSession_of_ne ne _
  | dropped _ => exact setSession_of_ne ne _

end Database

/-! ## Sound systems -/

/-- **A sound system**: a sound database, and calls that go on in order. -/
structure System.Sound (s : System) : Prop where
  /-- The database is sound. -/
  database : s.database.Sound
  /-- What is left of a call is orderly. -/
  orderly : ∀ party, ∃ locks, s.database.Holds party locks ∧ (s.left party).Orderly locks

/-- **What happens next keeps the system sound.** -/
theorem System.Sound.next {s s' : System} {event : Event} (sound : s.Sound) (next : s.Next event s') : s'.Sound := by
  cases next with
  | @did party operation outcome next db asks answers =>
    obtain ⟨locks, holds, orderly⟩ := sound.orderly party
    rw [asks] at orderly
    obtain ⟨database, holds'⟩ := sound.database.answers answers holds orderly.1
    refine ⟨database, fun other => ?_⟩
    by_cases e : other = party
    · subst e
      refine ⟨_, holds', ?_⟩
      show (Function.update s.left other (next outcome) other).Orderly _
      rw [Function.update_self]
      exact orderly.2 outcome
    · obtain ⟨locks, holds, orderly⟩ := sound.orderly other
      refine ⟨locks, ?_, ?_⟩
      · unfold Database.Holds
        rw [answers.sessions_of_ne e]
        exact holds
      · show (Function.update s.left party (next outcome) other).Orderly locks
        rw [Function.update_of_ne e]
        exact orderly
  | worked job status => exact ⟨sound.database.work job status, sound.orderly⟩
  | lost party =>
    refine ⟨sound.database.closed party, fun other => ?_⟩
    obtain ⟨locks, holds, orderly⟩ := sound.orderly other
    refine ⟨locks, fun t session => ?_, orderly⟩
    by_cases e : other = party
    · rw [e, Database.setSession_same] at session
      exact nomatch session
    · rw [Database.setSession_of_ne e] at session
      exact holds t session

/-- **A table that calls on the queue can start from**: its scopes are trimmed, and none has two active jobs. -/
def Tidy (jobs : List JobRow) : Prop :=
  (∀ row ∈ jobs, Text.trim row.scope = row.scope) ∧ ∀ scope, occupants scope jobs ≤ 1

/-- **Every run keeps the system sound.** -/
theorem System.Run.sound {jobs : List JobRow} {calls : Nat → QueueCall} {events : List Event} {s : System}
    (tidy : Tidy jobs) (run : Run jobs calls events s) : s.Sound := by
  induction run with
  | start =>
    refine ⟨⟨tidy.1, tidy.2, ?_, ?_⟩, fun party => ⟨[], ?_, (calls party).orderly⟩⟩
    · intro i j t u key h
      exact nomatch h
    · intro i t h
      exact nomatch h
    · intro t h
      exact nomatch h
  | next _ next ih => exact ih.next next

/-- Trimmed scopes are compared as they are. -/
theorem Database.Sound.length_activeJobs {db : Database} (sound : db.Sound) (scope : String) :
    (db.activeJobs scope).length ≤ 1 := by
  have same : db.activeJobs scope = db.jobs.filter (JobRow.occupies (Text.trim scope)) := by
    refine List.filter_congr fun row h => ?_
    rw [sound.trimmed row h]
    rfl
  rw [same, ← List.countP_eq_length_filter]
  exact sound.single (Text.trim scope)

/-! ## Calls that are declined -/

/-- **A call is told that its scope is taken**: its lock is held, or it has an active job. -/
def Exchange.IsRefusal : Exchange → Prop
  | ⟨.execute (.tryLock _ _), outcome⟩ => outcome = .ok (lockTable false)
  | ⟨.execute (.insertJob _ _ _), outcome⟩ => outcome = .ok (idTable none)
  | _ => False

/-- **A call inserts a job.** -/
def Exchange.Inserts : Exchange → Prop
  | ⟨.execute (.insertJob _ _ _), outcome⟩ => ∃ job, outcome = .ok (idTable (some job))
  | _ => False

/-- **A call is declined**: it inserts nothing, and it answers no number as soon as its transaction is committed. -/
structure Declined (exchanges : List Exchange) (rest : Dialogue (Except Failure (Option Int))) : Prop where
  /-- It inserts nothing. -/
  inserts : ∀ exchange ∈ exchanges, ¬ exchange.Inserts
  /-- It has its commit ahead, or is over, and then has answered no number unless the commit failed. -/
  answers : rest = conclude "failed to enqueue job" (.ok none) ∨ rest = .done (.ok none) ∨
    ∃ failure, ⟨.finish .commit, .error failure⟩ ∈ exchanges

section Declined

variable {scope : String} {config : JobConfig} {exchange : Exchange} {exchanges : List Exchange}
  {rest : Dialogue (Except Failure (Option Int))}

/-- An exchange of a dialogue that asks for an operation is the first one, or comes later. -/
theorem exists_of_mem_of_leads {operation : Operation}
    {next : Except Failure operation.Answer → Dialogue (Except Failure (Option Int))}
    (leads : (Dialogue.ask operation next).Leads exchanges rest) (mem : exchange ∈ exchanges) :
    ∃ outcome more, exchanges = ⟨operation, outcome⟩ :: more ∧ (next outcome).Leads more rest ∧
      (exchange = ⟨operation, outcome⟩ ∨ exchange ∈ more) := by
  obtain ⟨rfl, -⟩ | ⟨outcome, more, rfl, later⟩ := Dialogue.leads_ask.mp leads
  · exact absurd mem List.not_mem_nil
  · exact ⟨outcome, more, rfl, later, List.mem_cons.mp mem⟩

theorem not_mem_of_leads_done {value : Except Failure (Option Int)}
    (leads : (Dialogue.done value).Leads exchanges rest) : exchange ∉ exchanges := by
  rw [(Dialogue.leads_done.mp leads).1]
  exact List.not_mem_nil

/-- The only exchange at the end of a transaction is about the session. -/
theorem exists_finish_of_conclude {message : String} {result : Except Failure (Option Int)}
    (leads : (conclude message result).Leads exchanges rest) (mem : exchange ∈ exchanges) :
    ∃ ending outcome, exchange = ⟨.finish ending, outcome⟩ := by
  cases result with
  | ok answer =>
    obtain ⟨outcome, more, rfl, later, here⟩ := exists_of_mem_of_leads leads mem
    refine ⟨.commit, outcome, here.resolve_right ?_⟩
    cases outcome <;> exact not_mem_of_leads_done later
  | error failure =>
    obtain ⟨outcome, more, rfl, later, here⟩ := exists_of_mem_of_leads leads mem
    refine ⟨.rollback, outcome, here.resolve_right ?_⟩
    cases outcome <;> exact not_mem_of_leads_done later

theorem not_isRefusal_of_conclude {message : String} {result : Except Failure (Option Int)}
    (leads : (conclude message result).Leads exchanges rest) (mem : exchange ∈ exchanges) :
    ¬ exchange.IsRefusal := by
  obtain ⟨ending, outcome, rfl⟩ := exists_finish_of_conclude leads mem
  exact id

/-- The end of a transaction whose call has no number to answer. -/
theorem declined_of_conclude (leads : (conclude "failed to enqueue job" (.ok none)).Leads exchanges rest) :
    Declined exchanges rest := by
  refine ⟨fun exchange mem => ?_, ?_⟩
  · obtain ⟨ending, outcome, rfl⟩ := exists_finish_of_conclude leads mem
    exact id
  · obtain ⟨rfl, rfl⟩ | ⟨outcome, more, rfl, later⟩ := Dialogue.leads_ask.mp leads
    · exact .inl rfl
    · cases outcome with
      | ok committed => exact .inr (.inl (Dialogue.leads_done.mp later).2)
      | error failure => exact .inr (.inr ⟨failure, List.mem_cons_self⟩)

/-- A declined call may have had other exchanges before, in which it has inserted nothing. -/
theorem Declined.cons {first : Exchange} (declined : Declined exchanges rest) (h : ¬ first.Inserts) :
    Declined (first :: exchanges) rest where
  inserts other mem := by
    obtain rfl | mem := List.mem_cons.mp mem
    · exact h
    · exact declined.inserts other mem
  answers := declined.answers.imp_right (.imp_right fun ⟨failure, mem⟩ => ⟨failure, List.mem_cons_of_mem _ mem⟩)

/-- An insertion that is refused is the last thing before the end. -/
theorem declined_of_insertDialogue
    (leads : ((insertDialogue scope config).andThen (conclude "failed to enqueue job")).Leads exchanges rest)
    (mem : exchange ∈ exchanges) (refusal : exchange.IsRefusal) : Declined exchanges rest := by
  unfold insertDialogue at leads
  generalize config.text? = written at leads
  cases written with
  | none => exact absurd refusal (not_isRefusal_of_conclude leads mem)
  | some text =>
    obtain ⟨outcome, more, rfl, later, rfl | further⟩ := exists_of_mem_of_leads leads mem
    · obtain rfl : outcome = .ok (idTable none) := refusal
      refine (declined_of_conclude later).cons fun ⟨job, h⟩ => ?_
      exact nomatch congrArg Table.rows (Except.ok.inj h)
    · obtain failure | table := outcome
      · exact absurd refusal (not_isRefusal_of_conclude later further)
      · exact absurd refusal (not_isRefusal_of_conclude later further)

/-- A lock that is not taken is the last thing before the end. -/
theorem declined_of_lockDialogue {keys : Int × Int}
    (leads : ((lockDialogue keys (insertDialogue scope config)).andThen (conclude "failed to enqueue job")).Leads
      exchanges rest) (mem : exchange ∈ exchanges) (refusal : exchange.IsRefusal) : Declined exchanges rest := by
  obtain ⟨outcome, more, rfl, later, here⟩ := exists_of_mem_of_leads leads mem
  refine Declined.cons ?_ id
  obtain failure | table := outcome
  · obtain rfl | further := here
    · exact nomatch refusal
    · exact absurd refusal (not_isRefusal_of_conclude later further)
  · simp only at later
    obtain rfl | further := here
    · obtain rfl : table = lockTable false := Except.ok.inj refusal
      rw [lockOutcome_lockTable] at later
      exact declined_of_conclude later
    · generalize lockOutcome table = told at later
      match told, later with
      | .error failure, later => exact absurd refusal (not_isRefusal_of_conclude later further)
      | .ok false, later => exact declined_of_conclude later
      | .ok true, later => exact declined_of_insertDialogue later further refusal

/-- **A call that is told that its scope is taken is declined.** -/
theorem declined_of_refusal (leads : (QueueCall.enqueue scope config).dialogue.Leads exchanges rest)
    (mem : exchange ∈ exchanges) (refusal : exchange.IsRefusal) : Declined exchanges rest := by
  rw [dialogue_enqueue] at leads
  by_cases blank : (Text.trim scope).isEmpty = true
  · rw [if_pos blank] at leads
    exact absurd mem (not_mem_of_leads_done leads)
  · rw [if_neg blank] at leads
    obtain ⟨outcome, more, rfl, later, rfl | further⟩ := exists_of_mem_of_leads leads mem
    · exact absurd refusal id
    · refine Declined.cons ?_ id
      obtain failure | opened := outcome
      · exact absurd further (not_mem_of_leads_done later)
      · exact declined_of_lockDialogue later further refusal

end Declined

theorem exchangesOf_concat_did (party : Nat) (events : List Event) (exchange : Exchange) :
    exchangesOf party (events ++ [.did party exchange]) = exchangesOf party events ++ [exchange] := by
  unfold exchangesOf
  rw [List.filterMap_append]
  exact congrArg (_ ++ ·) (List.filterMap_cons_some (if_pos rfl))

theorem exchangesOf_concat_of_none {party : Nat} {event : Event} (none : event.exchangeOf? party = none)
    (events : List Event) : exchangesOf party (events ++ [event]) = exchangesOf party events := by
  unfold exchangesOf
  rw [List.filterMap_append, List.filterMap_cons_none none, List.filterMap_nil, List.append_nil]

theorem mem_exchangesOf {party : Nat} {events : List Event} {exchange : Exchange} :
    exchange ∈ exchangesOf party events ↔ Event.did party exchange ∈ events := by
  unfold exchangesOf
  rw [List.mem_filterMap]
  constructor
  · rintro ⟨event, mem, e⟩
    obtain ⟨other, exchange'⟩ | _ | _ := event
    · obtain ⟨rfl, rfl⟩ : other = party ∧ exchange' = exchange := by simpa [Event.exchangeOf?] using e
      exact mem
    · exact nomatch e
    · exact nomatch e
  · intro mem
    exact ⟨_, mem, if_pos rfl⟩

/-- **Every call follows its dialogue.** -/
theorem System.Run.leads {jobs : List JobRow} {calls : Nat → QueueCall} {events : List Event} {s : System}
    (run : Run jobs calls events s) (party : Nat) :
    (calls party).dialogue.Leads (exchangesOf party events) (s.left party) := by
  induction run with
  | start => exact .here _
  | @next events event s s' before next ih =>
    cases next with
    | @did other operation outcome next db asks answers =>
      by_cases e : other = party
      · subst e
        rw [asks] at ih
        rw [exchangesOf_concat_did]
        show (calls other).dialogue.Leads _ (Function.update s.left other (next outcome) other)
        rw [Function.update_self]
        exact ih.append (.ask (.here _))
      · rw [exchangesOf_concat_of_none (show Event.exchangeOf? party (.did other _) = none from if_neg e)]
        show (calls party).dialogue.Leads _ (Function.update s.left other (next outcome) party)
        rw [Function.update_of_ne (Ne.symm e)]
        exact ih
    | worked job status =>
      rw [exchangesOf_concat_of_none rfl]
      exact ih
    | lost other =>
      rw [exchangesOf_concat_of_none rfl]
      exact ih

/-! ## Exclusion -/

/-- **At most one active job in a scope**, however calls on the queue, workers and the database take turns. Calls
whose scopes differ in the blanks around them are the same call: they try the same lock, and insert into the same
scope. A call that is told that its scope is taken inserts nothing and answers no number. -/
theorem System.Run.one_active_job {jobs : List JobRow} {calls : Nat → QueueCall} {events : List Event} {s : System}
    (tidy : Tidy jobs) (run : Run jobs calls events s) :
    (∀ scope, (s.database.activeJobs scope).length ≤ 1) ∧
      (∀ scope before after config, Text.isBlankText before = true → Text.isBlankText after = true →
        (QueueCall.enqueue (before ++ scope ++ after) config).dialogue = (QueueCall.enqueue scope config).dialogue) ∧
      ∀ party scope config exchange, calls party = .enqueue scope config → .did party exchange ∈ events →
        exchange.IsRefusal → Declined (exchangesOf party events) (s.left party) := by
  refine ⟨(run.sound tidy).database.length_activeJobs, ?_, ?_⟩
  · intro scope before after config blank_before blank_after
    rw [dialogue_enqueue, dialogue_enqueue, Text.trim_append_append scope blank_before blank_after]
  · intro party scope config exchange call mem refusal
    have leads := run.leads party
    rw [call] at leads
    exact declined_of_refusal leads (mem_exchangesOf.mpr mem) refusal

/-! ## Two calls on one scope -/

namespace TwoCalls

/-- A configuration. -/
def config : JobConfig := .sync default

/-- Two calls whose scopes differ in the blanks around them. -/
def calls (party : Nat) : QueueCall := .enqueue (if party = 0 then "c" else " c\n") config

/-- The job that one of them makes. -/
def row (text : String) : JobRow := ⟨7, .sync, "c", "pending", text⟩

/-- What happens: both open a session, the first takes the lock and inserts its job, and both commit. -/
def turns (keys : Int × Int) (text : String) : List Event :=
  [.did 0 ⟨.start .writing, .ok ()⟩,
   .did 1 ⟨.start .writing, .ok ()⟩,
   .did 0 ⟨.execute (.tryLock keys.1 keys.2), .ok (lockTable true)⟩,
   .did 1 ⟨.execute (.tryLock keys.1 keys.2), .ok (lockTable false)⟩,
   .did 0 ⟨.execute (.insertJob .sync "c" text), .ok (idTable (some 7))⟩,
   .did 1 ⟨.finish .commit, .ok ()⟩,
   .did 0 ⟨.finish .commit, .ok ()⟩]

theorem text_config : config.text? = some config.toJson.write := by
  unfold JobConfig.text?
  exact if_pos (by decide)

/-- What both ask inside their transactions. -/
def body (keys : Int × Int) (text : String) : Dialogue (Except Failure (Option Int)) :=
  lockDialogue keys (.executing (.insertJob .sync "c" text) fun table => .done (insertOutcome table))

theorem dialogue_calls (party : Nat) :
    (calls party).dialogue = transaction "failed to enqueue job" (body (lockKeys "c") config.toJson.write) := by
  have trimmed : Text.trim (if party = 0 then "c" else " c\n") = "c" := by split <;> decide
  rw [calls, dialogue_enqueue, trimmed, if_neg (by decide), enqueueDialogue, body]
  unfold insertDialogue
  rw [text_config]
  rfl

/-- The database with a session for each of the two. -/
def database (jobs : List JobRow) (first second : Option Transaction) : Database :=
  ⟨jobs, fun
    | 0 => first
    | 1 => second
    | _ => none⟩

/-- The system with what is left of each of the two, and of the others. -/
def system (others : Nat → Dialogue (Except Failure (Option Int))) (db : Database)
    (first second : Dialogue (Except Failure (Option Int))) : System :=
  ⟨db, fun
    | 0 => first
    | 1 => second
    | party => others party⟩

section Run

variable {jobs : List JobRow} {t u : Option Transaction} {db db' : Database} {events : List Event}
  {operation : Operation} {outcome : Except Failure operation.Answer}
  {next : Except Failure operation.Answer → Dialogue (Except Failure (Option Int))}
  {other : Dialogue (Except Failure (Option Int))} {others : Nat → Dialogue (Except Failure (Option Int))}

theorem setSession_zero (session : Option Transaction) :
    (database jobs t u).setSession 0 session = database jobs session u := by
  refine congrArg (Database.mk jobs) ?_
  funext party
  match party with
  | 0 | 1 => rfl
  | n + 2 => exact Function.update_of_ne (Nat.succ_ne_zero _) ..

theorem setSession_one (session : Option Transaction) :
    (database jobs t u).setSession 1 session = database jobs t session := by
  refine congrArg (Database.mk jobs) ?_
  funext party
  match party with
  | 0 | 1 => rfl
  | n + 2 => exact Function.update_of_ne (by omega) ..

theorem run_first (run : System.Run [] calls events (system others db (.ask operation next) other))
    (answers : db.Answers 0 ⟨operation, outcome⟩ db') :
    System.Run [] calls (events ++ [.did 0 ⟨operation, outcome⟩]) (system others db' (next outcome) other) := by
  have after := run.next (.did rfl answers)
  refine cast (congrArg (fun left => System.Run [] calls _ ⟨db', left⟩) ?_) after
  funext party
  match party with
  | 0 | 1 => rfl
  | n + 2 => exact Function.update_of_ne (Nat.succ_ne_zero _) ..

theorem run_second (run : System.Run [] calls events (system others db other (.ask operation next)))
    (answers : db.Answers 1 ⟨operation, outcome⟩ db') :
    System.Run [] calls (events ++ [.did 1 ⟨operation, outcome⟩]) (system others db' other (next outcome)) := by
  have after := run.next (.did rfl answers)
  refine cast (congrArg (fun left => System.Run [] calls _ ⟨db', left⟩) ?_) after
  funext party
  match party with
  | 0 | 1 => rfl
  | n + 2 => exact Function.update_of_ne (by omega) ..

/-- A session of the first is opened or changed. -/
theorem answers_first {exchange : Exchange} {session : Option Transaction}
    (answers : (database jobs t u).Answers 0 exchange ((database jobs t u).setSession 0 session)) :
    (database jobs t u).Answers 0 exchange (database jobs session u) :=
  setSession_zero session ▸ answers

theorem answers_second {exchange : Exchange} {session : Option Transaction}
    (answers : (database jobs t u).Answers 1 exchange ((database jobs t u).setSession 1 session)) :
    (database jobs t u).Answers 1 exchange (database jobs t session) :=
  setSession_one session ▸ answers

/-- The transaction of the first is committed. -/
theorem committed_first {t : Transaction} :
    (database jobs (some t) u).Answers 0 ⟨.finish .commit, .ok ()⟩ (database (t.view jobs) none u) := by
  have same : (database jobs (some t) u).commit 0 t = database (t.view jobs) none u := by
    unfold Database.commit
    rw [setSession_zero]
    rfl
  rw [← same]
  exact .committed rfl

theorem committed_second {u : Transaction} :
    (database jobs t (some u)).Answers 1 ⟨.finish .commit, .ok ()⟩ (database (u.view jobs) t none) := by
  have same : (database jobs t (some u)).commit 1 u = database (u.view jobs) t none := by
    unfold Database.commit
    rw [setSession_one]
    rfl
  rw [← same]
  exact .committed rfl

end Run

/-- The two calls take turns, whatever the keys and the text are. -/
theorem run_turns {keys : Int × Int} {text message : String} {others : Nat → Dialogue (Except Failure (Option Int))}
    (before : System.Run [] calls [] (system others (database [] none none) (transaction message (body keys text))
      (transaction message (body keys text)))) :
    System.Run [] calls (turns keys text)
      (system others (database [row text] none none) (.done (.ok (some 7))) (.done (.ok none))) := by
  have free (other : Nat) (v : Transaction) (ne : other ≠ 0)
      (session : (database [] (some ⟨[], []⟩) (some ⟨[], []⟩)).sessions other = some v) : keys ∉ v.locks := by
    match other, session with
    | 1, session =>
      rw [← Option.some.inj session]
      exact List.not_mem_nil
  have r := run_first before (answers_first (.started rfl))
  have r := run_second r (answers_second (.started rfl))
  have r := run_first r (answers_first (.executed rfl (.locked free)))
  have r := run_second r (answers_second (.executed rfl (.refused Nat.zero_ne_one rfl List.mem_cons_self)))
  have inserted : (database [] (some ⟨[keys], []⟩) (some ⟨[], []⟩)).Executes 0 ⟨[keys], []⟩
      (.insertJob .sync "c" text) (idTable (some 7)) ⟨[keys], [.insert (row text)]⟩ :=
    .inserted fun _ mem => absurd mem List.not_mem_nil
  have r := run_first r (answers_first (.executed rfl inserted))
  exact run_first (run_second r committed_second) committed_first

theorem tidy_nil : Tidy [] := ⟨fun _ mem => absurd mem List.not_mem_nil, fun _ => Nat.zero_le 1⟩

/-- Before anything happens, all calls have the same dialogue ahead. -/
theorem run_nil {dialogue : Dialogue (Except Failure (Option Int))}
    (same : ∀ party, (calls party).dialogue = dialogue) :
    System.Run [] calls [] (system (fun _ => dialogue) (database [] none none) dialogue dialogue) := by
  have closed : database [] none none = ⟨[], fun _ => none⟩ := by
    refine congrArg (Database.mk []) ?_
    funext party
    match party with
    | 0 | 1 | n + 2 => rfl
  have ahead : system (fun _ => dialogue) (database [] none none) dialogue dialogue =
      ⟨⟨[], fun _ => none⟩, fun party => (calls party).dialogue⟩ := by
    rw [closed, funext same]
    refine congrArg (System.mk _) ?_
    funext party
    match party with
    | 0 | 1 | n + 2 => rfl
  rw [ahead]
  exact .start

/-- **The first of two calls on one scope makes its job, and the second is declined.** -/
theorem one_active_job_turns :
    ∃ s, System.Run [] calls (turns (lockKeys "c") config.toJson.write) s ∧
      s.left 0 = .done (.ok (some 7)) ∧ s.left 1 = .done (.ok none) ∧
      (s.database.activeJobs "c").length = 1 ∧
      Declined (exchangesOf 1 (turns (lockKeys "c") config.toJson.write)) (s.left 1) := by
  have run := run_turns (run_nil dialogue_calls)
  generalize config.toJson.write = text at run ⊢
  generalize lockKeys "c" = keys at run ⊢
  obtain ⟨most, -, declined⟩ := run.one_active_job tidy_nil
  refine ⟨_, run, rfl, rfl, ?_, ?_⟩
  · refine Nat.le_antisymm (most "c") (List.length_pos_of_mem (a := row text) ?_)
    refine List.mem_filter.mpr ⟨List.mem_cons_self, ?_⟩
    rw [row, beq_self_eq_true]
    rfl
  · have told : .did 1 ⟨.execute (.tryLock keys.1 keys.2), .ok (lockTable false)⟩ ∈ turns keys text := by
      simp [turns]
    exact declined 1 _ _ _ rfl told rfl

end TwoCalls

end Sql

end ConnectionJobs
