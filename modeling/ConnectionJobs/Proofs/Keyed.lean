import ConnectionJobs.Keyed
import Mathlib.Data.List.Basic
import Mathlib.Data.List.Induction

/-!
# Keyed lists, settled and looked up

In a keyed list the first value of a key is found. Where a document writes a key several times, the last value counts,
and settling the list brings the two together: settled keys do not repeat, and what is found under a settled key is what
was written there last. Settling drops values, and adds none.
-/

namespace ConnectionJobs.Keyed

variable {κ α : Type} [DecidableEq κ]

/-- **The value under a key, the last one.** -/
def last? (key : κ) (entries : Keyed κ α) : Option α := find? key entries.reverse

theorem find?_of_not_mem {key : κ} {entries : Keyed κ α} (absent : key ∉ keys entries) :
    find? key entries = none := by
  induction entries with
  | nil => rfl
  | cons entry rest ih =>
    obtain ⟨other, more⟩ := List.ne_and_not_mem_of_not_mem_cons absent
    rw [find?, if_neg (Ne.symm other), ih more]

/-- What is found is the value of an entry. -/
theorem exists_mem_of_find? {key : κ} {entries : Keyed κ α} {a : α} (found : find? key entries = some a) :
    ∃ entry ∈ entries, entry.2 = a := by
  induction entries with
  | nil => exact nomatch found
  | cons entry rest ih =>
    rw [find?] at found
    split_ifs at found
    · exact ⟨entry, List.mem_cons_self, Option.some.inj found⟩
    · obtain ⟨other, inside, same⟩ := ih found
      exact ⟨other, List.mem_cons_of_mem _ inside, same⟩

theorem mem_keys_of_find? {key : κ} {entries : Keyed κ α} {a : α} (found : find? key entries = some a) :
    key ∈ keys entries := by
  by_contra absent
  rw [find?_of_not_mem absent] at found
  exact nomatch found

/-- **The value of an entry is found under its key** when no key repeats. -/
theorem find?_of_mem {key : κ} {entries : Keyed κ α} {a : α} (distinct : (keys entries).Nodup)
    (inside : (key, a) ∈ entries) : find? key entries = some a := by
  induction entries with
  | nil => exact absurd inside List.not_mem_nil
  | cons entry rest ih =>
    obtain ⟨fresh, distinct⟩ := List.nodup_cons.mp distinct
    rw [find?]
    obtain rfl | later := List.mem_cons.mp inside
    · exact if_pos rfl
    · rw [if_neg fun same => fresh (List.mem_map.mpr ⟨_, later, same.symm⟩), ih distinct later]

theorem set_of_not_mem {key : κ} {entries : Keyed κ α} (h : key ∉ keys entries) (value : α) :
    set key value entries = entries ++ [(key, value)] := by
  induction entries with
  | nil => rfl
  | cons entry rest ih =>
    obtain ⟨other, there⟩ := List.ne_and_not_mem_of_not_mem_cons h
    rw [set, if_neg (Ne.symm other), ih there]
    rfl

theorem settle_concat (entries : Keyed κ α) (entry : κ × α) :
    settle (entries ++ [entry]) = set entry.1 entry.2 (settle entries) := by
  unfold settle
  rw [List.foldl_append]
  rfl

/-- **Keys that do not repeat are settled.** -/
theorem settle_of_nodup {entries : Keyed κ α} (h : (keys entries).Nodup) : settle entries = entries := by
  induction entries using List.reverseRecOn with
  | nil => rfl
  | append_singleton entries entry ih =>
    unfold keys at h
    rw [List.map_append] at h
    obtain ⟨distinct, -, fresh⟩ := List.nodup_append.mp h
    have absent : entry.1 ∉ keys entries := fun inside => fresh _ inside _ List.mem_cons_self rfl
    rw [settle_concat, ih distinct, set_of_not_mem absent]

theorem keys_set (key : κ) (value : α) (entries : Keyed κ α) :
    keys (set key value entries) = if key ∈ keys entries then keys entries else keys entries ++ [key] := by
  induction entries with
  | nil => rfl
  | cons entry rest ih =>
    by_cases same : entry.1 = key
    · have here : key ∈ keys (entry :: rest) := List.mem_cons.mpr (.inl same.symm)
      rw [set, if_pos same, if_pos here]
      rfl
    · have there : key ∈ keys (entry :: rest) ↔ key ∈ keys rest :=
        List.mem_cons.trans (or_iff_right (Ne.symm same))
      rw [set, if_neg same]
      simp only [there]
      show entry.1 :: keys (set key value rest) = _
      rw [ih]
      split_ifs <;> rfl

/-- Setting a value repeats no key. -/
theorem nodup_set {entries : Keyed κ α} (distinct : (keys entries).Nodup) (key : κ) (value : α) :
    (keys (set key value entries)).Nodup := by
  rw [keys_set]
  split_ifs with present
  · exact distinct
  · exact List.nodup_append.mpr ⟨distinct, List.pairwise_singleton _ _, fun held inside other last same => by
      rw [same, List.mem_singleton.mp last] at inside
      exact present inside⟩

/-- **Settled keys do not repeat.** -/
theorem nodup_settle (entries : Keyed κ α) : (keys (settle entries)).Nodup := by
  induction entries using List.reverseRecOn with
  | nil => exact List.nodup_nil
  | append_singleton entries entry ih =>
    rw [settle_concat]
    exact nodup_set ih entry.1 entry.2

/-- Settling brings no new key. -/
theorem mem_keys_of_settle {key : κ} {entries : Keyed κ α} (h : key ∈ keys (settle entries)) : key ∈ keys entries := by
  induction entries using List.reverseRecOn with
  | nil => exact h
  | append_singleton entries entry ih =>
    rw [settle_concat, keys_set] at h
    unfold keys at ih ⊢
    rw [List.map_append]
    split_ifs at h
    · exact List.mem_append_left _ (ih h)
    · exact List.mem_append.mpr ((List.mem_append.mp h).imp_left ih)

/-- **A settled key has its last value.** -/
theorem find?_settle (key : κ) (entries : Keyed κ α) : find? key (settle entries) = last? key entries := by
  unfold last?
  induction entries using List.reverseRecOn with
  | nil => rfl
  | append_singleton entries entry ih =>
    rw [settle_concat, List.reverse_append]
    show _ = find? key (entry :: entries.reverse)
    rw [find?]
    split_ifs with same
    · rw [same, find?_set_self]
    · rw [find?_set_of_ne (Ne.symm same), ih]

/-- An entry of a list in which a value has been set is the new value or one of the old ones. -/
theorem mem_set {key : κ} {value : α} {entries : Keyed κ α} {entry : κ × α} (h : entry ∈ set key value entries) :
    entry.2 = value ∨ ∃ old ∈ entries, entry.2 = old.2 := by
  induction entries with
  | nil =>
    obtain rfl := List.mem_singleton.mp h
    exact .inl rfl
  | cons head rest ih =>
    unfold set at h
    split at h
    · obtain rfl | h := List.mem_cons.mp h
      · exact .inl rfl
      · exact .inr ⟨entry, List.mem_cons_of_mem _ h, rfl⟩
    · obtain rfl | h := List.mem_cons.mp h
      · exact .inr ⟨_, List.mem_cons_self, rfl⟩
      · obtain new | ⟨old, inside, same⟩ := ih h
        · exact .inl new
        · exact .inr ⟨old, List.mem_cons_of_mem _ inside, same⟩

/-- Settling repeated keys keeps some of the values. -/
theorem exists_of_mem_settle {entries : Keyed κ α} {entry : κ × α} (h : entry ∈ settle entries) :
    ∃ old ∈ entries, entry.2 = old.2 := by
  induction entries using List.reverseRecOn generalizing entry with
  | nil => exact absurd h List.not_mem_nil
  | append_singleton entries last ih =>
    rw [settle_concat] at h
    obtain new | ⟨old, inside, same⟩ := mem_set h
    · exact ⟨last, List.mem_append_right _ List.mem_cons_self, new⟩
    · obtain ⟨older, inside, equal⟩ := ih inside
      exact ⟨older, List.mem_append_left _ inside, same.trans equal⟩

end ConnectionJobs.Keyed
