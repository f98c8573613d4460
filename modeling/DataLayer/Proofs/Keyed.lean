import DataLayer.Keyed
import Mathlib.Data.List.Induction
import Mathlib.Data.List.Nodup

/-!
# Entries under keys

`Keyed.ofList` puts entries one after the other. The keys keep the order of their first use, and the
value under a key is the last one that was put there.
-/

namespace DataLayer.Keyed

variable {α β : Type}

private theorem lookup_cons_ite (key : String) (entry : String × α) (rest : List (String × α)) :
    (entry :: rest).lookup key = if key = entry.1 then some entry.2 else rest.lookup key := by
  rw [List.lookup_cons]
  by_cases asked : key = entry.1
  · rw [if_pos asked, beq_iff_eq.mpr asked]
  · rw [if_neg asked, beq_eq_false_iff_ne.mpr asked]

private theorem eraseDups_concat (names : List String) (name : String) :
    (names ++ [name]).eraseDups =
      if name ∈ names then names.eraseDups else names.eraseDups ++ [name] := by
  rw [List.eraseDups_append]
  by_cases present : name ∈ names <;>
    simp [List.removeAll, List.eraseDups_cons, present]

private theorem ofList_concat (entries : List (String × α)) (entry : String × α) :
    ofList (entries ++ [entry]) = (ofList entries).put entry.1 entry.2 := by
  simp [ofList, List.foldl_append]

private theorem names_putEntry (key : String) (value : α) (entries : List (String × α)) :
    (putEntry key value entries).map (·.1) =
      if key ∈ entries.map (·.1) then entries.map (·.1) else entries.map (·.1) ++ [key] := by
  induction entries with
  | nil => rfl
  | cons entry rest ih =>
      by_cases same : entry.1 = key
      · simp [putEntry, same]
      · have other : key ≠ entry.1 := fun equal => same equal.symm
        rw [putEntry, if_neg same, List.map_cons, ih]
        by_cases later : key ∈ rest.map (·.1)
        · have among : key ∈ (entry :: rest).map (·.1) := List.mem_cons_of_mem _ later
          rw [if_pos later, if_pos among, List.map_cons]
        · have missing : key ∉ (entry :: rest).map (·.1) :=
            List.not_mem_cons_of_ne_of_not_mem other later
          rw [if_neg later, if_neg missing, List.map_cons, List.cons_append]

/-- Putting a value under a key leaves the other keys where they are. -/
theorem keys_put (keyed : Keyed α) (key : String) (value : α) :
    (keyed.put key value).keys =
      if key ∈ keyed.keys then keyed.keys else keyed.keys ++ [key] :=
  names_putEntry key value keyed.entries

private theorem lookup_putEntry (key other : String) (value : α) (entries : List (String × α)) :
    (putEntry key value entries).lookup other =
      if other = key then some value else entries.lookup other := by
  induction entries with
  | nil => rw [putEntry, lookup_cons_ite]
  | cons entry rest ih =>
      by_cases same : entry.1 = key
      · rw [putEntry, if_pos same, lookup_cons_ite, lookup_cons_ite, same]
        split <;> rfl
      · rw [putEntry, if_neg same, lookup_cons_ite, lookup_cons_ite, ih]
        by_cases here : other = entry.1
        · rw [if_pos here, if_neg (here ▸ same), if_pos here]
        · rw [if_neg here, if_neg here]

/-- The value that was put is found, and no other value has changed. -/
theorem get?_put (keyed : Keyed α) (key other : String) (value : α) :
    (keyed.put key value).get? other = if other = key then some value else keyed.get? other :=
  lookup_putEntry key other value keyed.entries

/-- Putting a value brings in no other entry. -/
theorem mem_values_put {keyed : Keyed α} {key : String} {value found : α}
    (member : found ∈ (keyed.put key value).values) : found = value ∨ found ∈ keyed.values := by
  obtain ⟨entries⟩ := keyed
  change found ∈ (putEntry key value entries).map (·.2) at member
  change found = value ∨ found ∈ entries.map (·.2)
  induction entries with
  | nil => simpa [putEntry] using member
  | cons first rest ih =>
      rw [putEntry] at member
      split at member
      · exact (List.mem_cons.mp member).imp_right (List.mem_cons_of_mem _)
      · rcases List.mem_cons.mp member with rfl | later
        · exact .inr List.mem_cons_self
        · exact (ih later).imp_right (List.mem_cons_of_mem _)

/-- The keys are in the order of their first use. -/
theorem keys_ofList (entries : List (String × α)) :
    (ofList entries).keys = (entries.map (·.1)).eraseDups := by
  induction entries using List.reverseRecOn with
  | nil => rfl
  | append_singleton entries entry ih =>
      rw [ofList_concat, keys_put, ih, List.map_append, List.map_singleton, eraseDups_concat]
      simp only [List.mem_eraseDups]

/-- The last value put under a key is found. -/
theorem get?_ofList (entries : List (String × α)) (key : String) :
    (ofList entries).get? key = entries.reverse.lookup key := by
  induction entries using List.reverseRecOn with
  | nil => rfl
  | append_singleton entries entry ih =>
      rw [ofList_concat, get?_put, ih, List.reverse_append, List.reverse_singleton,
        List.singleton_append, lookup_cons_ite]

/-- Of the members that have a key, the last one is found under it. -/
theorem get?_ofList_keyed {V : Type} (keyOf : V → String) (valueOf : V → α) (members : List V)
    (key : String) :
    (ofList (members.map fun member => (keyOf member, valueOf member))).get? key =
      (members.reverse.find? fun member => keyOf member = key).map valueOf := by
  rw [get?_ofList, ← List.map_reverse]
  induction members.reverse with
  | nil => rfl
  | cons member rest ih =>
      rw [List.map_cons, lookup_cons_ite, ih]
      by_cases same : key = keyOf member
      · rw [if_pos same, List.find?_cons_of_pos (by simpa using same.symm), Option.map_some]
      · have other : keyOf member ≠ key := fun equal => same equal.symm
        rw [if_neg same, List.find?_cons_of_neg (by simpa using other)]

/-- A search from the end finds the only member it can find. -/
theorem find?_reverse_of_single {V : Type} {sought : V → Bool} {members : List V} {member : V}
    (present : member ∈ members) (found : sought member = true)
    (single : ∀ other ∈ members, sought other = true → other = member) :
    members.reverse.find? sought = some member := by
  cases search : members.reverse.find? sought with
  | none =>
      have missed := List.find?_eq_none.mp search member (List.mem_reverse.mpr present)
      exact absurd found missed
  | some other =>
      have among := List.mem_reverse.mp (List.mem_of_find?_eq_some search)
      rw [single other among (List.find?_some search)]

/-- Members that are put under keys of their own leave these keys in the order of the members. -/
theorem keys_ofList_keyed {V : Type} (keyOf : V → String) (valueOf : V → α) (members : List V) :
    (ofList (members.map fun member => (keyOf member, valueOf member))).keys =
      (members.map keyOf).eraseDups := by
  rw [keys_ofList, List.map_map]
  rfl

/-- Distinct keys are all kept. -/
theorem eraseDups_of_nodup {names : List String} (distinct : names.Nodup) :
    names.eraseDups = names := by
  induction names with
  | nil => rfl
  | cons name names ih =>
      obtain ⟨fresh, distinct⟩ := List.nodup_cons.mp distinct
      have others : names.filter (fun other => !other == name) = names := by
        refine List.filter_eq_self.mpr fun other member => ?_
        have different : other ≠ name := fun equal => fresh (equal ▸ member)
        simpa using different
      rw [List.eraseDups_cons, others, ih distinct]

/-- Without the later repetitions every name is there once. -/
theorem nodup_eraseDups (names : List String) : names.eraseDups.Nodup := by
  induction names using List.reverseRecOn with
  | nil => exact List.nodup_nil
  | append_singleton names name ih =>
      rw [eraseDups_concat]
      split
      case isTrue => exact ih
      case isFalse fresh =>
        refine ih.append (List.nodup_singleton name) (List.disjoint_singleton.mpr ?_)
        rwa [List.mem_eraseDups]

/-- No key comes twice. -/
theorem nodup_keys_ofList (entries : List (String × α)) : (ofList entries).keys.Nodup := by
  rw [keys_ofList]
  exact nodup_eraseDups _

/-- Each entry is what is found under its key when no key comes twice. -/
theorem get?_of_mem {keyed : Keyed α} (distinct : keyed.keys.Nodup) {entry : String × α}
    (member : entry ∈ keyed.entries) : keyed.get? entry.1 = some entry.2 := by
  obtain ⟨before, after, split⟩ := List.append_of_mem member
  rw [keys, split, List.map_append, List.map_cons] at distinct
  have fresh : entry.1 ∉ before.map (·.1) := fun again =>
    (List.nodup_append.mp distinct).2.2 _ again _ List.mem_cons_self rfl
  refine List.lookup_eq_some_iff.mpr ⟨before, after, split, fun other among => ?_⟩
  rw [bne_iff_ne]
  intro same
  exact fresh (same ▸ List.mem_map_of_mem among)

/-- Changing the values before or after they are put makes no difference. -/
theorem get?_ofList_map (change : α → β) (entries : List (String × α)) (key : String) :
    (ofList (entries.map fun entry => (entry.1, change entry.2))).get? key =
      ((ofList entries).get? key).map change := by
  rw [get?_ofList, get?_ofList, ← List.map_reverse]
  induction entries.reverse with
  | nil => rfl
  | cons entry rest ih =>
      rw [List.map_cons, lookup_cons_ite, lookup_cons_ite, ih]
      split <;> rfl

section Filter

variable (keeps : String → Bool) (entries : List (String × α))

/-- Without the entries of some keys, the other keys keep their order. -/
theorem keys_ofList_filter :
    (ofList (entries.filter fun entry => keeps entry.1)).keys =
      (ofList entries).keys.filter keeps := by
  have names : (entries.filter fun entry => keeps entry.1).map (·.1) =
      (entries.map (·.1)).filter keeps := by
    rw [List.filter_map]
    rfl
  rw [keys_ofList, keys_ofList, names]
  induction entries.map (·.1) using List.reverseRecOn with
  | nil => rfl
  | append_singleton names name ih =>
      rw [List.filter_append, eraseDups_concat]
      by_cases kept : keeps name = true
      · rw [List.filter_cons_of_pos kept, List.filter_nil, eraseDups_concat, ih]
        by_cases present : name ∈ names <;> simp [present, kept]
      · rw [List.filter_cons_of_neg kept, List.filter_nil, List.append_nil, ih]
        by_cases present : name ∈ names <;> simp [present, kept]

/-- Without the entries of some keys, nothing is found under these and the same under the
others. -/
theorem get?_ofList_filter (key : String) :
    (ofList (entries.filter fun entry => keeps entry.1)).get? key =
      if keeps key then (ofList entries).get? key else none := by
  rw [get?_ofList, get?_ofList, ← List.filter_reverse]
  induction entries.reverse with
  | nil => simp
  | cons entry rest ih =>
      rw [List.filter_cons, lookup_cons_ite]
      by_cases kept : keeps entry.1 = true
      · rw [if_pos kept, lookup_cons_ite, ih]
        by_cases asked : key = entry.1 <;> simp [asked, kept]
      · rw [if_neg kept, ih]
        by_cases asked : key = entry.1 <;> simp [asked, kept]

end Filter

end DataLayer.Keyed
