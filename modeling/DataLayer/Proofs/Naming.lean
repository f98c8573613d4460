import DataLayer.Naming
import DataLayer.Proofs.Text.Case
import DataLayer.Proofs.Text.Ends

/-!
# The first free name

The search for a number strikes the names it has tried from the list. A plain search through all
positive numbers would come to the same: no smaller number makes the name free. An allocator begins
its search behind the last number that it gave to a base. It comes to the same again, because all
numbers up to that one are in use: what has been given stays in use.
-/

namespace DataLayer.Naming

variable {key : String → String} {used : List String} {base : String}

/-- A base that is free stays as it is, and one that is in use gets the smallest positive number
that makes it free. -/
structure IsFirstFree (key : String → String) (used : List String) (base name : String) : Prop where
  free : key name ∉ used
  base_or_smallest : name = base ∨ key base ∈ used ∧ ∃ number, 1 ≤ number ∧
    name = numbered base number ∧
    ∀ smaller, 1 ≤ smaller → smaller < number → key (numbered base smaller) ∈ used

/-- Only what is in use matters, not in which order. -/
theorem IsFirstFree.of_mem_iff {others : List String} {name : String}
    (same : ∀ taken, taken ∈ used ↔ taken ∈ others) (first : IsFirstFree key used base name) :
    IsFirstFree key others base name where
  free := fun taken => first.free ((same _).mpr taken)
  base_or_smallest := first.base_or_smallest.imp_right
    fun ⟨inUse, number, positive, named, passed⟩ =>
      ⟨(same _).mp inUse, number, positive, named,
        fun smaller from_ below => (same _).mp (passed smaller from_ below)⟩

/-- The search stops at a free name and passes over none, as long as different numbers make
different names. -/
theorem firstFreeNumber_smallest
    (apart : ∀ {first second}, key (numbered base first) = key (numbered base second) →
      first = second) (used : List String) (start : Nat) :
    start ≤ firstFreeNumber key used base start ∧
      key (numbered base (firstFreeNumber key used base start)) ∉ used ∧
      ∀ number, start ≤ number → number < firstFreeNumber key used base start →
        key (numbered base number) ∈ used := by
  fun_induction firstFreeNumber key used base start with
  | case1 used start inUse ih =>
      obtain ⟨further, free, passed⟩ := ih
      refine ⟨by omega, fun taken => free ?_, fun number from_ below => ?_⟩
      · -- Only the name of `start` was struck, and the search ended behind it.
        refine (List.mem_erase_of_ne fun same => ?_).mpr taken
        have equal := apart same
        omega
      · by_cases first : number = start
        · exact first ▸ inUse
        · exact List.mem_of_mem_erase (passed number (by omega) below)
  | case2 used start free => exact ⟨Nat.le_refl start, free, by omega⟩

/-- The search finds the first free name, as long as the names with different numbers have different
keys. -/
theorem firstFree_isFirstFree
    (apart : ∀ {first second}, key (numbered base first) = key (numbered base second) →
      first = second) : IsFirstFree key used base (firstFree key used base) := by
  unfold firstFree
  split
  · obtain ⟨positive, free, passed⟩ := firstFreeNumber_smallest apart used 1
    exact ⟨free, .inr ⟨‹_›, _, positive, rfl, passed⟩⟩
  · exact ⟨‹_›, .inl rfl⟩

/-- A base has one first free name. -/
theorem IsFirstFree.unique {left right : String} (first : IsFirstFree key used base left)
    (second : IsFirstFree key used base right) : left = right := by
  rcases first.base_or_smallest with rfl | ⟨inUse, number, positive, rfl, passed⟩ <;>
    rcases second.base_or_smallest with rfl | ⟨inUseToo, other, positiveToo, rfl, passedToo⟩
  · rfl
  · exact absurd inUseToo first.free
  · exact absurd inUse second.free
  · -- A smaller number would be in use for one of the two, and free for the other.
    rcases Nat.lt_trichotomy number other with below | rfl | above
    · exact absurd (passedToo number positive below) first.free
    · rfl
    · exact absurd (passed other positiveToo above) second.free

/-- In lower case, too, different numbers make different names. -/
theorem lower_numbered_injective {first second : Nat}
    (same : Text.lower (numbered base first) = Text.lower (numbered base second)) :
    first = second := by
  have lowered (number : Nat) :
      Text.lower (numbered base number) = numbered (Text.lower base) number :=
    Text.lower_append_digits fun _ => isAsciiDigit_of_mem_repr
  rw [lowered, lowered] at same
  exact numbered_injective same

/-- For each base in order the first free name, found by a search through all positive numbers. -/
def firstFreeAll (key : String → String) (used : List String) : List String → List String
  | [] => []
  | base :: rest =>
    firstFree key used base :: firstFreeAll key (key (firstFree key used base) :: used) rest

section All

variable (apart : ∀ {base first second},
  key (numbered base first) = key (numbered base second) → first = second)

include apart

/-- Each name is the first free one behind the names given before it. -/
theorem isFirstFree_of_firstFreeAll {Value : Type} {baseOf nameOf : Value → String}
    {before after : List Value} {value : Value}
    (named : (before ++ value :: after).map nameOf =
      firstFreeAll key used ((before ++ value :: after).map baseOf)) :
    IsFirstFree key ((before.map fun earlier => key (nameOf earlier)).reverse ++ used)
      (baseOf value) (nameOf value) := by
  induction before generalizing used with
  | nil =>
      rw [List.nil_append, List.map_cons, List.map_cons, firstFreeAll, List.cons.injEq] at named
      rw [named.1]
      exact firstFree_isFirstFree apart
  | cons first before ih =>
      rw [List.cons_append, List.map_cons, List.map_cons, firstFreeAll, List.cons.injEq] at named
      have later := ih (named.1 ▸ named.2)
      rwa [List.map_cons, List.reverse_cons, List.append_assoc, List.singleton_append]

/-- No two names that are given agree in their keys, and none with one that was in use. -/
theorem nodup_firstFreeAll (used bases : List String) :
    ((firstFreeAll key used bases).map key).Nodup ∧
      ∀ name ∈ firstFreeAll key used bases, key name ∉ used := by
  induction bases generalizing used with
  | nil => simp [firstFreeAll]
  | cons base rest ih =>
      have free : key (firstFree key used base) ∉ used := (firstFree_isFirstFree apart).free
      obtain ⟨distinct, fresh⟩ := ih (key (firstFree key used base) :: used)
      rw [firstFreeAll, List.map_cons, List.nodup_cons, List.forall_mem_cons]
      refine ⟨⟨fun again => ?_, distinct⟩, free, fun name later among => ?_⟩
      · obtain ⟨name, later, same⟩ := List.mem_map.mp again
        exact fresh name later (same ▸ List.mem_cons_self)
      · exact fresh name later (List.mem_cons_of_mem _ among)

end All

namespace Allocator

variable {allocator : Allocator} {given : List String}

/-- What an allocator has in its memory after it has given these names. -/
structure Remembers (allocator : Allocator) (given : List String) : Prop where
  names : ∀ name, name ∈ allocator.names ↔ name ∈ given
  /-- All numbers up to the last one that was given to a base are in use behind it. -/
  passed : ∀ entry ∈ allocator.used, ∀ number, 1 ≤ number → number ≤ entry.2 →
    numbered entry.1 number ∈ given

/-- An allocator that was not asked yet has nothing to remember. -/
theorem remembers_nothing : Remembers {} [] where
  names := fun _ => Iff.rfl
  passed := by simp

/-- A base without an entry was not given as a name. -/
theorem Remembers.not_mem_of_lookup (remembers : Remembers allocator given) {base : String}
    (unused : allocator.used.lookup base = none) : base ∉ given := by
  rw [← remembers.names]
  intro taken
  obtain ⟨entry, member, same⟩ := List.mem_map.mp taken
  simpa [same] using List.lookup_eq_none_iff.mp unused entry member

/-- Up to the remembered number all are in use, so a search behind it passes over no free one. -/
theorem Remembers.search (remembers : Remembers allocator given) {base : String} {last : Nat}
    (remembered : (base, last) ∈ allocator.used) :
    let number := firstFreeNumber id allocator.names base (last + 1)
    1 ≤ number ∧ numbered base number ∉ given ∧
      ∀ smaller, 1 ≤ smaller → smaller < number → numbered base smaller ∈ given := by
  intro number
  obtain ⟨further, free, tried⟩ :
      last + 1 ≤ number ∧ id (numbered base number) ∉ allocator.names ∧ _ :=
    firstFreeNumber_smallest numbered_injective allocator.names (last + 1)
  refine ⟨by omega, fun taken => free ((remembers.names _).mpr taken),
    fun smaller positive less => ?_⟩
  by_cases old : smaller ≤ last
  · exact remembers.passed _ remembered smaller positive old
  · exact (remembers.names _).mp (tried smaller (by omega) less)

/-- An allocator gives the first free name, although it does not search from the start, and
remembers it. -/
theorem Remembers.claim (remembers : Remembers allocator given) (base : String) :
    IsFirstFree id given base (allocator.claim base).1 ∧
      Remembers (allocator.claim base).2 ((allocator.claim base).1 :: given) := by
  unfold Allocator.claim
  split
  case h_1 unused =>
    refine ⟨⟨remembers.not_mem_of_lookup unused, .inl rfl⟩, fun name => ?_, ?_⟩
    · simp [Allocator.names, ← remembers.names]
    · refine List.forall_mem_cons.mpr
        ⟨fun _ _ _ => by omega, fun entry member number low high => ?_⟩
      exact List.mem_cons_of_mem _ (remembers.passed entry member number low high)
  case h_2 last found =>
    have remembered : (base, last) ∈ allocator.used := by
      obtain ⟨before, after, split, -⟩ := List.lookup_eq_some_iff.mp found
      simp [split]
    have inUse : base ∈ given := (remembers.names base).mp (List.mem_map_of_mem remembered)
    obtain ⟨positive, free, below⟩ := remembers.search remembered
    generalize firstFreeNumber id allocator.names base (last + 1) = number at positive free below
    refine ⟨⟨free, .inr ⟨inUse, number, positive, rfl, below⟩⟩, fun name => ?_, ?_⟩
    · -- The entry of the base is replaced, and all other entries stay.
      have kept : (allocator.used.filter fun entry => entry.1 != base).map (·.1) =
          allocator.names.filter (· != base) := by
        rw [Allocator.names, List.filter_map]
        rfl
      have others : name ∈ given ↔ name = base ∨ name ∈ allocator.names ∧ name ≠ base := by
        rw [remembers.names]
        by_cases same : name = base <;> simp [same, inUse]
      rw [Allocator.names, List.map_cons, List.map_cons, kept]
      simp [others]
    · refine List.forall_mem_cons.mpr ⟨fun _ _ _ => by omega, List.forall_mem_cons.mpr ⟨?_, ?_⟩⟩
      · intro smaller low high
        rcases Nat.lt_or_eq_of_le high with less | rfl
        · exact List.mem_cons_of_mem _ (below smaller low less)
        · exact List.mem_cons_self
      · intro entry member smaller low high
        exact List.mem_cons_of_mem _
          (remembers.passed entry (List.mem_filter.mp member).1 smaller low high)

/-- An allocator gives the names that a search from the start would give for every base. -/
theorem claimAll_eq_firstFreeAll (remembers : Remembers allocator given) (bases : List String) :
    allocator.claimAll bases = firstFreeAll id given bases := by
  induction bases generalizing allocator given with
  | nil => rfl
  | cons base rest ih =>
      obtain ⟨first, afterwards⟩ := remembers.claim base
      have same : (allocator.claim base).1 = firstFree id given base :=
        first.unique (firstFree_isFirstFree numbered_injective)
      rw [claimAll, firstFreeAll, ih afterwards, same, id_eq]

end Allocator

end DataLayer.Naming
