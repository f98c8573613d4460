import DataLayer.Proofs.Text.CaseRun
import DataLayer.Text.Case
import Mathlib.Data.List.Nodup

/-!
# Tables of case mappings

The case mappings of single characters are tables of runs and of expansions. The runs of a table have
no members in common, so the run that has a character as a member says what it is mapped to, and what
holds of the mappings of all characters is read off the runs.
-/

namespace DataLayer.Text

/-- The character of a valid code has this code. -/
theorem toNat_ofNat_of_isValidChar {code : Nat} (valid : code.isValidChar) :
    (Char.ofNat code).toNat = code := by
  rw [Char.ofNat, dif_pos valid]
  rfl

/-- What holds of the characters with certain code points holds of a character with such a code
point. -/
theorem of_codes (property : Char → Prop) {first count : Nat}
    (holds : ∀ code ∈ List.range' first count, property (Char.ofNat code)) {c : Char}
    (low : first ≤ c.toNat) (high : c.toNat < first + count) : property c := by
  have kept := holds c.toNat (List.mem_range'_1.mpr ⟨low, high⟩)
  rwa [Char.ofNat_toNat] at kept

/-- What holds of the first 128 characters holds of every ASCII character. -/
theorem of_ascii (property : Char → Prop)
    (holds : ∀ code ∈ List.range' 0 0x80, property (Char.ofNat code)) {c : Char}
    (ascii : c.toNat < 0x80) : property c :=
  of_codes property holds (Nat.zero_le _) (by omega)

/-- Only the targets of the run are ASCII among the code points from `low` to `high`. -/
def CaseRun.Admits (ascii : CaseRun) (low high : Nat) : Prop :=
  0x80 ≤ low ∨ ascii.target ≤ low ∧ high ≤ ascii.lastTarget

instance (ascii : CaseRun) (low high : Nat) : Decidable (ascii.Admits low high) := instDecidableOr

/-- A table of case mappings: runs and expansions in ascending order that yield scalar values. What
is expanded is no member of a run. The first run has the ASCII letters that are changed, and it
agrees with the mapping of ASCII characters. Nothing yields other ASCII characters than this run. -/
structure CaseTable where
  ofAscii : Char → Char
  ascii : CaseRun
  runs : List CaseRun
  expansions : List (Nat × List Nat)
  first : runs.head? = some ascii
  agrees : ∀ code ∈ List.range' 0 0x80,
    [ofAscii (Char.ofNat code)] = mapCase [ascii] [] (Char.ofNat code)
  beyond : ∀ run ∈ runs.tail, 0x80 ≤ run.first
  ascending : runs.IsChain CaseRun.Before
  ascendingExpansions : (expansions.map (·.1)).IsChain (· < ·)
  apart : CaseRun.alongside (CaseRun.point ·.1)
    (fun expansion near => near.all (CaseRun.point expansion.1).misses) runs expansions = true
  yields : ∀ run ∈ runs, ascii.Admits run.target run.lastTarget ∧
    (run.lastTarget < 0xD800 ∨ 0xDFFF < run.target ∧ run.lastTarget < 0x110000)
  expands : ∀ expansion ∈ expansions, 0x80 ≤ expansion.1 ∧ expansion.2 ≠ [] ∧
    ∀ code ∈ expansion.2, ascii.Admits code code ∧ code.isValidChar

namespace CaseTable

variable (table : CaseTable) {run : CaseRun} {code image : Nat} {c d : Char}

/-- The mapping of one character. -/
def map (c : Char) : List Char :=
  if c.toNat < 0x80 then [table.ofAscii c] else mapCase table.runs table.expansions c

/-- ASCII characters are mapped like all others. -/
theorem map_eq (c : Char) : table.map c = mapCase table.runs table.expansions c := by
  unfold map
  split
  · rename_i small
    have missed : table.runs.tail.findSome? (fun run => run.apply? c.toNat) = none :=
      List.findSome?_eq_none_iff.mpr fun run member =>
        if_neg fun inside => Nat.not_le.mpr small ((table.beyond run member).trans inside.1)
    have plain : table.expansions.find? (fun expansion => expansion.1 == c.toNat) = none :=
      List.find?_eq_none.mpr fun expansion member => by
        have wide := (table.expands expansion member).1
        simp only [beq_iff_eq]
        omega
    have runs : table.runs = table.ascii :: table.runs.tail :=
      (List.cons_head?_tail table.first).symm
    rw [of_ascii (fun c => [table.ofAscii c] = mapCase [table.ascii] [] c) table.agrees small,
      mapCase, mapCase, runs, List.findSome?_cons, List.findSome?_cons, missed, plain]
    rfl
  · rfl

/-- No run has the code point as a member. -/
def Misses (code : Nat) : Prop := ∀ run ∈ table.runs, run.apply? code = none

/-- The images of a table are valid codes. -/
theorem toNat_image (member : run ∈ table.runs) (applied : run.apply? code = some image) :
    (Char.ofNat image).toNat = image := by
  have bounds := CaseRun.target_le applied
  have valid := (table.yields run member).2
  refine toNat_ofNat_of_isValidChar ?_
  unfold Nat.isValidChar
  omega

/-- A character of a run is mapped to its image in the run. -/
theorem map_of_run (member : run ∈ table.runs) (applied : run.apply? c.toNat = some image) :
    table.map c = [Char.ofNat image] := by
  rw [map_eq, mapCase, CaseRun.findSome?_of_mem table.ascending member applied]

/-- A code that the table misses is found in no run. -/
theorem findSome?_of_misses (missed : table.Misses code) :
    table.runs.findSome? (fun run => run.apply? code) = none :=
  List.findSome?_eq_none_iff.mpr missed

/-- The runs of a table miss its expansions. -/
theorem misses_of_mem {codes : List Nat} (member : (code, codes) ∈ table.expansions) :
    table.Misses code := by
  intro run among
  obtain ⟨near, -, missed, close⟩ := CaseRun.exists_near table.apart member
  exact CaseRun.none_of_near (close table.ascending run among) missed (CaseRun.point_applies code)

/-- A character with an expansion is mapped to it. -/
theorem map_of_expansion {codes : List Nat} (member : (c.toNat, codes) ∈ table.expansions) :
    table.map c = codes.map Char.ofNat := by
  have distinct : (table.expansions.map (·.1)).Nodup :=
    (List.isChain_iff_pairwise.mp table.ascendingExpansions).imp Nat.ne_of_lt
  have found : table.expansions.find? (fun expansion => expansion.1 == c.toNat) =
      some (c.toNat, codes) := by
    cases search : table.expansions.find? (fun expansion => expansion.1 == c.toNat) with
    | none =>
        have other := List.find?_eq_none.mp search _ member
        simp at other
    | some expansion =>
        have among := List.mem_of_find?_eq_some search
        have key := by simpa using List.find?_some search
        rw [List.inj_on_of_nodup_map distinct among member key]
  rw [map_eq, mapCase, table.findSome?_of_misses (table.misses_of_mem member), found]

/-- A character in no run and without an expansion is left alone. -/
theorem map_of_misses (missed : table.Misses c.toNat)
    (plain : ∀ expansion ∈ table.expansions, expansion.1 ≠ c.toNat) : table.map c = [c] := by
  have none : table.expansions.find? (fun expansion => expansion.1 == c.toNat) = none :=
    List.find?_eq_none.mpr fun expansion member => by simpa using plain expansion member
  rw [map_eq, mapCase, table.findSome?_of_misses missed, none]

/-- A character is a member of a run, or it is expanded, or it is mapped to itself. -/
theorem map_cases (c : Char) :
    (∃ run ∈ table.runs, ∃ image, run.apply? c.toNat = some image ∧
      table.map c = [Char.ofNat image]) ∨
    (∃ codes, (c.toNat, codes) ∈ table.expansions ∧ table.map c = codes.map Char.ofNat) ∨
    table.map c = [c] := by
  by_cases missed : table.Misses c.toNat
  · by_cases plain : ∀ expansion ∈ table.expansions, expansion.1 ≠ c.toNat
    · exact .inr (.inr (table.map_of_misses missed plain))
    · push Not at plain
      obtain ⟨⟨key, codes⟩, member, rfl⟩ := plain
      exact .inr (.inl ⟨codes, member, table.map_of_expansion member⟩)
  · unfold Misses at missed
    push Not at missed
    obtain ⟨run, member, applies⟩ := missed
    obtain ⟨image, applied⟩ := Option.ne_none_iff_exists'.mp applies
    exact .inl ⟨run, member, image, applied, table.map_of_run member applied⟩

/-- Every character is mapped to something. -/
theorem map_ne_nil (c : Char) : table.map c ≠ [] := by
  rcases table.map_cases c with
    ⟨run, member, image, applied, mapped⟩ | ⟨codes, member, mapped⟩ | mapped <;>
    rw [mapped]
  · exact List.cons_ne_nil _ _
  · exact fun empty => (table.expands _ member).2.1 (List.map_eq_nil_iff.mp empty)
  · exact List.cons_ne_nil _ _

variable {table}

/-- What a character is mapped to is this character alone, or the table admits it. -/
theorem admits_of_mem_map (member : d ∈ table.map c) :
    table.map c = [c] ∧ d = c ∨ table.ascii.Admits d.toNat d.toNat := by
  rcases table.map_cases c with
    ⟨run, among, image, applied, mapped⟩ | ⟨codes, among, mapped⟩ | mapped
  · rw [mapped] at member
    obtain rfl := List.mem_singleton.mp member
    have bounds := CaseRun.target_le applied
    have admitted := (table.yields run among).1
    rw [table.toNat_image among applied]
    unfold CaseRun.Admits at admitted ⊢
    omega
  · rw [mapped] at member
    obtain ⟨code, inside, rfl⟩ := List.mem_map.mp member
    obtain ⟨admitted, valid⟩ := (table.expands _ among).2.2 code inside
    rw [toNat_ofNat_of_isValidChar valid]
    exact .inr admitted
  · rw [mapped] at member
    exact .inl ⟨mapped, List.mem_singleton.mp member⟩

/-- The ASCII letters that are changed are nowhere in a mapping. -/
theorem outside_of_mem_map {first last target : Nat} (ascii : table.ascii = ⟨first, last, 1, target⟩)
    (small : last < 0x80) (apart : last < target ∨ target + (last - first) < first)
    (member : d ∈ table.map c) : d.toNat < first ∨ last < d.toNat := by
  by_contra inside
  obtain ⟨low, high⟩ : first ≤ d.toNat ∧ d.toNat ≤ last := by omega
  rcases admits_of_mem_map member with ⟨mapped, rfl⟩ | admitted
  · have applied : table.ascii.apply? d.toNat = some (target + (d.toNat - first)) := by
      rw [ascii, CaseRun.applies_iff]
      exact ⟨low, high, Nat.mod_one _, rfl⟩
    have among : table.ascii ∈ table.runs := List.mem_of_head? table.first
    have changed := table.map_of_run among applied
    rw [mapped, List.singleton_inj] at changed
    have same := congrArg Char.toNat changed
    rw [table.toNat_image among applied] at same
    omega
  · rw [ascii] at admitted
    have bounds : 0x80 ≤ d.toNat ∨ target ≤ d.toNat ∧ d.toNat ≤ target + (last - first) := admitted
    omega

end CaseTable

/-- Lower case. -/
def lowerTable : CaseTable where
  ofAscii := Char.toLower
  ascii := ⟨0x41, 0x5A, 1, 0x61⟩
  runs := lowerRuns
  expansions := lowerExpansions
  first := rfl
  agrees := by decide +kernel
  beyond := by decide +kernel
  ascending := by decide +kernel
  ascendingExpansions := by decide +kernel
  apart := by decide +kernel
  yields := by decide +kernel
  expands := by decide +kernel

/-- Upper case. -/
def upperTable : CaseTable where
  ofAscii := Char.toUpper
  ascii := ⟨0x61, 0x7A, 1, 0x41⟩
  runs := upperRuns
  expansions := upperExpansions
  first := rfl
  agrees := by decide +kernel
  beyond := by decide +kernel
  ascending := by decide +kernel
  ascendingExpansions := by decide +kernel
  apart := by decide +kernel
  yields := by decide +kernel
  expands := by decide +kernel

/-- The lower case of a character is read off its table. -/
theorem lowerOf_eq (c : Char) : lowerOf c = lowerTable.map c := rfl

/-- The upper case of a character is read off its table. -/
theorem upperOf_eq (c : Char) : upperOf c = upperTable.map c := rfl

/-- Only an underscore is mapped to something with an underscore. -/
theorem eq_of_underscore_mem {c : Char} (member : '_' ∈ lowerOf c ∨ '_' ∈ upperOf c) : c = '_' := by
  have alone {table : CaseTable} (outside : ¬ table.ascii.Admits 95 95)
      (member : '_' ∈ table.map c) : c = '_' := by
    rcases CaseTable.admits_of_mem_map member with ⟨-, same⟩ | admitted
    · exact same.symm
    · exact absurd admitted outside
  rw [lowerOf_eq, upperOf_eq] at member
  rcases member with lowered | raised
  · exact alone (by decide) lowered
  · exact alone (by decide) raised

/-- No capital ASCII letter is left in lower case. -/
theorem isUpper_of_mem_lowerOf {c d : Char} (member : d ∈ lowerOf c) : d.isUpper = false := by
  have ascii : lowerTable.ascii = ⟨65, 90, 1, 97⟩ := rfl
  have outside := CaseTable.outside_of_mem_map ascii (by decide) (.inl (by decide)) member
  unfold Char.isUpper
  rw [decide_eq_false_iff_not]
  rintro ⟨atLeast, atMost⟩
  have low : 65 ≤ d.toNat := UInt32.le_iff_toNat_le.mp atLeast
  have high : d.toNat ≤ 90 := UInt32.le_iff_toNat_le.mp atMost
  omega

/-- No small ASCII letter is left in upper case. -/
theorem isLower_of_mem_upperOf {c d : Char} (member : d ∈ upperOf c) : d.isLower = false := by
  have ascii : upperTable.ascii = ⟨97, 122, 1, 65⟩ := rfl
  have outside := CaseTable.outside_of_mem_map ascii (by decide) (.inr (by decide)) member
  unfold Char.isLower
  rw [← Bool.not_eq_true, Bool.and_eq_true, decide_eq_true_iff, decide_eq_true_iff]
  rintro ⟨atLeast, atMost⟩
  have low : 97 ≤ d.toNat := UInt32.le_iff_toNat_le.mp atLeast
  have high : d.toNat ≤ 122 := UInt32.le_iff_toNat_le.mp atMost
  omega

/-- Every character has an upper case. -/
theorem upperOf_ne_nil (c : Char) : upperOf c ≠ [] := upperTable.map_ne_nil c

end DataLayer.Text
