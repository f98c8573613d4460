import DataLayer.Files
import Mathlib.Data.List.Nodup

/-!
# The contents of files

What a file tree holds is known by its files, place by place. Making directories changes none of
them. Writing changes exactly the one that the path leads to afterwards, and a path that cannot be
written leaves all of them as they are.
-/

namespace DataLayer

/-- What stands in a file; in a directory stands nothing. -/
def FileEntry.content? : FileEntry → Option ByteArray
  | file content => some content
  | directory => none

/-- Under different keys, dropping entries drops exactly what was found under their keys. -/
private theorem lookup_filter {K V : Type} [BEq K] [LawfulBEq K] {entries : List (K × V)}
    (distinct : (entries.map (·.1)).Nodup) (kept : K × V → Bool) (key : K) :
    (entries.filter kept).lookup key =
      (entries.lookup key).filter fun value => kept (key, value) := by
  induction entries with
  | nil => rfl
  | cons entry entries ih =>
      obtain ⟨entryKey, value⟩ := entry
      obtain ⟨unused, others⟩ := List.nodup_cons.mp distinct
      have rest := ih others
      by_cases same : key = entryKey
      · subst same
        have absent : entries.lookup key = none := by
          refine List.lookup_eq_none_iff.mpr fun other member => bne_iff_ne.mpr ?_
          rintro rfl
          exact unused (List.mem_map.mpr ⟨other, member, rfl⟩)
        rw [absent] at rest
        cases keeps : kept (key, value) <;> simp [keeps, rest, Option.filter]
      · have missed : (key == entryKey) = false := beq_eq_false_iff_ne.mpr same
        cases keeps : kept (entryKey, value) <;> simp [keeps, rest, List.lookup_cons, missed]

namespace FileTree

/-- What stands in the file at a place. -/
def file? (tree : FileTree) (place : List String) : Option ByteArray :=
  (tree.entry? place).bind FileEntry.content?

variable {tree : FileTree} {place other : List String}

/-- There is no file at the root or above it. -/
theorem file?_of_isAncestor (above : isAncestor place = true) : tree.file? place = none := by
  rw [file?, entry?, if_pos above]
  rfl

/-- A directory that is only on the way to other entries has nothing in it that a file has. -/
theorem file?_of_inside (inside : isAncestor place = false) :
    tree.file? place = (tree.entries.lookup place).bind FileEntry.content? := by
  rw [file?, entry?, inside]
  cases tree.entries.lookup place with
  | some entry => rfl
  | none =>
      by_cases onTheWay : tree.entries.any fun entry => place.isPrefixOf entry.1
      · simp [onTheWay, FileEntry.content?]
      · simp [onTheWay]

/-- What was put at a place is found there, and everything else where it was. -/
theorem lookup_put (entry : FileEntry) :
    (tree.put place entry).entries.lookup other =
      if other = place then some entry else tree.entries.lookup other := by
  rw [entries_put, List.lookup_cons]
  split
  · rename_i same
    rw [if_pos (eq_of_beq same)]
  · rename_i different
    have apart : other ≠ place := beq_eq_false_iff_ne.mp different
    rw [if_neg apart, lookup_filter tree.distinct]
    cases tree.entries.lookup other <;> simp [Option.filter, apart]

/-- A file that was put at a place below the root stands there. -/
theorem file?_put_self (inside : isAncestor place = false) (entry : FileEntry) :
    (tree.put place entry).file? place = entry.content? := by
  rw [file?_of_inside inside, lookup_put, if_pos rfl]
  rfl

/-- Putting a file changes no other file. -/
theorem file?_put_of_ne (apart : other ≠ place) (entry : FileEntry) :
    (tree.put place entry).file? other = tree.file? other := by
  by_cases above : isAncestor other = true
  · rw [file?_of_isAncestor above, file?_of_isAncestor above]
  · rw [Bool.not_eq_true] at above
    rw [file?_of_inside above, file?_of_inside above, lookup_put, if_neg apart]

/-- No file is lost when entries of directories are dropped. -/
theorem file?_filter {kept : List String × FileEntry → Bool}
    (files : ∀ place content, kept (place, .file content) = true) :
    (tree.filter kept).file? = tree.file? := by
  funext place
  by_cases above : isAncestor place = true
  · rw [file?_of_isAncestor above, file?_of_isAncestor above]
  · rw [Bool.not_eq_true] at above
    rw [file?_of_inside above, file?_of_inside above, entries_filter, lookup_filter tree.distinct]
    cases tree.entries.lookup place with
    | none => rfl
    | some entry =>
        cases entry with
        | file content => simp [Option.filter, files]
        | directory => cases dropped : kept (place, .directory) <;>
            simp [Option.filter, dropped, FileEntry.content?]

/-- A directory that is added where nothing stands changes no file. -/
theorem file?_addDirectory {name : String} (free : tree.entry? (place ++ [name]) = none) :
    (tree.addDirectory place name).file? = tree.file? := by
  have dropped : (tree.filter fun entry =>
      !(entry.2.isDirectory && entry.1 == place)).file? = tree.file? :=
    file?_filter fun _ _ => by simp [FileEntry.isDirectory]
  funext other
  by_cases same : other = place ++ [name]
  · have nothing : tree.file? other = none := by rw [file?, same, free]; rfl
    rw [nothing, same]
    by_cases above : isAncestor (place ++ [name]) = true
    · exact file?_of_isAncestor above
    · rw [Bool.not_eq_true] at above
      exact file?_put_self above _
  · rw [addDirectory, file?_put_of_ne same, dropped]

/-- Making a way changes no file, however far it comes. -/
theorem file?_makeWay (names : List String) : (tree.makeWay place names).1.file? = tree.file? := by
  induction names generalizing tree place with
  | nil => rfl
  | cons name names ih =>
      unfold makeWay
      split
      · exact ih
      split
      · exact ih
      split
      · exact ih
      · rfl
      · rename_i free
        split
        · exact ih.trans (file?_addDirectory free)
        · rfl

/-- Making a directory changes no file. -/
theorem file?_makeDirectory (path : String) : (tree.makeDirectory path).1.file? = tree.file? := by
  unfold makeDirectory
  split
  · rfl
  split
  · exact file?_makeWay _
  · rfl

/-- A new file on a place that is no directory leaves all directories. -/
theorem holdsDirectory_put (free : tree.holdsDirectory place = false) (entry : FileEntry)
    (holds : tree.holdsDirectory other = true) :
    (tree.put place entry).holdsDirectory other = true := by
  have apart : other ≠ place := by
    rintro rfl
    rw [free] at holds
    cases holds
  unfold holdsDirectory entry? at *
  split
  · rfl
  rename_i inside
  rw [lookup_put, if_neg apart]
  rw [if_neg inside] at holds
  split at holds
  · exact holds
  -- The place was a directory because an entry stands below it. Either this entry is still there,
  -- or the new one stands in its place.
  split at holds
  · rename_i onTheWay
    obtain ⟨below, member, start⟩ := List.any_eq_true.mp onTheWay
    have still : (tree.put place entry).entries.any fun entry => other.isPrefixOf entry.1 := by
      rw [entries_put, List.any_cons, Bool.or_eq_true]
      by_cases replaced : below.1 = place
      · exact .inl (replaced ▸ start)
      · refine .inr (List.any_eq_true.mpr ⟨below, List.mem_filter.mpr ⟨member, ?_⟩, start⟩)
        exact bne_iff_ne.mpr replaced
    rw [if_pos still]
    rfl
  · cases holds

/-- Names lead on to where they led as long as no directory is lost. -/
theorem follow_of_holdsDirectory {grown : FileTree} {found : List String} {names : List String}
    (kept : ∀ place, tree.holdsDirectory place = true → grown.holdsDirectory place = true)
    (leads : tree.follow place names = some found) : grown.follow place names = some found := by
  induction names generalizing place with
  | nil => exact leads
  | cons name names ih =>
      unfold follow at leads ⊢
      cases holds : tree.holdsDirectory place with
      | false =>
          rw [holds] at leads
          cases leads
      | true =>
          rw [holds] at leads
          rw [kept place holds]
          simp only [Bool.not_true, Bool.false_eq_true, if_false] at leads ⊢
          -- The next name means this place, the one above it or one below it.
          split at leads
          · rw [if_pos ‹_›]
            exact ih leads
          rw [if_neg ‹_›]
          split at leads
          · rw [if_pos ‹_›]
            exact ih leads
          rw [if_neg ‹_›]
          exact ih leads

/-- A text was written under a path: it stands in the file at the place where the path leads, and
all other files are as they were. -/
structure WrittenAt (place : List String) (path text : String) (before after : FileTree) :
    Prop where
  leads : after.locate? path = some place
  holds : after.file? place = some text.toUTF8
  others : ∀ other, other ≠ place → after.file? other = before.file? other

/-- A file that has a place to stand is written there. -/
theorem writtenAt_put {path text : String} (fits : tree.placeForFile? path = some place) :
    WrittenAt place path text tree (tree.put place (.file text.toUTF8)) := by
  unfold placeForFile? at fits
  split at fits
  · cases fits
  rename_i plain
  obtain ⟨leads, usable⟩ := Option.filter_eq_some_iff.mp fits
  rw [Bool.and_eq_true, Bool.not_eq_true'] at usable
  obtain ⟨free, -⟩ := usable
  -- A place that other entries lie below is a directory, and no file is put there.
  have inside : isAncestor place = false := by
    rw [← Bool.not_eq_true]
    intro above
    rw [holdsDirectory, entry?, if_pos above] at free
    cases free
  constructor
  case leads =>
    unfold locate? at leads ⊢
    split at leads
    · obtain ⟨followed, -⟩ := Option.filter_eq_some_iff.mp leads
      rw [if_pos ‹_›]
      refine Option.filter_eq_some_iff.mpr ⟨?_, by simp [plain]⟩
      exact follow_of_holdsDirectory (fun _ => holdsDirectory_put free _) followed
    · cases leads
  case holds => exact file?_put_self inside _
  case others => exact fun other apart => file?_put_of_ne apart _

/-- Writing either changes nothing but the file under the path, or no file at all. -/
theorem writeFile_cases {path text : String} {after : FileTree} {outcome : Except String Unit}
    (wrote : tree.writeFile path text.toUTF8 = (after, outcome)) :
    (outcome = .ok () ∧ ∃ place, WrittenAt place path text tree after) ∨
      ((∃ reason, outcome = .error reason) ∧ after.file? = tree.file?) := by
  have grown := tree.file?_makeDirectory (Path.parent path)
  unfold writeFile at wrote
  rcases made : tree.makeDirectory (Path.parent path) with ⟨way, whole⟩
  rw [made] at grown wrote
  -- The directories on the way are made first, which changes no file even if it fails.
  cases whole with
  | false =>
      obtain ⟨rfl, rfl⟩ := Prod.mk.inj wrote
      exact .inr ⟨⟨_, rfl⟩, grown⟩
  | true =>
      dsimp only at wrote
      cases fits : way.placeForFile? path with
      | none =>
          rw [fits] at wrote
          obtain ⟨rfl, rfl⟩ := Prod.mk.inj wrote
          exact .inr ⟨⟨_, rfl⟩, grown⟩
      | some place =>
          rw [fits] at wrote
          obtain ⟨rfl, rfl⟩ := Prod.mk.inj wrote
          obtain ⟨leads, holds, others⟩ := writtenAt_put fits
          refine .inl ⟨rfl, place, leads, holds, fun other apart => ?_⟩
          rw [others other apart, grown]

end FileTree

end DataLayer
