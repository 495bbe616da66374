import Mathlib
import TableSchema.PathResolver

namespace TableSchema

/-! Places that names lead to -/

namespace FileTree

variable {tree : FileTree} {place rest last : List String} {name : String}

-- What is found under a name stands in the listing of the directory.
theorem mem_names_of_find? {entry : Entry} (h : tree.find? (place ++ [name]) = some entry) :
    name ∈ tree.names place := by
  have hlookup : tree.entries.lookup (place ++ [name]) = some entry := by simpa [find?] using h
  obtain ⟨before, after, hentries, -⟩ := List.lookup_eq_some_iff.mp hlookup
  have hmem : (place ++ [name], entry) ∈ tree.entries := by
    rw [hentries]
    exact List.mem_append_right _ List.mem_cons_self
  exact List.mem_filterMap.mpr ⟨_, hmem, by simp⟩

-- Each step leads out of a directory: to the one above, or to what its listing names.
theorem follow_cons_cases (h : tree.follow place (name :: rest) = .ok (some last)) :
    name = ".." ∧ tree.follow place.dropLast rest = .ok (some last) ∨
      name ≠ ".." ∧ tree.listing? place = some (tree.names place) ∧ name ∈ tree.names place ∧
        tree.follow (place ++ [name]) rest = .ok (some last) := by
  rw [follow] at h
  split at h
  · cases h
  · split at h
    · cases h
    · rename_i hdirectory
      split at h
      · rename_i hup
        exact .inl ⟨hup, h⟩
      · rename_i hdown
        split at h
        · cases h
        · split at h
          · cases h
          · rename_i hfound
            obtain ⟨entry, hentry⟩ :=
              Option.ne_none_iff_exists'.mp (mt Option.isNone_iff_eq_none.mpr hfound)
            have hlisting : tree.listing? place = some (tree.names place) := by
              rw [listing?, not_not.mp hdirectory]
            exact .inr ⟨hdown, hlisting, mem_names_of_find? hentry, h⟩

end FileTree

namespace Location

-- Where names lead somewhere, each of them is listed as it is written.
theorem isListed_of_follow {tree : FileTree} {place names last : List String}
    (h : tree.follow place names = .ok (some last)) : isListed tree place names = true := by
  induction names generalizing place with
  | nil => rfl
  | cons name rest ih =>
      rw [isListed]
      rcases FileTree.follow_cons_cases h with ⟨hup, hrest⟩ | ⟨hdown, hlisting, hname, hrest⟩
      · rw [if_pos hup]
        exact ih hrest
      · have hcontains : (tree.names place).contains name = true := by simpa using hname
        rw [if_neg hdown, hlisting]
        simp only [hcontains, ih hrest, Bool.and_self]

theorem exists_follow_of_exists? {tree : FileTree} {location : Location}
    (h : location.exists? tree = .ok true) :
    ∃ last, tree.follow (location.start tree) location.names = .ok (some last) := by
  simp only [exists?, find?, place?] at h
  split at h
  · cases h
  · split at h
    · cases h
    · cases hfollow : tree.follow (location.start tree) location.names with
      | error fault =>
          rw [hfollow] at h
          cases h
      | ok found =>
          cases found with
          | none =>
              rw [hfollow] at h
              cases h
          | some last => exact ⟨last, rfl⟩

theorem matchesCase_of_exists? {tree : FileTree} {location : Location}
    (h : location.exists? tree = .ok true) : location.matchesCase tree = true := by
  obtain ⟨last, hfollow⟩ := exists_follow_of_exists? h
  exact isListed_of_follow hfollow

end Location

namespace PathResolver

-- Names in a tree of files are compared exactly, and every directory can be listed.
-- The check of the letter case then finds nothing that the look-up has not found.
theorem pathExists_caseSensitive (substitutions : List Substitution) (files : FileTree)
    (path : String) :
    pathExists { substitutions, caseSensitive := true } files path =
      pathExists { substitutions, caseSensitive := false } files path := by
  have hresolve : resolve { substitutions, caseSensitive := true } path =
      resolve { substitutions, caseSensitive := false } path := rfl
  rw [pathExists, pathExists, hresolve]
  cases resolve { substitutions, caseSensitive := false } path with
  | error fault => rfl
  | ok resolved =>
      cases hexists : (Location.ofText resolved).exists? files with
      | error fault => cases fault <;> simp [hexists, bind, Except.bind]
      | ok found =>
          cases found with
          | false => simp [hexists, bind, Except.bind]
          | true =>
              have hcase := Location.matchesCase_of_exists? hexists
              simp [hexists, hcase, bind, Except.bind]

end PathResolver

end TableSchema
