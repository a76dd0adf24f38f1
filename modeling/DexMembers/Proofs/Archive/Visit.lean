import DexMembers.Archive.Reader

/-!
# Visiting the entries of an archive

What the visit of one entry adds to an archive depends on the end of its name and, for an image, on
its content.
-/

set_option autoImplicit false

namespace DexMembers.Archive

theorem isDirectoryName_iff {name : String} :
    isDirectoryName name = true ↔ ['/'] <:+ name.toList ∨ ['\\'] <:+ name.toList := by
  have ends : ∀ mark, [mark] <:+ name.toList ↔ name.toList.getLast? = some mark := by
    intro mark
    rw [List.getLast?_eq_some_iff]
    exact exists_congr fun _ => eq_comm
  rw [ends, ends, isDirectoryName]
  cases name.toList.getLast? with
  | none => simp
  | some c => simp

theorem isImageName_iff {name : String} :
    isImageName name = true ↔ ".dex".toList <:+ name.toList := by
  rw [isImageName, List.isSuffixOf_iff_suffix]

theorem isDirectoryName_of_isImageName {name : String} (image : isImageName name = true) :
    isDirectoryName name = false := by
  obtain ⟨front, form⟩ := isImageName_iff.mp image
  have last : name.toList.getLast? = some 'x' := by
    rw [← form, List.getLast?_append]
    rfl
  rw [isDirectoryName, last]
  rfl

theorem visit_stored {bytes : List UInt8} {entry : DirectoryEntry} (archive : Archive)
    (start : Nat) (stored : List UInt8) (found : contentStart bytes entry = .ok start)
    (named : (isDirectoryName entry.name, isImageName entry.name) = (false, true))
    (plain : (entry.encrypted, entry.locked, entry.compression) = (false, false, 0))
    (there : (bytes.drop start).take entry.storedSize = stored)
    (checked : Checksum.crc32 stored = entry.checksum) :
    visit bytes archive entry = .ok {
      fileCount := archive.fileCount + 1
      images := archive.images ++ [{ name := entry.name, content := stored }] } := by
  simp only [Prod.mk.injEq] at named plain
  simp [visit, found, named, content, plain, unpacker?, there, checked, Except.map]

theorem visit_of_not_image {bytes : List UInt8} {entry : DirectoryEntry} (archive : Archive)
    {start : Nat} (found : contentStart bytes entry = .ok start)
    (other : isImageName entry.name = false) :
    visit bytes archive entry = .ok { archive with
      fileCount := archive.fileCount + if isDirectoryName entry.name then 0 else 1 } := by
  rw [visit, found]
  dsimp only
  cases isDirectoryName entry.name <;> simp [other]

theorem visitAll_congr {bytes other : List UInt8} {entries : List DirectoryEntry}
    (same : ∀ entry ∈ entries, ∀ archive, visit other archive entry = visit bytes archive entry)
    (archive : Archive) : visitAll other archive entries = visitAll bytes archive entries := by
  induction entries generalizing archive with
  | nil => rfl
  | cons entry entries ih =>
      obtain ⟨first, rest⟩ := List.forall_mem_cons.mp same
      rw [visitAll, visitAll, first archive]
      cases visit bytes archive entry with
      | error error => rfl
      | ok archive => exact ih rest archive

end DexMembers.Archive
