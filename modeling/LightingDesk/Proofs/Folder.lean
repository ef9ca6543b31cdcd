import Mathlib.Data.String.Basic
import LightingDesk.Folder
/-!
A file that was written is found again at its path.
-/

namespace LightingDesk

theorem ok_of_bind {ε α β : Type} {result : Except ε α} {next : α → Except ε β} {value : β}
    (bound : (result >>= next) = .ok value) :
    ∃ first, result = .ok first ∧ next first = .ok value := by
  cases result with
  | error => cases bound
  | ok first => exact ⟨first, rfl, bound⟩

/-! ### The parts of a path -/

namespace Path

/-- The separator is one character of one byte. -/
theorem slash : String.Pos.Raw.get "/" 0 = '/' ∧ String.Pos.Raw.next "/" 0 = ⟨1⟩ ∧
    String.Pos.Raw.atEnd "/" ⟨1⟩ = true ∧ '/'.utf8Size = 1 := by
  decide

/-- The part in work is behind what was split off, and in front of the rest of the characters. -/
theorem splitOnAux_slash (before taken rest : List Char) (parts : List String) :
    String.splitOnAux (String.ofList (before ++ taken ++ rest)) "/" ⟨String.utf8Len before⟩
        ⟨String.utf8Len (before ++ taken)⟩ 0 parts =
      parts.reverse ++ (List.splitOnPPrepend (· == '/') rest taken.reverse).map String.ofList := by
  induction rest generalizing before taken parts with
  | nil =>
      have part := String.extract_of_valid before taken []
      have ended := String.atEnd_of_valid (before ++ taken) []
      rw [← String.utf8Len_append] at part
      rw [String.splitOnAux, if_pos (ended.2 rfl), part]
      simp
  | cons c rest ih =>
      have part := String.extract_of_valid before taken (c :: rest)
      have behind := String.next_of_valid (before ++ taken) c rest
      have inside := String.atEnd_of_valid (before ++ taken) (c :: rest)
      obtain ⟨mark, width, ended, size⟩ := slash
      rw [← String.utf8Len_append] at part
      rw [String.splitOnAux, if_neg fun ended => List.cons_ne_nil _ _ (inside.1 ended),
        String.get_of_valid, List.headD_cons, mark]
      by_cases same : c = '/'
      · subst same
        have next := ih (before ++ taken ++ ['/']) [] (String.ofList taken :: parts)
        have place : (String.Pos.Raw.mk (String.utf8Len (before ++ taken) + 1)).unoffsetBy ⟨1⟩ =
            ⟨String.utf8Len (before ++ taken)⟩ := rfl
        have through : String.utf8Len (before ++ taken ++ ['/']) =
            String.utf8Len (before ++ taken) + 1 := String.utf8Len_append _ _
        simp only [List.append_nil, List.append_assoc (before ++ taken), List.singleton_append,
          through] at next
        simp only [beq_self_eq_true, if_true, behind, width, ended, size, place, part, next]
        simp [List.splitOnPPrepend_cons_eq_if]
      · have next := ih before (taken ++ [c]) parts
        have place : (String.Pos.Raw.mk (String.utf8Len (before ++ taken))).unoffsetBy 0 =
            ⟨String.utf8Len (before ++ taken)⟩ := rfl
        have through : String.utf8Len (before ++ (taken ++ [c])) =
            String.utf8Len (before ++ taken) + c.utf8Size := by
          simp [Nat.add_assoc]
        rw [if_neg (by simpa using same), place, behind, ← through]
        simpa [List.splitOnPPrepend_cons_eq_if, same] using next

theorem splitOn_slash (path : String) :
    path.splitOn "/" = (path.toList.splitOn '/').map String.ofList := by
  have parts := splitOnAux_slash [] [] path.toList []
  have some : ("/" == "") = false := by decide
  rw [String.splitOn, some]
  simpa [List.splitOn_eq_splitOnP] using parts

/-- Only a separator at the end is followed by an empty part. -/
theorem getLast?_splitOn {chars : List Char} (ends : (chars.splitOn '/').getLast? = some []) :
    chars = [] ∨ chars.getLast? = some '/' := by
  induction chars with
  | nil => exact .inl rfl
  | cons c rest ih =>
      right
      rw [List.splitOn_cons_eq_if_modifyHead] at ends
      have parts := List.splitOn_ne_nil '/' rest
      by_cases slash : c = '/'
      · subst slash
        rw [if_pos (by decide), List.getLast?_cons_of_ne_nil parts] at ends
        rcases ih ends with rfl | last
        · rfl
        · rw [List.getLast?_cons, last]
          rfl
      · rw [if_neg (by simpa using slash)] at ends
        cases shape : rest.splitOn '/' with
        | nil => exact absurd shape parts
        | cons first others =>
            rw [shape, List.modifyHead_cons] at ends
            cases others with
            | nil => cases ends
            | cons second others =>
                rw [shape] at ih
                rcases ih ends with rfl | last
                · cases shape
                · rw [List.getLast?_cons, last]
                  rfl

end Path

namespace Folder

variable {folder later : Folder} {path : String} {bytes : ByteArray}

/-- The path of a file has no empty part at its end. -/
theorem namedParts_eq (noFault : pathFault? path = none) (noSlash : path.endsWith '/' = false) :
    namedParts path = path.splitOn "/" := by
  have some : path.toList ≠ [] := by
    intro none
    rw [String.toList_eq_nil_iff] at none
    simp [none, pathFault?] at noFault
  have named : ∀ part ∈ (path.splitOn "/").reverse.head?, part.isEmpty = false := by
    intro part (last : _ = _)
    rw [List.head?_reverse, Path.splitOn_slash, List.getLast?_map] at last
    obtain ⟨chars, ending, rfl⟩ := Option.map_eq_some_iff.1 last
    rw [← Bool.not_eq_true, String.isEmpty_iff, String.ofList_eq_empty_iff]
    rintro rfl
    rw [String.endsWith_char_eq_getLast?] at noSlash
    rcases Path.getLast?_splitOn ending with none | slash
    · exact some none
    · rw [slash] at noSlash
      cases noSlash
  rw [namedParts]
  cases shape : (path.splitOn "/").reverse with
  | nil => rw [List.dropWhile_nil, ← shape, List.reverse_reverse]
  | cons part others =>
      rw [shape] at named
      rw [List.dropWhile_cons, named part rfl, if_neg Bool.false_ne_true, ← shape,
        List.reverse_reverse]

/-- A folder with other bytes at a place. -/
def put (folder : Folder) (place : Place) (bytes : ByteArray) : Folder :=
  { folder with files := (place, bytes) :: folder.files.filter fun file => file.1 != place }

theorem entry?_put (folder : Folder) (place : Place) (bytes : ByteArray) :
    entry? (folder.put place bytes) place = some (.file bytes) := by
  unfold entry? put
  simp

/-- A directory has a file inside also when that file was written over. -/
theorem isDirectory_put {place : Place} (isDirectory : folder.isDirectory place = true)
    (target : Place) (bytes : ByteArray) : (folder.put target bytes).isDirectory place = true := by
  simp only [Folder.isDirectory, put, Bool.or_eq_true, List.any_cons, List.any_filter,
    List.any_eq_true] at isDirectory ⊢
  rcases isDirectory with listed | ⟨file, member, inside⟩
  · exact .inl listed
  · by_cases same : file.1 = target
    · exact .inr (.inl (same ▸ inside))
    · exact .inr (.inr ⟨file, member, by simp [same, inside]⟩)

theorem lookup_filter_ne {place target : Place} (other : place ≠ target)
    (files : List (Place × ByteArray)) :
    (files.filter fun file => file.1 != target).lookup place = files.lookup place := by
  induction files with
  | nil => rfl
  | cons file files ih =>
      obtain ⟨here, bytes⟩ := file
      by_cases same : here = target
      · subst same
        rw [List.filter_cons_of_neg (by simp), ih, List.lookup_cons, beq_false_of_ne other]
      · rw [List.filter_cons_of_pos (by simpa using same), List.lookup_cons, List.lookup_cons, ih]

theorem entry?_directory {place : Place} :
    folder.entry? place = some .directory ↔
      folder.files.lookup place = none ∧ folder.isDirectory place = true := by
  unfold entry?
  cases folder.files.lookup place <;> simp

/-- What was a directory is one after a file is put beside it. -/
theorem entry?_put_directory {place target : Place}
    (isDirectory : folder.entry? place = some .directory)
    (noDirectory : folder.isDirectory target = false) (bytes : ByteArray) :
    entry? (folder.put target bytes) place = some .directory := by
  rw [entry?_directory] at isDirectory ⊢
  have other : place ≠ target := by
    rintro rfl
    rw [isDirectory.2] at noDirectory
    cases noDirectory
  refine ⟨?_, isDirectory_put isDirectory.2 target bytes⟩
  rw [put, List.lookup_cons, beq_false_of_ne other, lookup_filter_ne other]
  exact isDirectory.1

theorem follow_put {place next target : Place} {part : String}
    (followed : folder.follow place part = .ok next)
    (noDirectory : folder.isDirectory target = false) (bytes : ByteArray) :
    (folder.put target bytes).follow place part = .ok next := by
  unfold follow at followed
  split at followed
  · cases followed
  · cases followed
  · next isDirectory =>
      unfold follow
      rw [entry?_put_directory isDirectory noDirectory]
      exact followed

/-- A path that leads through directories leads to the same place after a file is put there. -/
theorem foldlM_follow_put {target : Place} (noDirectory : folder.isDirectory target = false)
    (bytes : ByteArray) {parts : List String} {place last : Place}
    (followed : parts.foldlM folder.follow place = .ok last) :
    parts.foldlM (folder.put target bytes).follow place = .ok last := by
  induction parts generalizing place with
  | nil => exact followed
  | cons part parts ih =>
      rw [List.foldlM_cons] at followed ⊢
      obtain ⟨next, here, followed⟩ := ok_of_bind followed
      rw [follow_put here noDirectory]
      exact ih followed

/-- What is written stands where the path leads. -/
theorem write_eq (written : folder.write path bytes = .ok later) :
    ∃ place, folder.followAll path (path.splitOn "/") = .ok place ∧
      folder.isDirectory place = false ∧ later = folder.put place bytes := by
  obtain ⟨directory, inside, written⟩ := ok_of_bind written
  obtain ⟨place, last, written⟩ := ok_of_bind written
  split at written
  · cases written
  · next isFile =>
      rw [Bool.or_eq_true, not_or, Bool.not_eq_true, Bool.not_eq_true] at isFile
      unfold followAll at inside ⊢
      cases fault : pathFault? path with
      | some fault =>
          rw [fault] at inside
          cases inside
      | none =>
          rw [fault] at inside
          have parts := namedParts_eq fault isFile.1
          have some : namedParts path ≠ [] := by simp [parts, Path.splitOn_slash]
          refine ⟨place, ?_, isFile.2, (Except.ok.inj written).symm⟩
          rw [List.getLast?_eq_some_getLast some, Option.getD_some] at last
          rw [← parts, ← List.dropLast_concat_getLast some]
          simp only [List.foldlM_append, inside, bind, Except.bind, List.foldlM_cons, last]
          rfl

theorem find_write (written : folder.write path bytes = .ok later) :
    later.find path = .ok (.file bytes) := by
  obtain ⟨place, followed, noDirectory, rfl⟩ := write_eq written
  have same : (folder.put place bytes).followAll path (path.splitOn "/") = .ok place := by
    unfold followAll at followed ⊢
    split at followed
    · cases followed
    · next noFault =>
        exact foldlM_follow_put noDirectory bytes followed
  rw [find, same]
  simp only [bind, Except.bind, entry?_put]

/-- The bytes of a text are read as that text. -/
theorem text_of_find {text : String} (found : folder.find path = .ok (.file text.toUTF8)) :
    folder.text path = .ok text := by
  have valid : text.toUTF8.IsValidUTF8 := text.isValidUTF8
  rw [Folder.text, found]
  simp only [bind, Except.bind, String.fromUTF8?, dif_pos valid]
  rfl

end Folder

end LightingDesk
