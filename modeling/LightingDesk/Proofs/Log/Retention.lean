import LightingDesk.Log.Retention
import Mathlib.Data.List.Nodup

/-!
What a clean-up of a log directory removes. Logs are told by their names, `LogFile.isLogName_iff`. The
oldest of them go until no more are left than are to be kept, and nothing else goes:
`Log.cleanUp_removes_oldest`.
-/

namespace LightingDesk

/-! ### Names of logs -/

namespace Path

variable {separator : Char} {chars before after : List Char}

theorem splitLast?_of_not_mem (absent : separator ∉ chars) : splitLast? separator chars = none := by
  induction chars with
  | nil => rfl
  | cons c rest ih =>
    rw [List.mem_cons, not_or] at absent
    simp only [splitLast?, ih absent.2, if_neg (Ne.symm absent.1)]

theorem splitLast?_append (before : List Char) (absent : separator ∉ after) :
    splitLast? separator (before ++ separator :: after) = some (before, after) := by
  induction before with
  | nil => simp only [List.nil_append, splitLast?, splitLast?_of_not_mem absent, if_true]
  | cons c rest ih => simp only [List.cons_append, splitLast?, ih]

theorem eq_append_of_splitLast? (split : splitLast? separator chars = some (before, after)) :
    chars = before ++ separator :: after := by
  induction chars generalizing before with
  | nil => simp [splitLast?] at split
  | cons c rest ih =>
    rw [splitLast?] at split
    split at split
    next first last found =>
      obtain ⟨rfl, rfl⟩ : c :: first = before ∧ last = after := by simpa using split
      exact congrArg (c :: ·) (ih found)
    next =>
      split at split
      next same =>
        obtain ⟨rfl, rfl⟩ : [] = before ∧ rest = after := by simpa using split
        rw [same, List.nil_append]
      next => simp at split

end Path

namespace LogFile

/-- The names of logs begin and end alike and hold anything between. -/
theorem isLogName_iff {name : String} :
    isLogName name = true ↔ ∃ middle, name = namePrefix ++ middle ++ "." ++ extension := by
  have undotted : '.' ∉ namePrefix.toList := by decide
  rw [isLogName, Bool.and_eq_true, List.isPrefixOf_iff_prefix, beq_iff_eq]
  constructor
  · rintro ⟨⟨rest, joined⟩, ending⟩
    unfold Path.extensionOf? at ending
    split at ending
    next c stem last split =>
      have whole := joined.trans (Path.eq_append_of_splitLast? split)
      have last_eq : last = extension.toList := by
        rw [← Option.some.inj ending, String.toList_ofList]
      -- the dot is not in the first part, so it stands behind it
      rcases List.append_eq_append_iff.1 whole with ⟨middle, -, rfl⟩ | ⟨middle, start, behind⟩
      · refine ⟨String.ofList middle, String.toList_inj.1 ?_⟩
        rw [← joined, last_eq]
        simp
      · cases middle with
        | nil =>
          refine ⟨"", String.toList_inj.1 ?_⟩
          rw [← joined, ← List.nil_append rest, ← behind, last_eq]
          simp
        | cons dot more =>
          rw [start] at undotted
          simp_all
    next => simp at ending
  · rintro ⟨middle, rfl⟩
    refine ⟨by simp, ?_⟩
    have parts : (namePrefix ++ middle ++ "." ++ extension).toList =
        (namePrefix.toList ++ middle.toList) ++ '.' :: extension.toList := by simp
    rw [Path.extensionOf?, parts, Path.splitLast?_append _ (by decide)]
    rfl

variable {ν : Type} [FileName ν] {file other third : LogFile ν}

theorem precedes_iff : file.precedes other = true ↔ file.modified < other.modified ∨
    file.modified = other.modified ∧ FileName.precedes file.name other.name = true := by
  simp [precedes]

theorem precedes_total (file other : LogFile ν) :
    (file.precedes other || other.precedes file) = true := by
  have names := FileName.precedes_total file.name other.name
  rw [Bool.or_eq_true] at names ⊢
  rw [precedes_iff, precedes_iff]
  rcases Int.lt_trichotomy file.modified other.modified with older | same | newer
  · exact .inl (.inl older)
  · exact names.imp (fun before => .inr ⟨same, before⟩) fun before => .inr ⟨same.symm, before⟩
  · exact .inr (.inl newer)

theorem precedes_trans (file other third : LogFile ν) (before : file.precedes other = true)
    (after : other.precedes third = true) : file.precedes third = true := by
  have names := FileName.precedes_trans file.name other.name third.name
  rw [precedes_iff] at before after ⊢
  rcases before with before | ⟨alike, before⟩ <;> rcases after with after | ⟨same, after⟩
  · left; omega
  · left; omega
  · left; omega
  · exact .inr ⟨alike.trans same, names before after⟩

end LogFile

/-! ### Clean-ups -/

namespace Log

variable {ν : Type} [FileName ν] {limit : Nat} {files : List (LogFile ν)} {file : LogFile ν}

/-- The log files that may stay, oldest first. -/
def remaining (limit : Nat) (files : List (LogFile ν)) : List (LogFile ν) :=
  let logs := files.filter LogFile.isLog
  (logs.mergeSort LogFile.precedes).drop (logs.length - limit)

theorem surplus_append_remaining (limit : Nat) (files : List (LogFile ν)) :
    surplus limit files ++ remaining limit files =
      (files.filter LogFile.isLog).mergeSort LogFile.precedes :=
  List.take_append_drop ..

theorem surplus_append_remaining_perm (limit : Nat) (files : List (LogFile ν)) :
    (surplus limit files ++ remaining limit files).Perm (files.filter LogFile.isLog) :=
  surplus_append_remaining limit files ▸ List.mergeSort_perm ..

theorem mem_surplus_or_remaining : file ∈ surplus limit files ∨ file ∈ remaining limit files ↔
    file ∈ files ∧ file.isLog = true := by
  rw [← List.mem_append, (surplus_append_remaining_perm limit files).mem_iff, List.mem_filter]

/-- Whatever goes comes before whatever stays. -/
theorem precedes_of_mem {gone kept : LogFile ν} (goes : gone ∈ surplus limit files)
    (stays : kept ∈ remaining limit files) : gone.precedes kept = true := by
  have sorted := List.pairwise_mergeSort LogFile.precedes_trans LogFile.precedes_total
    (files.filter LogFile.isLog)
  rw [← surplus_append_remaining limit, List.pairwise_append] at sorted
  exact sorted.2.2 gone goes kept stays

/-- Any order of the logs tells which of them go, if it is the only one. -/
theorem surplus_eq_take {ordered : List (LogFile ν)} (same : (files.filter LogFile.isLog).Perm ordered)
    (sorted : ordered.Pairwise fun file other => file.precedes other = true)
    (only : ∀ file ∈ ordered, ∀ other ∈ ordered, file.precedes other = true →
      other.precedes file = true → file = other) :
    surplus limit files = ordered.take (ordered.length - limit) := by
  have permuted := (List.mergeSort_perm (files.filter LogFile.isLog) LogFile.precedes).trans same
  have unique : (files.filter LogFile.isLog).mergeSort LogFile.precedes = ordered := by
    apply permuted.eq_of_pairwise _
      (List.pairwise_mergeSort LogFile.precedes_trans LogFile.precedes_total _) sorted
    intro file other listed member
    exact only file (permuted.mem_iff.1 listed) other member
  rw [surplus, unique, same.length_eq]

theorem length_remaining (limit : Nat) (files : List (LogFile ν)) :
    (remaining limit files).length = min (files.filter LogFile.isLog).length limit := by
  rw [remaining, List.length_drop, List.length_mergeSort]
  omega

section

variable (distinct : files.Nodup)
include distinct

theorem nodup_surplus_append_remaining (limit : Nat) :
    (surplus limit files ++ remaining limit files).Nodup :=
  (surplus_append_remaining_perm limit files).nodup_iff.2 (distinct.filter _)

variable [DecidableEq ν]

theorem mem_remaining_iff : file ∈ remaining limit files ↔
    file ∈ (cleanUp limit files).2 ∧ file.isLog = true := by
  have apart := List.nodup_append.1 (nodup_surplus_append_remaining distinct limit)
  have either : file ∈ surplus limit files ∨ file ∈ remaining limit files ↔ _ :=
    mem_surplus_or_remaining
  simp only [cleanUp, List.mem_filter, Bool.not_eq_true', List.contains_eq_mem,
    decide_eq_false_iff_not]
  constructor
  · intro stays
    have listed := either.1 (.inr stays)
    exact ⟨⟨listed.1, fun goes => apart.2.2 file goes file stays rfl⟩, listed.2⟩
  · rintro ⟨⟨listed, spared⟩, log⟩
    exact (either.2 ⟨listed, log⟩).resolve_left spared

theorem length_logs_cleanUp : ((cleanUp limit files).2.filter LogFile.isLog).length =
    min (files.filter LogFile.isLog).length limit := by
  have left : ((cleanUp limit files).2.filter LogFile.isLog).Nodup :=
    (distinct.filter _).filter _
  have stays := (List.nodup_append.1 (nodup_surplus_append_remaining distinct limit)).2.1
  have same : ((cleanUp limit files).2.filter LogFile.isLog).Perm (remaining limit files) := by
    refine (List.perm_ext_iff_of_nodup left stays).2 fun file => ?_
    rw [mem_remaining_iff distinct, List.mem_filter]
  rw [same.length_eq, length_remaining]

theorem length_cleanUp_add_removed :
    (cleanUp limit files).2.length + (cleanUp limit files).1 = files.length := by
  have goes := (List.nodup_append.1 (nodup_surplus_append_remaining distinct limit)).1
  have same : (files.filter fun file => (surplus limit files).contains file).Perm
      (surplus limit files) := by
    refine (List.perm_ext_iff_of_nodup (distinct.filter _) goes).2 fun file => ?_
    rw [List.mem_filter, List.contains_iff_mem, and_iff_right_iff_imp]
    exact fun gone => (mem_surplus_or_remaining.1 (.inl gone)).1
  rw [List.length_eq_length_filter_add (l := files) fun file => (surplus limit files).contains file,
    same.length_eq, Nat.add_comm]
  rfl

end

theorem cleanUp_of_few [DecidableEq ν] (few : (files.filter LogFile.isLog).length ≤ limit) :
    cleanUp limit files = (0, files) := by
  have none : surplus limit files = [] := by
    rw [surplus, Nat.sub_eq_zero_of_le few, List.take_zero]
  simp [cleanUp, none]

/-- What a clean-up that keeps so many logs makes of a directory, where it removes so many files and
these are left. -/
structure Tidies [DecidableEq ν] (limit : Nat) (files : List (LogFile ν)) (removed : Nat)
    (left : List (LogFile ν)) : Prop where
  /-- The files that are left are as they were. -/
  part : left.Sublist files
  onlyLogs : ∀ file ∈ files, file ∉ left → file.isLog = true
  kept : (left.filter LogFile.isLog).length = min (files.filter LogFile.isLog).length limit
  counted : left.length + removed = files.length
  oldest : ∀ gone ∈ files, gone ∉ left → ∀ log ∈ left, log.isLog = true →
    gone.modified < log.modified ∨
      gone.modified = log.modified ∧ FileName.precedes gone.name log.name = true
  settled : cleanUp limit left = (0, left)

/-- In a directory in which names are distinct, a clean-up removes nothing but logs, and the oldest of
them, until as many are left as may be. A file is a log by its name alone: it begins with `actflow-` and
ends with `.log`. -/
theorem cleanUp_removes_oldest [DecidableEq ν] (limit : Nat) (distinct : (files.map LogFile.name).Nodup) :
    (∀ file : LogFile ν, file.isLog = true ↔ ∃ middle, FileName.text? file.name =
      some (LogFile.namePrefix ++ middle ++ "." ++ LogFile.extension)) ∧
    Tidies limit files (cleanUp limit files).1 (cleanUp limit files).2 := by
  have files_distinct : files.Nodup := .of_map _ distinct
  have goes : ∀ file ∈ files, file ∉ (cleanUp limit files).2 → file ∈ surplus limit files := by
    intro file listed gone
    by_contra spared
    exact gone (List.mem_filter.2 ⟨listed, by simpa using spared⟩)
  refine ⟨fun file => ?_, List.filter_sublist, ?_, length_logs_cleanUp files_distinct,
    length_cleanUp_add_removed files_distinct, ?_, ?_⟩
  · simp only [LogFile.isLog, Option.any_eq_true, LogFile.isLogName_iff]
    constructor
    · rintro ⟨name, named, middle, rfl⟩
      exact ⟨middle, named⟩
    · rintro ⟨middle, named⟩
      exact ⟨_, named, middle, rfl⟩
  · intro file listed gone
    exact (mem_surplus_or_remaining.1 (.inl (goes file listed gone))).2
  · intro gone listed removed log stays isLog
    exact LogFile.precedes_iff.1 (precedes_of_mem (goes gone listed removed)
      ((mem_remaining_iff files_distinct).2 ⟨stays, isLog⟩))
  · apply cleanUp_of_few
    rw [length_logs_cleanUp files_distinct]
    exact Nat.min_le_right ..

/-- Two logs of one age, an older one, and two files that are older still but no logs: the name of the
last one is not a text. -/
def drawer : List (LogFile RawName) :=
  [⟨⟨"actflow-b.log".toUTF8.toList⟩, 2⟩, ⟨⟨"actflow-a.log".toUTF8.toList⟩, 2⟩,
    ⟨⟨"actflow-c.log".toUTF8.toList⟩, 1⟩, ⟨⟨"actflow-d.txt".toUTF8.toList⟩, 0⟩,
    ⟨⟨"actflow-".toUTF8.toList ++ 255 :: ".log".toUTF8.toList⟩, 0⟩]

theorem cleanUp_removes_oldest_drawer : (drawer.map LogFile.name).Nodup ∧
    Tidies 1 drawer 2 (drawer.take 1 ++ drawer.drop 3) := by
  have distinct : (drawer.map LogFile.name).Nodup := by decide +kernel
  have logs : (drawer.filter LogFile.isLog).Perm (drawer.take 3).reverse := by
    have listed : drawer.filter LogFile.isLog = drawer.take 3 := by decide +kernel
    exact listed ▸ (List.reverse_perm _).symm
  have cleaned : cleanUp 1 drawer = (2, drawer.take 1 ++ drawer.drop 3) := by
    rw [cleanUp, surplus_eq_take logs (by decide +kernel) (by decide +kernel)]
    decide +kernel
  have tidy := (cleanUp_removes_oldest 1 distinct).2
  rw [cleaned] at tidy
  exact ⟨distinct, tidy⟩

end Log

end LightingDesk
