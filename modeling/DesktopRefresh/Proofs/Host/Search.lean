import DesktopRefresh.Host
import DesktopRefresh.Proofs.System
import DesktopRefresh.Proofs.Trigger

/-!
# Tools that are found and cannot be started

A lookup and a start do not resolve a program in the same way, and a program can be found of which no file
is started. This happens in three ways and in no other: a path leads to a regular file that nobody may
execute; a start gives up at a directory of the search path that the lookup passes over; or only a lookup
takes a tilde for the home directory. An execution skips a tool that is missing or not executable unless it
is misjudged in one of these ways, and then its trigger fails (`lookup_misjudges`).
-/

namespace DesktopRefresh

/-! ## Names that are too long -/

namespace Path

theorem isAbsolute_of_not_mem {name : Bytes} (h : Bytes.slash ∉ name) : isAbsolute name = false := by
  cases name with
  | nil => rfl
  | cons b name =>
    rw [List.mem_cons, not_or] at h
    exact beq_eq_false_iff_ne.mpr fun hb => h.1 (Option.some.inj hb).symm

theorem length_le_join (dir : Bytes) {name : Bytes} (h : Bytes.slash ∉ name) :
    dir.length ≤ (join dir name).length := by
  rw [join_of_relative dir (isAbsolute_of_not_mem h), List.append_assoc, List.length_append]
  exact Nat.le_add_right ..

theorem mem_splitAt_join (dir : Bytes) {name : Bytes} (h : Bytes.slash ∉ name) :
    name ∈ Bytes.splitAt Bytes.slash (join dir name) := by
  have hs (front : Bytes) : name ∈ Bytes.splitAt Bytes.slash (front ++ Bytes.slash :: name) := by
    rw [Bytes.splitAt_append, Bytes.splitAt_of_not_mem h]
    exact List.mem_append_right _ (List.mem_singleton_self name)
  rw [join_of_relative dir (isAbsolute_of_not_mem h), separator]
  split
  · next hd =>
    rw [List.append_nil]
    obtain rfl | hd := hd
    · rw [List.nil_append, Bytes.splitAt_of_not_mem h]
      exact List.mem_singleton_self name
    · obtain ⟨front, rfl⟩ := List.getLast?_eq_some_iff.mp hd
      rw [List.append_assoc]
      exact hs front
  · rw [List.append_assoc]
    exact hs dir

end Path

namespace FileTree

section
variable (t : FileTree) (purpose : Purpose) {name : Bytes} (hn : longestName < name.length)
include hn

/-- On the way down such a name is still to come, or it was an error. -/
theorem descend_tooLong (slashed : Bool) (loc : Location) {names : List Bytes} (hm : name ∈ names) :
    (∃ e, descend t purpose slashed loc names = .stop (.error e)) ∨
      ∃ loc' todo, descend t purpose slashed loc names = .jump loc' todo ∧ name ∈ todo.names := by
  induction names generalizing loc with
  | nil => cases hm
  | cons first rest ih =>
    have hr (hf : first.length ≤ longestName) : name ∈ rest := by
      refine List.mem_of_ne_of_mem (fun he => ?_) hm
      rw [he] at hn
      exact absurd hn (Nat.not_lt.mpr hf)
    unfold descend
    by_cases hh : first = Path.here
    · rw [if_pos hh]
      exact ih loc (hr (by rw [hh]; decide))
    by_cases hu : first = Path.up
    · rw [if_neg hh, if_pos hu]
      exact ih loc.dropLast (hr (by rw [hu]; decide))
    by_cases hl : first.length > longestName
    · rw [if_neg hh, if_neg hu, if_pos hl]
      exact .inl ⟨_, rfl⟩
    have hm := hr (Nat.not_lt.mp hl)
    have he : rest.isEmpty = false := List.isEmpty_eq_false_iff.mpr (List.ne_nil_of_mem hm)
    simp only [if_neg hh, if_neg hu, if_neg hl, he, Bool.false_eq_true, if_false]
    cases t.entry? (loc ++ [first]) with
    | none => exact .inl ⟨_, rfl⟩
    | some entry =>
      cases entry with
      | directory mode => exact ih _ hm
      | link target => exact .inr ⟨_, _, rfl, List.mem_append_right _ hm⟩
      | file mode content => exact .inl ⟨_, rfl⟩
      | program p => exact .inl ⟨_, rfl⟩
      | device d => exact .inl ⟨_, rfl⟩

theorem walk_tooLong (links : Nat) (loc : Location) {todo : Route} (hm : name ∈ todo.names) :
    ∃ e, walk t purpose links loc todo = .error e := by
  induction links generalizing loc todo with
  | zero =>
    unfold walk
    obtain ⟨e, h⟩ | ⟨loc', todo', h, -⟩ := descend_tooLong t purpose hn todo.slashed loc hm
    · exact ⟨e, by rw [h]⟩
    · exact ⟨.linkLoop, by rw [h]⟩
  | succ links ih =>
    unfold walk
    obtain ⟨e, h⟩ | ⟨loc', todo', h, hm'⟩ := descend_tooLong t purpose hn todo.slashed loc hm
    · exact ⟨e, by rw [h]⟩
    · rw [h]
      exact ih loc' hm'

theorem find_tooLong (cwd : Location) {path : Bytes} (hm : name ∈ Bytes.splitAt Bytes.slash path) :
    ∃ e, t.find purpose cwd path = .error e := by
  have hr : name ∈ (Route.ofPath path).names := by
    refine List.mem_filter.mpr ⟨hm, ?_⟩
    rw [Bool.not_eq_true', List.isEmpty_eq_false_iff]
    rintro rfl
    exact Nat.not_lt_zero _ hn
  unfold find
  split
  · exact ⟨_, rfl⟩
  · split
    · exact ⟨_, rfl⟩
    · exact walk_tooLong t purpose hn _ _ hr

end

theorem stat_of_long (t : FileTree) (cwd : Location) {path : Bytes} (h : longestPath < path.length) :
    ∃ e, t.stat cwd path = .error e := by
  have hf : t.find (.visit true) cwd path = .error .nameTooLong := by
    have hn : ¬ path.isEmpty = true := by
      rw [List.isEmpty_iff]
      rintro rfl
      exact Nat.not_lt_zero _ h
    rw [find, if_neg hn, if_pos h]
  exact ⟨.nameTooLong, by rw [stat, locate, hf]; rfl⟩

theorem stat_tooLong (t : FileTree) {name : Bytes} (hn : longestName < name.length) (cwd : Location)
    {path : Bytes} (hm : name ∈ Bytes.splitAt Bytes.slash path) : ∃ e, t.stat cwd path = .error e := by
  obtain ⟨e, h⟩ := find_tooLong t (.visit true) hn cwd hm
  exact ⟨e, by rw [stat, locate, h]; rfl⟩

end FileTree

/-! ## Trying paths in order -/

/-- A search goes on to the next path after such an error. -/
def Errno.IsPassed (e : Errno) : Prop := e = .accessDenied ∨ e = .noEntry ∨ e = .notDirectory

namespace Surroundings

section
variable {α β : Type} {attempt : Bytes → Except Errno α} {attempt' : Bytes → Except Errno β}

/-- The attempt at a path does not end a search. -/
def Passes (attempt : Bytes → Except Errno α) (path : Bytes) : Prop :=
  ∃ e : Errno, e.IsPassed ∧ attempt path = .error e

theorem firstOf_cons_passed {path : Bytes} {e : Errno} (h : attempt path = .error e) (hp : e.IsPassed)
    (denied : Bool) (last : Errno) (paths : List Bytes) :
    firstOf attempt denied last (path :: paths) =
      firstOf attempt (denied || e == .accessDenied) (if e = .accessDenied then last else e) paths := by
  obtain rfl | rfl | rfl := hp
  · rw [firstOf, h, beq_self_eq_true, Bool.or_true, if_pos rfl]
  · rw [firstOf, h, if_neg (by decide), beq_false_of_ne (by decide), Bool.or_false]
  · rw [firstOf, h, if_neg (by decide), beq_false_of_ne (by decide), Bool.or_false]

theorem firstOf_cons_stop {path : Bytes} (h : ¬ Passes attempt path) (denied : Bool) (last : Errno)
    (paths : List Bytes) : firstOf attempt denied last (path :: paths) = attempt path := by
  unfold firstOf
  split
  · next he => exact absurd ⟨_, .inl rfl, he⟩ h
  · next he => exact absurd ⟨_, .inr (.inl rfl), he⟩ h
  · next he => exact absurd ⟨_, .inr (.inr rfl), he⟩ h
  · rfl

theorem firstOf_of_passed {paths : List Bytes} (h : ∀ path ∈ paths, Passes attempt path) (denied : Bool)
    (last : Errno) : ∃ e, firstOf attempt denied last paths = .error e := by
  induction paths generalizing denied last with
  | nil => exact ⟨_, rfl⟩
  | cons path paths ih =>
    obtain ⟨e, hp, he⟩ := h path List.mem_cons_self
    rw [firstOf_cons_passed he hp]
    exact ih (fun p hm => h p (List.mem_cons_of_mem _ hm)) _ _

theorem firstOf_of_stop {front back : List Bytes} {path : Bytes} (hf : ∀ p ∈ front, Passes attempt p)
    (hs : ¬ Passes attempt path) (denied : Bool) (last : Errno) :
    firstOf attempt denied last (front ++ path :: back) = attempt path := by
  induction front generalizing denied last with
  | nil => exact firstOf_cons_stop hs denied last back
  | cons p front ih =>
    obtain ⟨e, hp, he⟩ := hf p List.mem_cons_self
    rw [List.cons_append, firstOf_cons_passed he hp]
    exact ih (fun q hm => hf q (List.mem_cons_of_mem _ hm)) _ _

/-- All paths are passed over, or there is a first one that is not. -/
theorem passed_or_stop (attempt : Bytes → Except Errno α) (paths : List Bytes) :
    (∀ path ∈ paths, Passes attempt path) ∨
      ∃ front path back, paths = front ++ path :: back ∧ (∀ p ∈ front, Passes attempt p) ∧
        ¬ Passes attempt path := by
  induction paths with
  | nil => exact .inl (List.forall_mem_nil _)
  | cons path paths ih =>
    by_cases hs : Passes attempt path
    · obtain ha | ⟨front, stop, back, rfl, hf, hn⟩ := ih
      · exact .inl (List.forall_mem_cons.mpr ⟨hs, ha⟩)
      · exact .inr ⟨path :: front, stop, back, rfl, List.forall_mem_cons.mpr ⟨hs, hf⟩, hn⟩
    · exact .inr ⟨[], path, paths, rfl, List.forall_mem_nil _, hs⟩

/-- Attempts with the errors of others, and more of them, end in the same error. -/
theorem firstOf_error (h : ∀ path e, attempt path = .error e → attempt' path = .error e) {paths : List Bytes}
    {denied : Bool} {last e : Errno} (hf : firstOf attempt denied last paths = .error e) :
    firstOf attempt' denied last paths = .error e := by
  induction paths generalizing denied last with
  | nil =>
    cases hf
    rfl
  | cons path paths ih =>
    by_cases hs : Passes attempt path
    · obtain ⟨e', hp, he⟩ := hs
      rw [firstOf_cons_passed he hp] at hf
      rw [firstOf_cons_passed (h path e' he) hp]
      exact ih hf
    · rw [firstOf_cons_stop hs] at hf
      have hs' : ¬ Passes attempt' path := by
        rintro ⟨e', hp, he⟩
        rw [h path e hf] at he
        cases he
        exact hs ⟨e, hp, hf⟩
      rw [firstOf_cons_stop hs', h path e hf]

end

/-! ## The file that is started -/

section
variable (s : Surroundings)

/-- The path of a file that may be executed. -/
def executable (path : Bytes) : Except Errno Bytes :=
  match s.tree.stat s.cwd path with
  | .error e => .error e
  | .ok entry => if entry.isExecutable then .ok path else .error .accessDenied

/-- The file that is started for a program, before it is looked into. -/
def image (program : Bytes) : Except Errno Bytes :=
  if program.isEmpty then .error .noEntry
  else if program.contains Bytes.slash then s.executable program
  else if program.length > FileTree.longestName then .error .nameTooLong
  else firstOf s.executable false .noEntry (candidates (s.searchPath.getD standardSearchPath) program)

variable {s}

theorem executable_eq_ok_iff {path file : Bytes} :
    s.executable path = .ok file ↔ path = file ∧ s.isExecutableFile path = true := by
  unfold executable isExecutableFile
  cases s.tree.stat s.cwd path with
  | error e => simp
  | ok entry => by_cases hx : entry.isExecutable = true <;> simp [hx]

theorem isFile_of_isExecutableFile {path : Bytes} (h : s.isExecutableFile path = true) :
    s.isFile path = true := by
  unfold isExecutableFile at h
  unfold isFile
  cases hs : s.tree.stat s.cwd path with
  | error e => rw [hs] at h; cases h
  | ok entry =>
    rw [hs] at h
    exact (Bool.and_eq_true_iff.mp h).1

/-- A regular file without the permission is all that a lookup of a path mistakes. -/
theorem executable_of_isFile {path : Bytes} (h : s.isFile path = true) {e : Errno} :
    s.executable path = .error e ↔ s.isExecutableFile path = false ∧ e = .accessDenied := by
  unfold isFile at h
  unfold executable isExecutableFile
  cases hs : s.tree.stat s.cwd path with
  | error e' => rw [hs] at h; cases h
  | ok entry => by_cases hx : entry.isExecutable = true <;> simp [hx, eq_comm]

theorem length_le_of_isExecutableFile {program dir : Bytes} (hs : Bytes.slash ∉ program)
    (h : s.isExecutableFile (Path.join dir program) = true) : program.length ≤ FileTree.longestName := by
  refine Nat.not_lt.mp fun hl => ?_
  obtain ⟨e, he⟩ := FileTree.stat_tooLong s.tree hl s.cwd (Path.mem_splitAt_join dir hs)
  rw [isExecutableFile, he] at h
  cases h

theorem mem_searched_of_isExecutableFile {path program dir : Bytes} (hs : Bytes.slash ∉ program)
    (hm : dir ∈ Bytes.splitAt colon path) (h : s.isExecutableFile (Path.join dir program) = true) :
    dir ∈ searched path := by
  refine List.mem_filter.mpr ⟨hm, decide_eq_true (Nat.not_lt.mp fun hl => ?_)⟩
  obtain ⟨e, he⟩ := s.tree.stat_of_long s.cwd (Nat.lt_of_lt_of_le hl (Path.length_le_join dir hs))
  rw [isExecutableFile, he] at h
  cases h

/-- Loading starts with the file itself. -/
theorem load_of_executable_error {path : Bytes} {e : Errno} (h : s.executable path = .error e) (depth : Nat)
    (name : Bytes) (args : List Bytes) : s.load depth path name args = .error e := by
  unfold executable at h
  unfold load
  cases hs : s.tree.stat s.cwd path with
  | error e' =>
    rw [hs] at h
    cases h
    rfl
  | ok entry =>
    simp only [hs] at h
    split at h
    · cases h
    · next hx =>
      cases h
      cases entry with
      | program p => exact absurd (by simp [Entry.isExecutable, Entry.isRegular, Entry.mode]) hx
      | file mode content => exact if_pos (by rw [Bool.not_eq_true', ← Bool.not_eq_true]; exact hx)
      | directory mode => rfl
      | link target => rfl
      | device d => rfl

/-! ## How a program is resolved -/

theorem finds_of_path {program : Bytes} (hs : Bytes.slash ∈ program) :
    s.finds program = s.isFile program := by
  rw [finds, if_neg (mt List.isEmpty_iff.mp (List.ne_nil_of_mem hs)), if_pos (List.contains_iff_mem.mpr hs)]

theorem finds_of_name {program : Bytes} (hn : program ≠ []) (hs : Bytes.slash ∉ program) :
    s.finds program = true ↔ ∃ path, s.searchPath = some path ∧ ∃ dir ∈ Bytes.splitAt colon path,
      s.isExecutableFile (Path.join (s.expandHome dir) program) = true := by
  rw [finds, if_neg (mt List.isEmpty_iff.mp hn), if_neg (mt List.contains_iff_mem.mp hs)]
  cases s.searchPath with
  | none => simp
  | some path => simp

theorem image_of_path {program : Bytes} (hs : Bytes.slash ∈ program) :
    s.image program = s.executable program := by
  rw [image, if_neg (mt List.isEmpty_iff.mp (List.ne_nil_of_mem hs)), if_pos (List.contains_iff_mem.mpr hs)]

theorem image_of_name {program : Bytes} (hn : program ≠ []) (hs : Bytes.slash ∉ program)
    (hl : program.length ≤ FileTree.longestName) : s.image program =
      firstOf s.executable false .noEntry (candidates (s.searchPath.getD standardSearchPath) program) := by
  rw [image, if_neg (mt List.isEmpty_iff.mp hn), if_neg (mt List.contains_iff_mem.mp hs),
    if_neg (Nat.not_lt.mpr hl)]

/-- There is nothing to search for, or the start loads the file of a path, or it searches for one to load. -/
theorem image_cases (s : Surroundings) (program : Bytes) :
    (∃ e, s.image program = .error e ∧ ∀ args, s.launch program args = .error e) ∨
      (s.image program = s.executable program ∧
        ∀ args, s.launch program args = s.load deepestInterpreter program program args) ∨
      ∃ paths, s.image program = firstOf s.executable false .noEntry paths ∧ ∀ args,
        s.launch program args =
          firstOf (fun path => s.load deepestInterpreter path program args) false .noEntry paths := by
  unfold image launch
  split
  · exact .inl ⟨_, rfl, fun _ => rfl⟩
  split
  · exact .inr (.inl ⟨rfl, fun _ => rfl⟩)
  split
  · exact .inl ⟨_, rfl, fun _ => rfl⟩
  · exact .inr (.inr ⟨_, rfl, fun _ => rfl⟩)

/-- A start gets no further than to the file it would start. -/
theorem launch_of_image_error {program : Bytes} {e : Errno} (h : s.image program = .error e)
    (args : List Bytes) : s.launch program args = .error e := by
  obtain ⟨e', hi, hl⟩ | ⟨hi, hl⟩ | ⟨paths, hi, hl⟩ := s.image_cases program
  · cases hi.symm.trans h
    exact hl args
  · rw [hl, load_of_executable_error (hi.symm.trans h)]
  · rw [hl]
    exact firstOf_error (fun path e he => load_of_executable_error he _ _ _) (hi.symm.trans h)

/-- The file is loaded, unless a search passes over it because of what it holds. -/
theorem launch_of_image {program file : Bytes} (h : s.image program = .ok file) :
    s.isExecutableFile file = true ∧ ∀ args,
      s.launch program args = s.load deepestInterpreter file program args ∨
        Passes (fun path => s.load deepestInterpreter path program args) file := by
  obtain ⟨e', hi, -⟩ | ⟨hi, hl⟩ | ⟨paths, hi, hl⟩ := s.image_cases program
  · rw [hi] at h
    cases h
  · obtain ⟨rfl, hx⟩ := executable_eq_ok_iff.mp (hi.symm.trans h)
    exact ⟨hx, fun args => .inl (hl args)⟩
  · rw [hi] at h
    obtain ha | ⟨front, path, back, rfl, hf, hp⟩ := passed_or_stop s.executable paths
    · obtain ⟨e, he⟩ := firstOf_of_passed ha false .noEntry
      rw [he] at h
      cases h
    · rw [firstOf_of_stop hf hp] at h
      obtain ⟨rfl, hx⟩ := executable_eq_ok_iff.mp h
      refine ⟨hx, fun args => (Classical.em _).symm.imp_left fun hp' => ?_⟩
      have hf' : ∀ p ∈ front, Passes (fun path => s.load deepestInterpreter path program args) p := by
        intro p hm
        obtain ⟨e, he, hl⟩ := hf p hm
        exact ⟨e, he, load_of_executable_error hl _ _ _⟩
      rw [hl, firstOf_of_stop hf' hp']

/-! ## Misjudged programs -/

variable (s) in
/-- A program that is found though none is started, with the error of its start. -/
inductive Misjudged (program : Bytes) : Errno → Prop where
  /-- The path of a regular file that nobody may execute. -/
  | denied : Bytes.slash ∈ program → s.isFile program = true → s.isExecutableFile program = false →
      Misjudged program .accessDenied
  /-- A start gives up at a directory, and the file is in a later one. -/
  | blocked {path dir later : Bytes} {front back : List Bytes} {e : Errno} : program ≠ [] →
      Bytes.slash ∉ program → s.searchPath = some path → searched path = front ++ dir :: back →
      (∀ earlier ∈ front, Passes s.executable (Path.join earlier program)) →
      s.executable (Path.join dir program) = .error e → ¬ e.IsPassed → later ∈ back →
      s.expandHome later = later → s.isExecutableFile (Path.join later program) = true → Misjudged program e
  /-- Only a lookup gets to the file, by the home directory in place of a tilde. -/
  | atHome {path dir : Bytes} {e : Errno} : program ≠ [] → Bytes.slash ∉ program →
      s.searchPath = some path → dir ∈ Bytes.splitAt colon path → s.expandHome dir ≠ dir →
      s.isExecutableFile (Path.join (s.expandHome dir) program) = true → s.image program = .error e →
      Misjudged program e

theorem Misjudged.finds {program : Bytes} {e : Errno} (h : s.Misjudged program e) :
    s.finds program = true := by
  cases h with
  | denied hs hf _ => rw [finds_of_path hs, hf]
  | @blocked path _ later _ _ _ hn hs hp hd _ _ _ hm hl hx =>
    have hs' : later ∈ searched path := by
      rw [hd]
      exact List.mem_append_right _ (List.mem_cons_of_mem _ hm)
    exact (finds_of_name hn hs).mpr ⟨path, hp, later, (List.mem_filter.mp hs').1, by rw [hl, hx]⟩
  | atHome hn hs hp hm _ hx _ => exact (finds_of_name hn hs).mpr ⟨_, hp, _, hm, hx⟩

theorem Misjudged.image {program : Bytes} {e : Errno} (h : s.Misjudged program e) :
    s.image program = .error e := by
  cases h with
  | denied hs hf hx =>
    rw [image_of_path hs]
    exact (executable_of_isFile hf).mpr ⟨hx, rfl⟩
  | @blocked path dir later front back _ hn hs hp hd hf he hp' hm hl hx =>
    rw [image_of_name hn hs (length_le_of_isExecutableFile hs hx), hp, Option.getD_some, candidates, hd,
      List.map_append, List.map_cons, firstOf_of_stop (List.forall_mem_map.mpr hf), he]
    rintro ⟨e', hp'', he'⟩
    rw [he] at he'
    cases he'
    exact hp' hp''
  | atHome _ _ _ _ _ _ he => exact he

/-- A search that fails with the file in one of its directories has stopped at an earlier one. -/
theorem exists_stop {path program dir : Bytes} {e : Errno} (hm : dir ∈ searched path)
    (hx : s.isExecutableFile (Path.join dir program) = true)
    (he : firstOf s.executable false .noEntry (candidates path program) = .error e) :
    ∃ front stop back, searched path = front ++ stop :: back ∧
      (∀ earlier ∈ front, Passes s.executable (Path.join earlier program)) ∧
      s.executable (Path.join stop program) = .error e ∧ ¬ e.IsPassed ∧ dir ∈ back := by
  have hok : s.executable (Path.join dir program) = .ok (Path.join dir program) :=
    executable_eq_ok_iff.mpr ⟨rfl, hx⟩
  have hn : ¬ Passes s.executable (Path.join dir program) := by
    rintro ⟨e', -, he'⟩
    rw [hok] at he'
    cases he'
  obtain ha | ⟨front, stop, back, hc, hf, hs⟩ :=
    passed_or_stop (fun dir => s.executable (Path.join dir program)) (searched path)
  · exact absurd (ha dir hm) hn
  have hf' : ∀ p ∈ front.map (Path.join · program), Passes s.executable p := List.forall_mem_map.mpr hf
  have hs' : ¬ Passes s.executable (Path.join stop program) := hs
  rw [candidates, hc, List.map_append, List.map_cons, firstOf_of_stop hf' hs'] at he
  rw [hc, List.mem_append, List.mem_cons] at hm
  refine ⟨front, stop, back, hc, hf, he, fun hp => hs ⟨e, hp, he⟩, ?_⟩
  obtain hm | rfl | hm := hm
  · exact absurd (hf dir hm) hn
  · rw [hok] at he
    cases he
  · exact hm

theorem misjudged_of_finds {program : Bytes} {e : Errno} (hf : s.finds program = true)
    (he : s.image program = .error e) : s.Misjudged program e := by
  by_cases hn : program = []
  · subst hn
    cases hf
  by_cases hs : Bytes.slash ∈ program
  · rw [finds_of_path hs] at hf
    rw [image_of_path hs, executable_of_isFile hf] at he
    obtain ⟨hx, rfl⟩ := he
    exact .denied hs hf hx
  obtain ⟨path, hp, dir, hm, hx⟩ := (finds_of_name hn hs).mp hf
  by_cases hd : s.expandHome dir = dir
  · rw [hd] at hx
    rw [image_of_name hn hs (length_le_of_isExecutableFile hs hx), hp, Option.getD_some] at he
    have hm := mem_searched_of_isExecutableFile hs hm hx
    obtain ⟨front, stop, back, hc, hf, he, hp', hm⟩ := exists_stop hm hx he
    exact .blocked hn hs hp hc hf he hp' hm hd hx
  · exact .atHome hn hs hp hm hd hx he

theorem misjudged_iff {program : Bytes} {e : Errno} :
    s.finds program = true ∧ s.image program = .error e ↔ s.Misjudged program e :=
  ⟨fun h => misjudged_of_finds h.1 h.2, fun h => ⟨h.finds, h.image⟩⟩

/-- A directory of the search path that is a link to itself. -/
example :
    let bin := Bytes.ofString "bin"
    let tool := Bytes.ofString "tool"
    let loop := Bytes.ofString "loop"
    let tree : FileTree :=
      ⟨[([bin], .directory 0o755), ([bin, tool], .file 0o755 []), ([loop], .link loop)]⟩
    Misjudged ⟨tree, [], some (Bytes.ofString "/loop:/bin"), none⟩ tool .linkLoop :=
  misjudged_of_finds (by decide) rfl

/-- A tilde in the search path. -/
example :
    let home := Bytes.ofString "home"
    let tool := Bytes.ofString "tool"
    let tree : FileTree := ⟨[([home], .directory 0o755), ([home, tool], .file 0o755 [])]⟩
    Misjudged ⟨tree, [], some (Bytes.ofString "~"), some (Bytes.ofString "/home")⟩ tool .noEntry :=
  misjudged_of_finds (by decide) rfl

/-- A path and a name of one file are judged alike, unless the path is misjudged. -/
theorem finds_alike {path dir name : Bytes} (hp : s.searchPath = some path)
    (hm : dir ∈ Bytes.splitAt colon path) (hn : name ≠ []) (hs : Bytes.slash ∉ name)
    (hd : Bytes.slash ∈ Path.join (s.expandHome dir) name) :
    (s.isExecutableFile (Path.join (s.expandHome dir) name) = true →
      s.finds (Path.join (s.expandHome dir) name) = true ∧ s.finds name = true) ∧
    (s.finds (Path.join (s.expandHome dir) name) = true →
      s.finds name = true ∨ s.Misjudged (Path.join (s.expandHome dir) name) .accessDenied) := by
  have hx (h : s.isExecutableFile (Path.join (s.expandHome dir) name) = true) : s.finds name = true :=
    (finds_of_name hn hs).mpr ⟨path, hp, dir, hm, h⟩
  rw [finds_of_path hd]
  refine ⟨fun h => ⟨isFile_of_isExecutableFile h, hx h⟩, fun hf => ?_⟩
  cases h : s.isExecutableFile (Path.join (s.expandHome dir) name) with
  | true => exact .inl (hx h)
  | false => exact .inr (.denied hd hf h)

end

end Surroundings

/-! ## What an execution makes of it -/

namespace Host

open Execution (answeredTrace executeAt missingTrace stepAt stepsAt)
open Surroundings (Passes colon deepestInterpreter)

/-- The failure of a command that is not started. -/
def refusal (command : Invocation) (e : Errno) : Failure :=
  let refused := isRefused (Bytes.ofString command.program) || command.args.any isRefused
  .spawn command.program (if refused then .zeroByte else .numbered e)

section
variable (follow : Host → Duration → Surroundings.Launch → Started × FileTree)

theorem run_of_image_error (command : Invocation) (timeout : Duration) {h : Host} {e : Errno}
    (he : h.surroundings.image (Bytes.ofString command.program) = .error e) :
    (system follow).runner.run h command timeout = (.ok (.error (refusal command e)), h) := by
  have hs : start follow h command timeout =
      (.error (if isRefused (Bytes.ofString command.program) || command.args.any isRefused then .zeroByte
        else .numbered e), h) := by
    simp only [start, Surroundings.launch_of_image_error he]
    split <;> rfl
  exact System.run_of_error hs

section
variable (timeout : Duration) (datadir : Bytes) (t : Trigger) {now : Host} {e : Errno}
  (he : now.surroundings.image (Bytes.ofString t.program) = .error e)
include he

theorem stepAt_of_not_misjudged (hm : ¬ now.surroundings.Misjudged (Bytes.ofString t.program) e) :
    stepAt (system follow).runner ⟨timeout, false⟩ datadir now t = (missingTrace t, none, now) := by
  have hl : (system follow).runner.lookup now t.program = (false, now) := by
    have hf : now.finds t.program ≠ true := fun hf => hm (Surroundings.misjudged_of_finds hf he)
    exact Prod.ext (Bool.eq_false_iff.mpr hf) rfl
  exact Execution.stepAt_of_missing rfl hl

theorem stepAt_of_misjudged (hm : now.surroundings.Misjudged (Bytes.ofString t.program) e) :
    stepAt (system follow).runner ⟨timeout, false⟩ datadir now t =
      (answeredTrace (system follow).runner ⟨timeout, false⟩ datadir t (.error (refusal (t.command datadir) e)),
        none, now) := by
  have hl : (system follow).runner.lookup now t.program = (true, now) := Prod.ext hm.finds rfl
  exact Execution.stepAt_of_answered rfl hl (run_of_image_error follow (t.command datadir) timeout he)

end

/-- A program is found without a file to start just if it is misjudged, and no arguments make it start then.
Otherwise an executable file is loaded, unless a search passes over it, and a path and a name of such a file
are judged alike. An execution that comes to a tool without a file to start leaves the host as it is and goes
on: it skips the trigger unless the tool is misjudged, and then the trigger fails. -/
theorem lookup_misjudges (timeout : Duration) (datadir : Bytes) (h : Host) (front : List Trigger)
    (t : Trigger) (back : List Trigger) :
    (∀ (s : Surroundings) (program : Bytes) (e : Errno),
      s.finds program = true ∧ s.image program = .error e ↔ s.Misjudged program e) ∧
    (∀ (s : Surroundings) (program : Bytes) (e : Errno), s.image program = .error e →
      ∀ args, s.launch program args = .error e) ∧
    (∀ (s : Surroundings) (program file : Bytes), s.image program = .ok file →
      s.isExecutableFile file = true ∧ ∀ args,
        s.launch program args = s.load deepestInterpreter file program args ∨
          Passes (fun path => s.load deepestInterpreter path program args) file) ∧
    (∀ (s : Surroundings) (path dir name : Bytes), s.searchPath = some path →
      dir ∈ Bytes.splitAt colon path → name ≠ [] → Bytes.slash ∉ name →
      let file := Path.join (s.expandHome dir) name
      Bytes.slash ∈ file →
        (s.isExecutableFile file = true → s.finds file = true ∧ s.finds name = true) ∧
        (s.finds file = true → s.finds name = true ∨ s.Misjudged file .accessDenied)) ∧
    let runner := (system follow).runner
    let mode : ExecutionMode := ⟨timeout, false⟩
    let program := Bytes.ofString t.program
    let command := t.command datadir
    ∀ before now, stepsAt runner mode datadir h front = (before, none, now) →
      ∀ e, now.surroundings.image program = .error e → ∃ taken : Trace,
        let rest := stepsAt runner mode datadir now back
        let trace := before ++ (taken ++ rest.1)
        executeAt runner mode datadir h (front ++ t :: back) =
          ({ trace with log := Execution.record .info (Execution.opening (front ++ t :: back).length datadir) ::
              trace.log }, rest.2) ∧
        (¬ now.surroundings.Misjudged program e → taken = missingTrace t ∧ taken.results = .oneSkipped) ∧
        (now.surroundings.Misjudged program e →
          taken.lookups = [(t.program, true)] ∧ taken.calls = [⟨command, timeout⟩] ∧
          runner.run now command timeout = (.ok (.error (refusal command e)), now) ∧
          taken.results = .oneFailed (Execution.errorEntry t (refusal command e))) := by
  refine ⟨fun _ _ _ => Surroundings.misjudged_iff, fun _ _ _ he => Surroundings.launch_of_image_error he,
    fun _ _ _ hi => Surroundings.launch_of_image hi,
    fun _ _ _ _ hp hm hn hs => Surroundings.finds_alike hp hm hn hs, ?_⟩
  intro runner mode program command before now hf e he
  have hgo {taken : Trace} (ht : stepAt runner mode datadir now t = (taken, none, now)) :
      stepsAt runner mode datadir h (front ++ t :: back) =
        (before ++ (taken ++ (stepsAt runner mode datadir now back).1), (stepsAt runner mode datadir now back).2) := by
    rw [Execution.stepsAt_append hf, Execution.stepsAt_cons_of_none ht]
  by_cases hm : now.surroundings.Misjudged program e
  · refine ⟨answeredTrace runner mode datadir t (.error (refusal command e)), ?_, absurd hm, fun _ => ?_⟩
    · rw [executeAt, hgo (stepAt_of_misjudged follow timeout datadir t he hm)]
    · exact ⟨rfl, rfl, run_of_image_error follow command timeout he, rfl⟩
  · refine ⟨missingTrace t, ?_, fun _ => ⟨rfl, rfl⟩, fun h => absurd h hm⟩
    rw [executeAt, hgo (stepAt_of_not_misjudged follow timeout datadir t he hm)]

end

/-- It is not so that a program can be started if it is found: here is one that has no permission. -/
theorem not_forall_image_of_finds : ¬ ∀ (s : Surroundings) (program : Bytes), s.finds program = true →
    ∃ file, s.image program = .ok file := by
  let bin : Bytes := Bytes.ofString "bin"
  let tool : Bytes := Bytes.ofString "tool"
  let s : Surroundings :=
    ⟨⟨[([bin], .directory 0o755), ([bin, tool], .file 0o644 [])]⟩, [], some (Bytes.ofString "/bin"), none⟩
  intro h
  obtain ⟨file, hf⟩ := h s (Bytes.ofString "/bin/tool") (by decide)
  have hm : s.Misjudged (Bytes.ofString "/bin/tool") .accessDenied :=
    .denied (by decide) (by decide) (by decide)
  rw [hm.image] at hf
  cases hf

end Host

end DesktopRefresh
