import Mathlib.Data.List.Infix
import Mathlib.Data.List.Nodup
import Mathlib.Tactic.Convert
import MeshLog.Files.Tree
import MeshLog.Proofs.Outcome

/-!
# Files that are written

Writing a file changes the content of this file alone and neither makes nor removes a directory, so
every path goes on naming the same place (`filePlace_write_eq_ok`). Hence files that are written one
after the other all hold what was written to them if and only if their paths name different places
(`forall_holds_iff`). Paths without dots name the same place only if they have the same
parts (`Path.IsPlain.parts_eq`).
-/

namespace MeshLog

namespace FileTree

variable {tree next : FileTree} {path other : String} {place : Place} {content : Bytes}

/-! ## Places of files -/

theorem below_eq_true {outer inner : Place} :
    below outer inner = true ↔ outer.length < inner.length ∧ outer <+: inner := by
  unfold below
  rw [Bool.and_eq_true, decide_eq_true_iff, List.isPrefixOf_iff_prefix]

theorem isDirectory_eq_true :
    tree.isDirectory place = true ↔
      (∃ made ∈ tree.workingDirectory :: tree.directories, place <+: made) ∨
        ∃ file ∈ tree.files, below place file.1 = true := by
  unfold isDirectory
  simp only [Bool.or_eq_true, List.any_eq_true, List.isPrefixOf_iff_prefix]

/-- What lies above a directory is a directory. -/
theorem isDirectory_outer {outer : Place} (h : tree.isDirectory place = true)
    (houter : outer <+: place) : tree.isDirectory outer = true := by
  rw [isDirectory_eq_true] at h ⊢
  rcases h with ⟨made, hmade, hplace⟩ | ⟨file, hfile, hplace⟩
  · exact Or.inl ⟨made, hmade, houter.trans hplace⟩
  · obtain ⟨hlength, hplace⟩ := below_eq_true.mp hplace
    exact Or.inr ⟨file, hfile, below_eq_true.mpr
      ⟨houter.length_le.trans_lt hlength, houter.trans hplace⟩⟩

theorem isDirectory_workingDirectory (tree : FileTree) :
    tree.isDirectory tree.workingDirectory = true :=
  isDirectory_eq_true.mpr (Or.inl ⟨_, List.mem_cons_self .., List.prefix_rfl⟩)

theorem enter_eq_ok {name : Text} {inner : Place} :
    tree.enter place name = .ok inner ↔
      place ++ [name] = inner ∧ tree.file? inner = none ∧ tree.isDirectory inner = true := by
  unfold enter
  dsimp only
  split_ifs with hfile hdirectory
  · rw [Option.isSome_iff_ne_none] at hfile
    exact iff_of_false nofun fun h => hfile (h.1 ▸ h.2.1)
  · rw [Except.ok.injEq]
    constructor
    · rintro rfl
      exact ⟨rfl, by simpa using hfile, hdirectory⟩
    · exact And.left
  · exact iff_of_false nofun fun h => hdirectory (h.1 ▸ h.2.2)

/-- A walk that starts in a directory ends in one. -/
theorem isDirectory_of_directory {parts : List Path.Part} {target : Place}
    (h : tree.isDirectory place = true) (hwalk : tree.directory parts place = .ok target) :
    tree.isDirectory target = true := by
  induction parts generalizing place with
  | nil =>
    rw [FileTree.directory, Except.ok.injEq] at hwalk
    rwa [← hwalk]
  | cons part rest ih =>
    cases part with
    | root => exact ih (isDirectory_outer h List.nil_prefix) hwalk
    | here => exact ih h hwalk
    | parent => exact ih (isDirectory_outer h (List.dropLast_prefix place)) hwalk
    | name name =>
      obtain ⟨inner, henter, hrest⟩ := bind_eq_ok.mp hwalk
      exact ih (enter_eq_ok.mp henter).2.2 hrest

theorem filePlace_eq_ok :
    tree.filePlace path = .ok place ↔
      ∃ name directory, (Path.parts path).getLast? = some (.name name) ∧
        tree.directory (Path.parts path).dropLast tree.workingDirectory = .ok directory ∧
        place = directory ++ [name] := by
  unfold filePlace
  split
  next hnone => simp [hnone]
  next name hname =>
    rw [hname]
    cases tree.directory (Path.parts path).dropLast tree.workingDirectory <;>
      simp [Except.map, eq_comm]
  next part hnot hpart =>
    refine iff_of_false (fun h => ?_) ?_
    · obtain ⟨directory, -, h⟩ := bind_eq_ok.mp h
      cases h
    · rintro ⟨name, directory, hname, -⟩
      rw [hpart, Option.some_inj] at hname
      exact hnot name hname

/-- What lies above the place of a file is a directory. -/
theorem isDirectory_of_below {outer : Place} (h : tree.filePlace path = .ok place)
    (hbelow : below outer place = true) : tree.isDirectory outer = true := by
  obtain ⟨name, directory, -, hdirectory, rfl⟩ := filePlace_eq_ok.mp h
  obtain ⟨hlength, houter⟩ := below_eq_true.mp hbelow
  rcases List.prefix_concat_iff.mp houter with rfl | houter
  · exact absurd hlength (Nat.lt_irrefl _)
  · exact isDirectory_outer
      (isDirectory_of_directory (isDirectory_workingDirectory tree) hdirectory) houter

/-! ## One file -/

theorem lookup_filter_ne {files : List (Place × Bytes)} {removed : Place} (h : place ≠ removed) :
    (files.filter (·.1 ≠ removed)).lookup place = files.lookup place := by
  induction files with
  | nil => rfl
  | cons file rest ih =>
    obtain ⟨at_, bytes⟩ := file
    by_cases hat : at_ = removed
    · rw [List.filter_cons_of_neg (by simpa using hat), ih, List.lookup_cons,
        beq_eq_false_iff_ne.mpr (hat ▸ h)]
    · rw [List.filter_cons_of_pos (by simpa using hat), List.lookup_cons, List.lookup_cons, ih]

theorem file?_put (tree : FileTree) (place target : Place) (content : Bytes) :
    (tree.put place content).file? target =
      if target = place then some content else tree.file? target := by
  unfold file? put
  rw [List.lookup_cons]
  split_ifs with h
  · rw [beq_iff_eq.mpr h]
  · rw [beq_eq_false_iff_ne.mpr h]
    exact lookup_filter_ne h

/-- A file in a directory that exists makes no directory. -/
theorem isDirectory_put (h : tree.filePlace path = .ok place) (target : Place) :
    (tree.put place content).isDirectory target = tree.isDirectory target := by
  rw [Bool.eq_iff_iff, isDirectory_eq_true]
  constructor
  · rintro (hmade | ⟨file, hfile, hbelow⟩)
    · exact isDirectory_eq_true.mpr (Or.inl hmade)
    · rcases List.mem_cons.mp hfile with rfl | hfile
      · exact isDirectory_of_below h hbelow
      · exact isDirectory_eq_true.mpr (Or.inr ⟨file, List.mem_of_mem_filter hfile, hbelow⟩)
  · intro htarget
    rcases isDirectory_eq_true.mp htarget with hmade | ⟨file, hfile, hbelow⟩
    · exact Or.inl hmade
    · by_cases hsame : file.1 = place
      · exact Or.inr ⟨(place, content), List.mem_cons_self .., hsame ▸ hbelow⟩
      · exact Or.inr ⟨file,
          List.mem_cons_of_mem _ (List.mem_filter.mpr ⟨hfile, decide_eq_true hsame⟩), hbelow⟩

theorem write_eq_ok :
    tree.write path content = .ok next ↔
      ∃ place, tree.filePlace path = .ok place ∧ tree.isDirectory place = false ∧
        Path.namesDirectory path = false ∧ next = tree.put place content := by
  unfold write
  refine Iff.trans (@bind_eq_ok _ _ _ (tree.filePlace path) _ _) ?_
  refine exists_congr fun place => and_congr_right fun _ => ?_
  cases tree.isDirectory place <;> cases Path.namesDirectory path <;>
    simp [eq_comm (a := next)]

theorem directory_write_eq_ok (h : tree.write path content = .ok next) {parts : List Path.Part}
    {start target : Place} :
    next.directory parts start = .ok target ↔ tree.directory parts start = .ok target := by
  obtain ⟨place, hplace, hfree, -, rfl⟩ := write_eq_ok.mp h
  have henter : ∀ start name inner, (tree.put place content).enter start name = .ok inner ↔
      tree.enter start name = .ok inner := by
    intro start name inner
    rw [enter_eq_ok, enter_eq_ok, file?_put, isDirectory_put hplace]
    by_cases hinner : inner = place
    · -- neither before nor after the write is there a directory in this place
      simp [hinner, hfree]
    · rw [if_neg hinner]
  induction parts generalizing start with
  | nil => rfl
  | cons part rest ih =>
    cases part with
    | root => exact ih
    | here => exact ih
    | parent => exact ih
    | name name =>
      refine Iff.trans (@bind_eq_ok _ _ _ (enter _ start name) _ _)
        (Iff.trans ?_ (@bind_eq_ok _ _ _ (enter _ start name) _ _).symm)
      exact exists_congr fun inner => and_congr (henter start name inner) ih

/-- Behind a write, every path names the same place as before. -/
theorem filePlace_write_eq_ok (h : tree.write path content = .ok next) :
    next.filePlace other = .ok place ↔ tree.filePlace other = .ok place := by
  have hstart : next.workingDirectory = tree.workingDirectory := by
    obtain ⟨place, -, -, -, rfl⟩ := write_eq_ok.mp h
    rfl
  rw [filePlace_eq_ok, filePlace_eq_ok, hstart]
  simp only [directory_write_eq_ok h]

theorem read_eq_ok :
    tree.read path = .ok content ↔
      ∃ place, tree.filePlace path = .ok place ∧ Path.namesDirectory path = false ∧
        tree.file? place = some content := by
  unfold read
  refine Iff.trans (@bind_eq_ok _ _ _ (tree.filePlace path) _ _) ?_
  refine exists_congr fun place => and_congr_right fun _ => ?_
  cases tree.file? place <;> cases Path.namesDirectory path <;> simp

theorem read_write (h : tree.write path content = .ok next) : next.read path = .ok content := by
  obtain ⟨place, hplace, -, hname, hnext⟩ := write_eq_ok.mp h
  refine read_eq_ok.mpr ⟨place, (filePlace_write_eq_ok h).mpr hplace, hname, ?_⟩
  rw [hnext, file?_put, if_pos rfl]

/-- A write to one place keeps the content of the other files. -/
theorem read_write_of_ne {kept : Bytes} (h : tree.write path content = .ok next)
    (hread : tree.read other = .ok kept) (hne : tree.filePlace other ≠ tree.filePlace path) :
    next.read other = .ok kept := by
  obtain ⟨place, hplace, -, -, hnext⟩ := write_eq_ok.mp h
  obtain ⟨target, htarget, hname, hfile⟩ := read_eq_ok.mp hread
  refine read_eq_ok.mpr ⟨target, (filePlace_write_eq_ok h).mpr htarget, hname, ?_⟩
  rw [hnext, file?_put, if_neg, hfile]
  rintro rfl
  exact hne (htarget.trans hplace.symm)

/-! ## One file after the other -/

/-- Writes texts to files, one after the other. -/
def writeAll (tree : FileTree) : List (String × String) → Except FileError FileTree
  | [] => .ok tree
  | (path, text) :: rest => (tree.write path (Utf8.encode text.toList)).bind (·.writeAll rest)

/-- Whether a file holds a text. -/
def Holds (tree : FileTree) (file : String × String) : Prop :=
  tree.read file.1 = .ok (Utf8.encode file.2.toList)

variable {files : List (String × String)} {after : FileTree}

theorem writeAll_cons {file : String × String} :
    tree.writeAll (file :: files) = .ok after ↔
      ∃ next, tree.write file.1 (Utf8.encode file.2.toList) = .ok next ∧
        next.writeAll files = .ok after :=
  bind_eq_ok

/-- All files name places, and after the writes the same places as before. -/
theorem filePlace_writeAll (h : tree.writeAll files = .ok after) :
    (∀ path place, after.filePlace path = .ok place ↔ tree.filePlace path = .ok place) ∧
      ∀ file ∈ files, ∃ place, tree.filePlace file.1 = .ok place := by
  induction files generalizing tree with
  | nil =>
    cases h
    exact ⟨fun _ _ => Iff.rfl, nofun⟩
  | cons file rest ih =>
    obtain ⟨next, hwrite, hrest⟩ := writeAll_cons.mp h
    obtain ⟨hsame, hplaces⟩ := ih hrest
    obtain ⟨place, hplace, -⟩ := write_eq_ok.mp hwrite
    refine ⟨fun path place => (hsame path place).trans (filePlace_write_eq_ok hwrite),
      List.forall_mem_cons.mpr ⟨⟨place, hplace⟩, fun other hother => ?_⟩⟩
    obtain ⟨target, htarget⟩ := hplaces other hother
    exact ⟨target, (filePlace_write_eq_ok hwrite).mp htarget⟩

theorem read_writeAll_of_forall_ne {kept : Bytes} (h : tree.writeAll files = .ok after)
    (hread : tree.read other = .ok kept)
    (hne : ∀ file ∈ files, tree.filePlace other ≠ tree.filePlace file.1) :
    after.read other = .ok kept := by
  induction files generalizing tree with
  | nil =>
    cases h
    exact hread
  | cons file rest ih =>
    obtain ⟨next, hwrite, hrest⟩ := writeAll_cons.mp h
    obtain ⟨hfirst, hne⟩ := List.forall_mem_cons.mp hne
    refine ih hrest (read_write_of_ne hwrite hread hfirst) fun later hlater hsame => ?_
    obtain ⟨place, hplace⟩ := (filePlace_writeAll hrest).2 later hlater
    rw [hplace] at hsame
    refine hne later hlater ?_
    rw [(filePlace_write_eq_ok hwrite).mp hsame, (filePlace_write_eq_ok hwrite).mp hplace]

/-- Files in different places hold what was written to them. -/
theorem holds_of_nodup (h : tree.writeAll files = .ok after)
    (hplaces : (files.map fun file => tree.filePlace file.1).Nodup) :
    ∀ file ∈ files, after.Holds file := by
  induction files generalizing tree with
  | nil => exact nofun
  | cons file rest ih =>
    obtain ⟨next, hwrite, hrest⟩ := writeAll_cons.mp h
    rw [List.map_cons, List.nodup_cons] at hplaces
    have hsame : rest.map (fun file => next.filePlace file.1) =
        rest.map fun file => tree.filePlace file.1 := by
      refine List.map_congr_left fun later hlater => ?_
      obtain ⟨place, hplace⟩ := (filePlace_writeAll hrest).2 later hlater
      rw [hplace, (filePlace_write_eq_ok hwrite).mp hplace]
    refine List.forall_mem_cons.mpr ⟨?_, ih hrest (hsame ▸ hplaces.2)⟩
    refine read_writeAll_of_forall_ne hrest (read_write hwrite) fun later hlater heq => ?_
    obtain ⟨place, hplace, -⟩ := write_eq_ok.mp hwrite
    rw [(filePlace_write_eq_ok hwrite).mpr hplace] at heq
    refine hplaces.1 (List.mem_map.mpr ⟨later, hlater, ?_⟩)
    rw [(filePlace_write_eq_ok hwrite).mp heq.symm, hplace]

/-- What is in the place that a path names, nothing if it names none. -/
def contentAt (tree : FileTree) (place? : Except FileError Place) : Bytes :=
  (place?.toOption.bind tree.file?).getD []

theorem contentAt_ok (h : tree.file? place = some content) :
    tree.contentAt (.ok place) = content := by
  show (tree.file? place).getD [] = content
  rw [h]
  rfl

/-- Different texts that are written one after the other are all held, if and only if their files
are in different places. -/
theorem forall_holds_iff (h : tree.writeAll files = .ok after)
    (htexts : (files.map fun file => Utf8.encode file.2.toList).Nodup) :
    (∀ file ∈ files, after.Holds file) ↔
      (files.map fun file => tree.filePlace file.1).Nodup := by
  refine ⟨fun hholds => ?_, holds_of_nodup h⟩
  -- what a file holds depends on its place only
  refine List.Nodup.of_map after.contentAt ?_
  rw [List.map_map]
  convert htexts using 1
  refine List.map_congr_left fun file hfile => ?_
  obtain ⟨place, hplace, -, hcontent⟩ := read_eq_ok.mp (hholds file hfile)
  show after.contentAt (tree.filePlace file.1) = _
  rw [((filePlace_writeAll h).1 file.1 place).mp hplace, contentAt_ok hcontent]

end FileTree

/-! ## Plain paths -/

namespace Path

/-- Whether a path has neither a slash at its start nor dots, so that it names the same place below
the working directory whatever directories there are. -/
def IsPlain (path : String) : Prop := ∀ part ∈ parts path, ∃ name, part = .name name

theorem directory_of_names {tree : FileTree} {parts : List Part} {start target : Place}
    (hnames : ∀ part ∈ parts, ∃ name, part = .name name)
    (h : tree.directory parts start = .ok target) :
    target.map Part.name = start.map Part.name ++ parts := by
  induction parts generalizing start with
  | nil =>
    cases h
    rw [List.append_nil]
  | cons part rest ih =>
    obtain ⟨⟨name, rfl⟩, hrest⟩ := List.forall_mem_cons.mp hnames
    obtain ⟨inner, henter, h⟩ := bind_eq_ok.mp h
    obtain ⟨rfl, -⟩ := FileTree.enter_eq_ok.mp henter
    rw [ih hrest h, List.map_append, List.map_singleton, List.append_assoc]
    rfl

/-- The place that a plain path names has the names of its parts, behind the working directory. -/
theorem IsPlain.map_name {path : String} (h : IsPlain path) {tree : FileTree} {place : Place}
    (hplace : tree.filePlace path = .ok place) :
    place.map Part.name = tree.workingDirectory.map Part.name ++ parts path := by
  obtain ⟨name, directory, hname, hdirectory, rfl⟩ := FileTree.filePlace_eq_ok.mp hplace
  have hparts := List.dropLast_append_getLast? _ hname
  have hnames : ∀ part ∈ (parts path).dropLast, ∃ name, part = .name name :=
    fun part hpart => h part (List.mem_of_mem_dropLast hpart)
  rw [List.map_append, directory_of_names hnames hdirectory, List.append_assoc,
    List.map_singleton, hparts]

/-- Plain paths that name one place have the same parts. -/
theorem IsPlain.parts_eq {a b : String} (ha : IsPlain a) (hb : IsPlain b) {tree : FileTree}
    {place : Place} (hplace : tree.filePlace a = .ok place)
    (hsame : tree.filePlace b = .ok place) : parts a = parts b :=
  List.append_cancel_left ((ha.map_name hplace).symm.trans (hb.map_name hsame))

end Path

end MeshLog
