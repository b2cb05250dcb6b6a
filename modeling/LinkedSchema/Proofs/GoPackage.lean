import LinkedSchema.GoPackage
import LinkedSchema.Proofs.OptionKeys
import Mathlib.Data.List.TakeWhile

/-!
# Names and import paths of Go packages

What a generator of Go code is told of a file, in terms of the text that it comes from: the option
that names the Go package, or else the name of the file.

Paths are cut at slashes from behind. The functions that cut them go over the reversed characters; the
lemmas here say what that means for a path that is already written as parts with a slash between them.

The directory `.` stands for no directory at all, also where a path begins with it. So the import path
of a file such as `./units.proto` is its name, though that has a slash.

* `segments`, `IsBaseName` — what a path is called;
* `CutAtLastSlash`, `IsDirectoryOrName` — the directory of a path;
* `isBaseName_iff`, `isDirectoryOrName_iff` — both are what is computed, and nothing else;
* `File.FollowsGoPackage`, `File.followsGoPackage` — name and import path of every file;
* `not_isDirectoryOrName_units` — a file in the current directory.
-/

namespace LinkedSchema

/-! ## Paths -/

/-- The segments of a path that are not empty. -/
def segments (path : String) : List String :=
  ((path.toList.splitOn '/').filter (· ≠ [])).map String.ofList

/-- What a path is called: its last segment that is not empty. A path of slashes alone and the empty
path have names of their own. -/
inductive IsBaseName (path : String) : String → Prop
  | segment {name : String} (h : (segments path).getLast? = some name) : IsBaseName path name
  | slashes (hne : path ≠ "") (h : ∀ c ∈ path.toList, c = '/') : IsBaseName path "/"
  | empty (h : path = "") : IsBaseName path "."

/-- A path is made of the text before its last slash, that slash, and the text behind it. -/
def CutAtLastSlash (path before after : String) : Prop :=
  path = before ++ "/" ++ after ∧ '/' ∉ after.toList

/-- The directory of a path, or the path itself if it has no slash. -/
inductive IsDirectoryOrName (path : String) : String → Prop
  | directory {before after : String} (h : CutAtLastSlash path before after) (hne : before ≠ "") :
      IsDirectoryOrName path before
  | root {after : String} (h : CutAtLastSlash path "" after) : IsDirectoryOrName path "/"
  | name (h : '/' ∉ path.toList) : IsDirectoryOrName path path

/-! ### Segments -/

/-- The segments of characters that are not empty. -/
def words (cs : List Char) : List (List Char) :=
  (cs.splitOn '/').filter (· ≠ [])

theorem words_append_slash (cs rest : List Char) :
    words (cs ++ '/' :: rest) = words cs ++ words rest := by
  rw [words, List.splitOn_append_cons_self, List.filter_append, words, words]

theorem words_of_not_mem {cs : List Char} (h : '/' ∉ cs) (hne : cs ≠ []) : words cs = [cs] := by
  rw [words, List.splitOn_eq_singleton h]
  simp [hne]

/-- Slashes at the end make no segments. -/
theorem words_append_slashes {slashes : List Char} (h : ∀ c ∈ slashes, c = '/') (cs : List Char) :
    words (cs ++ slashes) = words cs := by
  induction slashes generalizing cs with
  | nil => rw [List.append_nil]
  | cons c slashes ih =>
      rw [List.forall_mem_cons] at h
      obtain ⟨rfl, hrest⟩ := h
      have hnone : words slashes = words [] := ih hrest []
      rw [words_append_slash, hnone]
      simp [words]

/-- What is left of a text behind characters that are dropped begins with another one. -/
theorem eq_nil_or_cons_of_dropWhile (accept : Char → Bool) (cs : List Char) :
    cs.dropWhile accept = [] ∨ ∃ c rest, cs.dropWhile accept = c :: rest ∧ accept c = false := by
  have hhead := List.head?_dropWhile_not accept cs
  cases hrest : cs.dropWhile accept with
  | nil => exact .inl rfl
  | cons c rest =>
      rw [hrest] at hhead
      exact .inr ⟨c, rest, rfl, hhead⟩

/-- Characters are cut into their last segment that is not empty, the slashes behind it, and what
comes before it, with a slash at the end. -/
structure CutAtLastSegment (cs before segment slashes : List Char) : Prop where
  eq : cs = before ++ segment ++ slashes
  segment_ne : segment ≠ []
  not_mem : '/' ∉ segment
  slashes_eq : ∀ c ∈ slashes, c = '/'
  before_eq : before = [] ∨ ∃ rest, before = rest ++ ['/']

/-- Characters that are not all slashes have a last segment. Read from behind, they are slashes, the
segment, and the rest. -/
theorem exists_cutAtLastSegment {cs : List Char} (h : ∃ c ∈ cs, c ≠ '/') :
    ∃ before segment slashes, CutAtLastSegment cs before segment slashes := by
  rcases eq_nil_or_cons_of_dropWhile (· == '/') cs.reverse with hnone | ⟨c, others, hothers, hc⟩
  · obtain ⟨c, hmem, hc⟩ := h
    have hall := List.dropWhile_eq_nil_iff.mp hnone c (List.mem_reverse.mpr hmem)
    exact absurd (beq_iff_eq.mp hall) hc
  · have hc' : c ≠ '/' := by simpa using hc
    refine ⟨((c :: others).dropWhile (· != '/')).reverse,
      ((c :: others).takeWhile (· != '/')).reverse, (cs.reverse.takeWhile (· == '/')).reverse,
      ?eq, by simp [hc'], ?not_mem, ?slashes_eq, ?before_eq⟩
    case eq =>
      rw [← List.reverse_append, ← List.reverse_append, List.takeWhile_append_dropWhile,
        ← hothers, List.takeWhile_append_dropWhile, List.reverse_reverse]
    case not_mem =>
      rw [List.mem_reverse]
      intro hmem
      simpa using List.mem_takeWhile_imp hmem
    case slashes_eq =>
      intro d hmem
      simpa using List.mem_takeWhile_imp (List.mem_reverse.mp hmem)
    case before_eq =>
      rcases eq_nil_or_cons_of_dropWhile (· != '/') (c :: others) with hnone | ⟨d, rest, hrest, hd⟩
      · exact .inl (by rw [hnone, List.reverse_nil])
      · have hd' : d = '/' := by simpa using hd
        exact .inr ⟨rest.reverse, by rw [hrest, List.reverse_cons, hd']⟩

namespace CutAtLastSegment

variable {before segment slashes : List Char}

theorem getLast?_words {cs : List Char} (h : CutAtLastSegment cs before segment slashes) :
    (words cs).getLast? = some segment := by
  rw [h.eq, words_append_slashes h.slashes_eq]
  rcases h.before_eq with rfl | ⟨rest, rfl⟩
  · rw [List.nil_append, words_of_not_mem h.not_mem h.segment_ne]
    rfl
  · rw [List.append_assoc, List.singleton_append, words_append_slash,
      words_of_not_mem h.not_mem h.segment_ne, List.getLast?_append]
    rfl

/-- Cutting off the slashes leaves the segment at the end, and the next slash ends it. -/
theorem lastSegment_eq {path : String} (h : CutAtLastSegment path.toList before segment slashes) :
    lastSegment path = String.ofList segment := by
  have hne : path.toList ≠ [] := by
    rw [h.eq]
    simp [h.segment_ne]
  have hslashes : ∀ c ∈ slashes.reverse, (c == '/') = true := by
    intro c hmem
    simpa using h.slashes_eq c (List.mem_reverse.mp hmem)
  have hsegment : ∀ c ∈ segment.reverse, (c != '/') = true := by
    intro c hmem
    have hc : c ≠ '/' := fun heq => h.not_mem (heq ▸ List.mem_reverse.mp hmem)
    simpa using hc
  have hdrop : path.toList.reverse.dropWhile (· == '/') = segment.reverse ++ before.reverse := by
    rw [h.eq, List.reverse_append, List.reverse_append, List.dropWhile_append_of_pos hslashes]
    cases hreverse : segment.reverse with
    | nil => exact absurd (List.reverse_eq_nil_iff.mp hreverse) h.segment_ne
    | cons c rest =>
        rw [hreverse] at hsegment
        have hc := hsegment c List.mem_cons_self
        rw [List.cons_append, List.dropWhile_cons_of_neg (by simpa using hc)]
  have htake : (segment.reverse ++ before.reverse).takeWhile (· != '/') = segment.reverse := by
    rw [List.takeWhile_append_of_pos hsegment]
    rcases h.before_eq with rfl | ⟨rest, rfl⟩ <;> simp
  unfold lastSegment
  dsimp only
  rw [if_neg (by simpa using hne), hdrop, List.reverse_reverse, htake, List.reverse_reverse,
    if_neg (by simp [h.segment_ne])]

end CutAtLastSegment

/-- A path is called what is left of it when the slashes at its end are cut off, and then what is
before the last of the others. -/
theorem lastSegment_isBaseName (path : String) : IsBaseName path (lastSegment path) := by
  by_cases hslashes : ∀ c ∈ path.toList, c = '/'
  · by_cases hempty : path = ""
    · subst hempty
      exact .empty rfl
    · have hnone : path.toList.reverse.dropWhile (· == '/') = [] := by
        rw [List.dropWhile_eq_nil_iff]
        intro c hmem
        exact beq_iff_eq.mpr (hslashes c (List.mem_reverse.mp hmem))
      have hname : lastSegment path = "/" := by simp [lastSegment, hnone, hempty]
      rw [hname]
      exact .slashes hempty hslashes
  · push Not at hslashes
    obtain ⟨before, segment, slashes, hcut⟩ := exists_cutAtLastSegment hslashes
    rw [hcut.lastSegment_eq]
    refine .segment ?_
    rw [segments, List.getLast?_map]
    exact congrArg (Option.map String.ofList) hcut.getLast?_words

theorem segments_eq_nil {path : String} (h : ∀ c ∈ path.toList, c = '/') : segments path = [] := by
  have hnone : words path.toList = words [] := words_append_slashes h []
  have hnil : words path.toList = [] := by rw [hnone]; simp [words]
  rw [segments]
  exact congrArg (List.map String.ofList) hnil

/-- A path has one name only. -/
theorem IsBaseName.unique {path name other : String} (h : IsBaseName path name)
    (h' : IsBaseName path other) : name = other := by
  have hnone {last : String} (hlast : (segments path).getLast? = some last)
      (hslashes : ∀ c ∈ path.toList, c = '/') : False := by
    rw [segments_eq_nil hslashes] at hlast
    cases hlast
  cases h with
  | segment hlast =>
      cases h' with
      | segment hlast' => exact Option.some.inj (hlast.symm.trans hlast')
      | slashes _ hslashes => exact (hnone hlast hslashes).elim
      | empty hempty => exact (hnone hlast (by simp [hempty])).elim
  | slashes hne hslashes =>
      cases h' with
      | segment hlast => exact (hnone hlast hslashes).elim
      | slashes => rfl
      | empty hempty => exact absurd hempty hne
  | empty hempty =>
      cases h' with
      | segment hlast => exact (hnone hlast (by simp [hempty])).elim
      | slashes hne => exact absurd hempty hne
      | empty => rfl

theorem isBaseName_iff {path name : String} : IsBaseName path name ↔ name = lastSegment path := by
  constructor
  · intro h
    exact h.unique (lastSegment_isBaseName path)
  · rintro rfl
    exact lastSegment_isBaseName path

/-! ### Directories -/

/-- A path with a slash has a last one. -/
theorem exists_cutAtLastSlash {path : String} (h : '/' ∈ path.toList) :
    ∃ before after, CutAtLastSlash path before after := by
  obtain ⟨after, before, hpath, hafter⟩ := List.eq_append_cons_of_mem (List.mem_reverse.mpr h)
  refine ⟨String.ofList before.reverse, String.ofList after.reverse, ?_, ?_⟩
  · have hlist := congrArg List.reverse hpath
    rw [List.reverse_reverse] at hlist
    rw [← String.toList_inj, hlist]
    simp
  · rwa [String.toList_ofList, List.mem_reverse]

/-- Behind the slash at which a path is cut there is no other, so the search from behind stops there. -/
theorem CutAtLastSlash.directory?_eq {path before after : String}
    (h : CutAtLastSlash path before after) :
    directory? path = some (if before = "" then "/" else before) := by
  obtain ⟨rfl, hafter⟩ := h
  have hreversed : (before ++ "/" ++ after).toList.reverse =
      after.toList.reverse ++ '/' :: before.toList.reverse := by
    simp
  have hrest : ((before ++ "/" ++ after).toList.reverse.dropWhile (· != '/')).tail.reverse =
      before.toList := by
    rw [hreversed, List.dropWhile_append_of_pos]
    · simp
    · intro c hc
      have hslash : c ≠ '/' := fun h => hafter (h ▸ List.mem_reverse.mp hc)
      simpa using hslash
  unfold directory?
  dsimp only
  rw [if_pos (by simp), hrest]
  by_cases hempty : before = ""
  · rw [if_pos hempty, hempty]
    rfl
  · rw [if_neg hempty]
    cases hchars : before.toList with
    | nil => exact absurd (String.toList_eq_nil_iff.mp hchars) hempty
    | cons c cs =>
        have hbefore : String.ofList (c :: cs) = before := by rw [← hchars, String.ofList_toList]
        exact congrArg some hbefore

theorem directory?_eq_none {path : String} (h : '/' ∉ path.toList) : directory? path = none := by
  unfold directory?
  rw [if_neg (by simpa using h)]

/-- A directory other than the root is the text before the last slash. -/
theorem exists_cutAtLastSlash_of_directory? {path directory : String}
    (h : directory? path = some directory) (hne : directory ≠ "/") :
    ∃ after, CutAtLastSlash path directory after := by
  by_cases hslash : '/' ∈ path.toList
  · obtain ⟨before, after, hcut⟩ := exists_cutAtLastSlash hslash
    rw [hcut.directory?_eq] at h
    obtain rfl := Option.some.inj h
    by_cases hempty : before = ""
    · exact absurd (if_pos hempty) hne
    · rw [if_neg hempty]
      exact ⟨after, hcut⟩
  · rw [directory?_eq_none hslash] at h
    cases h

/-- Cutting a path gives its directory, and without a slash there is nothing to cut. -/
theorem isDirectoryOrName_iff {path directory : String} :
    IsDirectoryOrName path directory ↔ directory = (directory? path).getD path := by
  constructor
  · rintro (⟨hcut, hne⟩ | hcut | hnone)
    · rw [hcut.directory?_eq, if_neg hne, Option.getD_some]
    · rw [hcut.directory?_eq, if_pos rfl, Option.getD_some]
    · rw [directory?_eq_none hnone, Option.getD_none]
  · rintro rfl
    by_cases hslash : '/' ∈ path.toList
    · obtain ⟨before, after, hcut⟩ := exists_cutAtLastSlash hslash
      rw [hcut.directory?_eq, Option.getD_some]
      by_cases hempty : before = ""
      · subst hempty
        exact .root hcut
      · rw [if_neg hempty]
        exact .directory hcut hempty
    · rw [directory?_eq_none hslash, Option.getD_none]
      exact .name hslash

/-! ## The option -/

/-- The parts at the first semicolon make up the text, and the first part has no semicolon. -/
theorem splitAtSemicolon?_eq_some {text before behind : String}
    (h : splitAtSemicolon? text = some (before, behind)) :
    ';' ∉ before.toList ∧ before ++ ";" ++ behind = text := by
  unfold splitAtSemicolon? at h
  dsimp only at h
  split at h
  case isTrue hmem =>
    obtain ⟨rfl, rfl⟩ := Prod.mk.inj (Option.some.inj h)
    have htext := List.takeWhile_append_dropWhile (p := (· != ';')) (l := text.toList)
    constructor
    · rw [String.toList_ofList]
      intro hbefore
      simpa using List.mem_takeWhile_imp hbefore
    · rcases eq_nil_or_cons_of_dropWhile (· != ';') text.toList with
        hnone | ⟨c, rest, hrest, hc⟩
      · have hall := List.dropWhile_eq_nil_iff.mp hnone ';' (List.contains_iff_mem.mp hmem)
        exact absurd hall (by simp)
      · obtain rfl : c = ';' := by simpa using hc
        rw [hrest] at htext ⊢
        rw [← String.toList_inj]
        simpa using htext
  case isFalse => cases h

theorem splitAtSemicolon?_eq_none_iff {text : String} :
    splitAtSemicolon? text = none ↔ ';' ∉ text.toList := by
  unfold splitAtSemicolon?
  by_cases hmem : ';' ∈ text.toList <;> simp [hmem]

namespace File

/-- The options of a file name a Go package. An empty text and a value of another type name none. -/
def NamesGoPackage (file : File) (package : String) : Prop :=
  file.options.get? "goPackage" = some (.string package) ∧ package ≠ ""

theorem goPackage?_eq_some_iff {file : File} {package : String} :
    file.goPackage? = some package ↔ file.NamesGoPackage package := by
  unfold goPackage? Options.string? NamesGoPackage
  cases hvalue : file.options.get? "goPackage" with
  | none => simp
  | some value =>
      cases value with
      | string text =>
          simp only [Option.bind_some, Json.Value.asString?, Option.filter_eq_some_iff]
          simp only [Option.some.injEq, Json.Value.string.injEq]
          constructor
          · rintro ⟨rfl, hne⟩
            exact ⟨rfl, by simpa using hne⟩
          · rintro ⟨rfl, hne⟩
            exact ⟨rfl, by simpa using hne⟩
      | _ => simp [Json.Value.asString?]

theorem goPackage?_eq_none {file : File} (h : ∀ package, ¬file.NamesGoPackage package) :
    file.goPackage? = none := by
  rw [Option.eq_none_iff_forall_not_mem]
  intro package hpackage
  exact h package (goPackage?_eq_some_iff.mp hpackage)

/-- What a generator of Go code is told of a file, by the option that names the Go package, or else by
the name of the file. -/
structure FollowsGoPackage (file : File) : Prop where
  /-- Whichever way it is spelled, the option is stored under one key. -/
  spelled : ∀ spelling ∈ ["goPackage", "go_package"], ∀ value,
    (file.options.set spelling value).get? "goPackage" = some value
  /-- An option with a semicolon gives both, cut at the first one. -/
  semicolon : ∀ package, file.NamesGoPackage package → ';' ∈ package.toList →
    ';' ∉ file.goPackageImport.toList ∧
      file.goPackageImport ++ ";" ++ file.goPackageName = package
  /-- Any other option is the import path, and the package is called as that path is. -/
  plain : ∀ package, file.NamesGoPackage package → ';' ∉ package.toList →
    file.goPackageImport = package ∧
      ∀ name, IsBaseName package name ↔ name = file.goPackageName
  /-- Without the option the package is called as the file is. -/
  unnamed : (∀ package, ¬file.NamesGoPackage package) →
    ∀ name, IsBaseName file.name name ↔ name = file.goPackageName
  /-- Without the option the import path is the directory of the file, or the name of the file if it
  has no slash. -/
  imported : (∀ package, ¬file.NamesGoPackage package) →
    (∀ after, ¬CutAtLastSlash file.name "." after) →
      ∀ path, IsDirectoryOrName file.name path ↔ path = file.goPackageImport
  /-- The import path of a file in the current directory is its name. -/
  current : (∀ package, ¬file.NamesGoPackage package) →
    ∀ after, CutAtLastSlash file.name "." after → file.goPackageImport = file.name

/-- Every file follows the option or its name; only the name of a file in the current directory is
not cut. -/
theorem followsGoPackage (file : File) : file.FollowsGoPackage where
  spelled spelling hspelling value := by
    have hkey : jsonKey spelling = "goPackage" := by
      simp only [List.mem_cons, List.not_mem_nil, or_false] at hspelling
      rcases hspelling with rfl | rfl <;> decide +kernel
    rw [← hkey]
    exact file.options.get?_set_self spelling value
  semicolon package hnamed hmem := by
    have hpackage := goPackage?_eq_some_iff.mpr hnamed
    cases hsplit : splitAtSemicolon? package with
    | none => exact absurd hmem (splitAtSemicolon?_eq_none_iff.mp hsplit)
    | some parts =>
        obtain ⟨before, behind⟩ := parts
        have himport : file.goPackageImport = before := by
          simp only [goPackageImport, hpackage, hsplit]
        have hname : file.goPackageName = behind := by
          simp only [goPackageName, hpackage, hsplit]
        rw [himport, hname]
        exact splitAtSemicolon?_eq_some hsplit
  plain package hnamed hmem := by
    have hpackage := goPackage?_eq_some_iff.mpr hnamed
    have hsplit := splitAtSemicolon?_eq_none_iff.mpr hmem
    have hname : file.goPackageName = lastSegment package := by
      simp only [goPackageName, hpackage, hsplit]
    refine ⟨by simp only [goPackageImport, hpackage, hsplit], fun name => ?_⟩
    rw [hname, isBaseName_iff]
  unnamed hnone name := by
    rw [isBaseName_iff, goPackageName, goPackage?_eq_none hnone]
  imported hnone hdot path := by
    have himport : file.goPackageImport = (directory? file.name).getD file.name := by
      unfold goPackageImport
      rw [goPackage?_eq_none hnone]
      cases hdirectory : directory? file.name with
      | none => rfl
      | some directory =>
          have hcurrent : directory ≠ "." := by
            rintro rfl
            obtain ⟨after, hcut⟩ := exists_cutAtLastSlash_of_directory? hdirectory (by decide)
            exact hdot after hcut
          simp [hcurrent]
    rw [isDirectoryOrName_iff, himport]
  current hnone after hcut := by
    simp [goPackageImport, goPackage?_eq_none hnone, hcut.directory?_eq]

end File

/-- A file in the current directory has that directory, but its import path is its name. -/
theorem not_isDirectoryOrName_units :
    let file : File := { (default : File) with name := "./units.proto" }
    IsDirectoryOrName file.name "." ∧ ¬IsDirectoryOrName file.name file.goPackageImport := by
  intro file
  have hcut : CutAtLastSlash file.name "." "units.proto" := ⟨by decide, by decide⟩
  refine ⟨.directory hcut (by decide), fun h => ?_⟩
  have himport : file.goPackageImport = "./units.proto" := by decide +kernel
  rw [isDirectoryOrName_iff, hcut.directory?_eq, himport] at h
  exact absurd h (by decide)

end LinkedSchema
