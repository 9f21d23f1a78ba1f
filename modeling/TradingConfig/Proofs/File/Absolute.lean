/-
  TradingConfig.Proofs.File.Absolute
  ────────────────────────────────
  **WHAT AN ABSOLUTE PATH IS MADE OF.**

  The names of a joined path are those of the directory and those of the
  path (`names_join`).  So the absolute form of a path is absolute and has
  the names of the path seen from the working directory
  (`exists_absolute?`), and two absolute paths are equal exactly when their
  names are (`components_eq_iff`).  Dots, slashes and the working directory
  in front are spelling (`names_join_of_respelled`).
-/
import Mathlib.Logic.Relation
import TradingConfig.File.Absolute
import TradingConfig.Proofs.File.Path

namespace TradingConfig

namespace Path

/-! ## §1. The names of a joined path. -/

theorem names_append_slash (front rest : String) :
    names ⟨front ++ "/" ++ rest⟩ = names ⟨front⟩ ++ names ⟨rest⟩ := by
  have text : front ++ "/" ++ rest = String.ofList (front.toList ++ '/' :: rest.toList) :=
    String.toList_inj.mp (by simp)
  unfold names
  rw [text, segments_append_slash, String.ofList_toList, List.filter_append]

/-- What is written behind a path does not change where it starts. -/
theorem isAbsolute_append {front : String} (written : front ≠ "") (rest : String) :
    isAbsolute ⟨front ++ rest⟩ = isAbsolute ⟨front⟩ := by
  have nonempty : front.toList ≠ [] := fun empty => written (String.toList_eq_nil_iff.mp empty)
  obtain ⟨c, more, characters⟩ := List.exists_cons_of_ne_nil nonempty
  simp [isAbsolute, String.toList_append, characters]

theorem join_of_isAbsolute {path : Path} (rooted : path.isAbsolute = true) (directory : Path) :
    directory.join path = path := by
  unfold join
  rw [if_pos rooted]

/-- A relative path is written behind its directory, with one slash more if
there is none yet. -/
theorem join_of_relative {directory path : Path} (written : directory.text ≠ "")
    (relative : path.isAbsolute = false) :
    directory.join path
      = if directory.text.toList.getLast? = some '/' then ⟨directory.text ++ path.text⟩
        else ⟨directory.text ++ "/" ++ path.text⟩ := by
  unfold join
  simp only [relative, written, Bool.false_eq_true, decide_false, Bool.false_or, decide_eq_true_eq,
    if_false]

theorem text_ne_empty_of_isAbsolute {path : Path} (rooted : path.isAbsolute = true) :
    path.text ≠ "" := by
  intro empty
  unfold isAbsolute at rooted
  rw [empty] at rooted
  exact absurd rooted (by decide)

theorem isAbsolute_join {directory path : Path} (rooted : directory.isAbsolute = true) :
    (directory.join path).isAbsolute = true := by
  have written := text_ne_empty_of_isAbsolute rooted
  cases start : path.isAbsolute with
  | true => rwa [join_of_isAbsolute start]
  | false =>
    rw [join_of_relative written start]
    split
    · rwa [isAbsolute_append written]
    · rwa [String.append_assoc, isAbsolute_append written]

theorem names_join {directory path : Path} (written : directory.text ≠ "")
    (relative : path.isAbsolute = false) :
    (directory.join path).names = directory.names ++ path.names := by
  rw [join_of_relative written relative]
  split
  next slash =>
    -- the slash at the end of the directory is the one in between
    obtain ⟨init, ends⟩ := List.getLast?_eq_some_iff.mp slash
    have text : directory.text = String.ofList init ++ "/" :=
      String.toList_inj.mp (by rw [ends]; simp)
    have own : directory.names = names ⟨String.ofList init⟩ := by
      have cut := names_append_slash (String.ofList init) ""
      rw [String.append_empty, ← text] at cut
      exact cut.trans (List.append_nil _)
    rw [text, names_append_slash, own]
  · exact names_append_slash directory.text path.text

/-! ## §2. Equality component by component. -/

theorem Component.text_ofSegment (segment : String) :
    (Component.ofSegment segment).text = segment := by
  unfold Component.ofSegment
  split
  next back => exact back.symm
  · rfl

theorem Component.ofSegment_injective : Function.Injective Component.ofSegment := by
  intro first second same
  have texts := congrArg Component.text same
  rwa [Component.text_ofSegment, Component.text_ofSegment] at texts

theorem components_of_isAbsolute {path : Path} (rooted : path.isAbsolute = true) :
    path.components = .root :: path.names.map Component.ofSegment := by
  unfold components lead
  rw [if_pos rooted]
  rfl

/-- Absolute paths are equal when they have the same names. -/
theorem components_eq_iff {first second : Path} (rooted : first.isAbsolute = true)
    (rootedToo : second.isAbsolute = true) :
    first.components = second.components ↔ first.names = second.names := by
  rw [components_of_isAbsolute rooted, components_of_isAbsolute rootedToo,
    List.cons_inj_right Component.root, List.map_inj_right Component.ofSegment_injective]

/-! ## §3. The absolute form. -/

/-- Names pushed onto an absolute path follow its own. -/
theorem extend_names {names : List String}
    (isName : ∀ name ∈ names, isIdle name = false ∧ '/' ∉ name.toList)
    {directory : Path} (rooted : directory.isAbsolute = true) :
    (directory.extend (names.map Component.ofSegment)).isAbsolute = true
      ∧ (directory.extend (names.map Component.ofSegment)).names = directory.names ++ names := by
  induction names generalizing directory with
  | nil => exact ⟨rooted, (List.append_nil _).symm⟩
  | cons name names ih =>
    obtain ⟨⟨notIdle, noSlash⟩, others⟩ := List.forall_mem_cons.mp isName
    have piece : Path.segments ⟨name⟩ = [name] := segments_of_noSlash noSlash
    have single : Path.names ⟨name⟩ = [name] := by
      unfold Path.names
      rw [piece]
      simp [notIdle]
    have below : (directory.join ⟨name⟩).isAbsolute = true := isAbsolute_join rooted
    obtain ⟨rootedThen, namesThen⟩ := ih others below
    rw [names_join (text_ne_empty_of_isAbsolute rooted) (isAbsolute_of_noSlash noSlash), single,
      List.append_assoc, List.singleton_append] at namesThen
    have step : directory.extend ((name :: names).map Component.ofSegment)
        = (directory.join ⟨name⟩).extend (names.map Component.ofSegment) := by
      show extend (directory.join ⟨(Component.ofSegment name).text⟩) _ = _
      rw [Component.text_ofSegment]
    rw [step]
    exact ⟨rootedThen, namesThen⟩

theorem isName_of_mem_names {path : Path} :
    ∀ name ∈ path.names, isIdle name = false ∧ '/' ∉ name.toList := by
  intro name member
  obtain ⟨isSegment, notIdle⟩ := List.mem_filter.mp member
  exact ⟨by simpa using notIdle, noSlash_of_mem_segments isSegment⟩

/-- A path spelled out from an absolute directory. -/
theorem extend_body {directory : Path} (rooted : directory.isAbsolute = true) (path : Path) :
    (directory.extend path.body).isAbsolute = true
      ∧ (directory.extend path.body).names = directory.names ++ path.names :=
  extend_names isName_of_mem_names rooted

theorem exists_spellOut? {home : Path} (rooted : home.isAbsolute = true) (path : Path) :
    ∃ spelled, path.spellOut? (some home) = some spelled ∧ spelled.isAbsolute = true
      ∧ spelled.names = (home.join path).names := by
  unfold spellOut?
  cases start : path.isAbsolute with
  | true =>
    rw [if_pos rfl, join_of_isAbsolute start]
    split
    · have slashes : Path.isAbsolute ⟨"//"⟩ = true := rfl
      exact ⟨_, rfl, extend_body slashes path⟩
    · -- the root is pushed first, which gives the path of the root
      have pushed : extend ⟨""⟩ path.components = extend ⟨"/"⟩ path.body := by
        rw [components_of_isAbsolute start]
        rfl
      have slash : Path.isAbsolute ⟨"/"⟩ = true := rfl
      rw [pushed]
      exact ⟨_, rfl, extend_body slash path⟩
  | false =>
    rw [if_neg Bool.false_ne_true, names_join (text_ne_empty_of_isAbsolute rooted) start]
    exact ⟨_, rfl, extend_body rooted path⟩

/-- **The absolute form of a path is absolute, and has the names of the path
seen from the working directory.** -/
theorem exists_absolute? {home path : Path} (rooted : home.isAbsolute = true)
    (written : path.text ≠ "") :
    ∃ spelled, path.absolute? (some home) = some spelled ∧ spelled.isAbsolute = true
      ∧ spelled.names = (home.join path).names := by
  obtain ⟨spelled, spelledIs, spelledRooted, names⟩ := exists_spellOut? rooted path
  unfold absolute?
  rw [if_neg written, spelledIs]
  split
  · refine ⟨_, rfl, isAbsolute_join spelledRooted, ?_⟩
    rw [names_join (text_ne_empty_of_isAbsolute spelledRooted) rfl, names]
    exact List.append_nil _
  · exact ⟨_, rfl, spelledRooted, names⟩

/-! ## §4. Spellings. -/

/-- One path written in another way: with a single dot or one more slash in
between, with a single dot in front or a slash at the end, or as seen from
the working directory. -/
inductive Respelled (home : Path) : Path → Path → Prop where
  /-- A single dot between two slashes. -/
  | dot (front rest : String) : Respelled home ⟨front ++ "/" ++ rest⟩ ⟨front ++ "/./" ++ rest⟩
  /-- A slash is doubled. -/
  | slash (front rest : String) : Respelled home ⟨front ++ "/" ++ rest⟩ ⟨front ++ "//" ++ rest⟩
  /-- A single dot in front of a relative path. -/
  | leadingDot (path : Path) (relative : path.isAbsolute = false) (written : path.text ≠ "") :
    Respelled home path ⟨"./" ++ path.text⟩
  /-- A slash at the end. -/
  | trailingSlash (path : Path) (written : path.text ≠ "") :
    Respelled home path ⟨path.text ++ "/"⟩
  /-- The working directory in front. -/
  | fromHome (path : Path) (written : path.text ≠ "") : Respelled home path (home.join path)

/-- Paths that start at one place and have the same names are the same from
every directory. -/
theorem names_join_congr {home first second : Path} (rooted : home.isAbsolute = true)
    (start : first.isAbsolute = second.isAbsolute) (names : first.names = second.names) :
    (home.join first).names = (home.join second).names := by
  cases absolute : first.isAbsolute with
  | true => rwa [join_of_isAbsolute absolute, join_of_isAbsolute (start ▸ absolute)]
  | false =>
    have written := text_ne_empty_of_isAbsolute rooted
    rw [names_join written absolute, names_join written (start ▸ absolute), names]

theorem names_join_of_respelled {home first second : Path} (rooted : home.isAbsolute = true)
    (respelled : Respelled home first second) :
    (home.join first).names = (home.join second).names := by
  cases respelled with
  | dot front rest =>
    have more : front ++ "/./" ++ rest = front ++ "/" ++ ("." ++ "/" ++ rest) := by
      simp only [String.append_assoc]
      rfl
    rw [more]
    refine names_join_congr rooted ?_ ?_
    · have slashed : front ++ "/" ≠ "" := by simp
      rw [isAbsolute_append slashed, isAbsolute_append slashed]
    · rw [names_append_slash, names_append_slash, names_append_slash]
      rfl
  | slash front rest =>
    have more : front ++ "//" ++ rest = front ++ "/" ++ ("" ++ "/" ++ rest) := by
      simp only [String.append_assoc]
      rfl
    rw [more]
    refine names_join_congr rooted ?_ ?_
    · have slashed : front ++ "/" ≠ "" := by simp
      rw [isAbsolute_append slashed, isAbsolute_append slashed]
    · rw [names_append_slash, names_append_slash, names_append_slash]
      rfl
  | leadingDot _ relative written =>
    have more : "./" ++ first.text = "." ++ "/" ++ first.text := rfl
    refine names_join_congr rooted ?_ ?_
    · rw [relative, isAbsolute_append (by decide)]
      rfl
    · rw [more, names_append_slash]
      rfl
  | trailingSlash _ written =>
    refine names_join_congr rooted (isAbsolute_append written "/").symm ?_
    have cut := names_append_slash first.text ""
    rw [String.append_empty] at cut
    exact (cut.trans (List.append_nil _)).symm
  | fromHome _ written => rw [join_of_isAbsolute (isAbsolute_join rooted)]

/-- The same for any chain of spellings. -/
theorem names_join_of_eqvGen {home first second : Path} (rooted : home.isAbsolute = true)
    (respelled : Relation.EqvGen (Respelled home) first second) :
    (home.join first).names = (home.join second).names := by
  induction respelled with
  | rel _ _ step => exact names_join_of_respelled rooted step
  | refl _ => rfl
  | symm _ _ _ ih => exact ih.symm
  | trans _ _ _ _ _ ih ihToo => exact ih.trans ihToo

end Path

end TradingConfig
