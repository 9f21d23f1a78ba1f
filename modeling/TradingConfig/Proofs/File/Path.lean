/-
  TradingConfig.Proofs.File.Path
  ────────────────────────────────
  **THE SEGMENTS OF A SCRATCH PATH.**

  A path is cut at its slashes, and joining two paths joins their segments.
  So the scratch path of a file ends in the name of the file with the
  ending added (`exists_segments_scratch_of_name`); where a path ends in no
  name, the ending stands below the place of the path itself
  (`exists_segments_scratch_of_none`).
-/
import TradingConfig.File.Path

namespace TradingConfig

/-! ## §1. Pieces. -/

theorem piecesBetween_ne_nil (separator : Char) (text : List Char) :
    piecesBetween separator text ≠ [] := by
  cases text with
  | nil => exact List.cons_ne_nil [] []
  | cons c rest =>
    unfold piecesBetween
    split
    · exact List.cons_ne_nil _ _
    · split <;> exact List.cons_ne_nil _ _

theorem piecesBetween_append (separator : Char) (first rest : List Char) :
    piecesBetween separator (first ++ separator :: rest)
      = piecesBetween separator first ++ piecesBetween separator rest := by
  induction first with
  | nil => simp [piecesBetween]
  | cons c first ih =>
    by_cases same : c = separator
    · simp [piecesBetween, same, ih]
    · simp only [List.cons_append, piecesBetween, same, if_false, ih]
      cases pieces : piecesBetween separator first with
      | nil => exact absurd pieces (piecesBetween_ne_nil separator first)
      | cons piece pieces => rfl

theorem piecesBetween_of_not_mem {separator : Char} {text : List Char}
    (absent : separator ∉ text) : piecesBetween separator text = [text] := by
  induction text with
  | nil => rfl
  | cons c rest ih =>
    rw [List.mem_cons, not_or] at absent
    simp [piecesBetween, Ne.symm absent.1, ih absent.2]

/-- No piece holds the separator. -/
theorem not_mem_of_mem_piecesBetween {separator : Char} {text piece : List Char}
    (member : piece ∈ piecesBetween separator text) : separator ∉ piece := by
  induction text generalizing piece with
  | nil =>
    obtain rfl := List.mem_singleton.mp member
    exact List.not_mem_nil
  | cons c rest ih =>
    unfold piecesBetween at member
    split at member
    · rcases List.mem_cons.mp member with rfl | later
      · exact List.not_mem_nil
      · exact ih later
    next other =>
      split at member
      next pieces => exact absurd pieces (piecesBetween_ne_nil separator rest)
      next head pieces split =>
        rcases List.mem_cons.mp member with rfl | later
        · have inHead := ih (split ▸ List.mem_cons_self)
          simp [Ne.symm other, inHead]
        · exact ih (split ▸ List.mem_cons_of_mem head later)

namespace Path

/-! ## §2. Joined paths. -/

/-- A name that stands between two slashes. -/
structure IsName (name : String) : Prop where
  /-- It leads somewhere. -/
  notIdle : isIdle name = false
  /-- It does not lead back. -/
  notParent : name ≠ ".."
  /-- It holds no slash. -/
  noSlash : '/' ∉ name.toList

theorem IsName.ne_empty {name : String} (isName : IsName name) : name ≠ "" := by
  rintro rfl
  exact absurd isName.notIdle (by decide)

theorem segments_of_noSlash {path : Path} (noSlash : '/' ∉ path.text.toList) :
    path.segments = [path.text] := by
  unfold segments
  rw [piecesBetween_of_not_mem noSlash]
  simp

theorem segments_append_slash (first : List Char) (rest : String) :
    segments ⟨String.ofList (first ++ '/' :: rest.toList)⟩
      = segments ⟨String.ofList first⟩ ++ segments ⟨rest⟩ := by
  unfold segments
  simp only [String.toList_ofList, piecesBetween_append, List.map_append]

theorem noSlash_of_mem_segments {path : Path} {segment : String}
    (member : segment ∈ path.segments) : '/' ∉ segment.toList := by
  obtain ⟨piece, isPiece, rfl⟩ := List.mem_map.mp member
  rw [String.toList_ofList]
  exact not_mem_of_mem_piecesBetween isPiece

theorem isAbsolute_of_noSlash {name : String} (noSlash : '/' ∉ name.toList) :
    isAbsolute ⟨name⟩ = false := by
  unfold isAbsolute
  cases characters : name.toList with
  | nil => rfl
  | cons c rest =>
    rw [characters, List.mem_cons, not_or] at noSlash
    simp [Ne.symm noSlash.1]

/-- A name is joined to a directory with a slash in between, unless the
directory ends with one. -/
theorem join_of_noSlash {directory : Path} {name : String} (noSlash : '/' ∉ name.toList)
    (written : directory.text ≠ "") :
    directory.join ⟨name⟩
      = if directory.text.toList.getLast? = some '/' then ⟨directory.text ++ name⟩
        else ⟨directory.text ++ "/" ++ name⟩ := by
  unfold join
  simp only [isAbsolute_of_noSlash noSlash, written, Bool.false_eq_true, decide_false,
    Bool.false_or, decide_eq_true_eq, if_false]

theorem isAbsolute_join_of_noSlash {directory : Path} {name : String}
    (noSlash : '/' ∉ name.toList) (written : directory.text ≠ "") :
    (directory.join ⟨name⟩).isAbsolute = directory.isAbsolute := by
  have nonempty : directory.text.toList ≠ [] :=
    fun empty => written (String.toList_eq_nil_iff.mp empty)
  obtain ⟨c, rest, characters⟩ := List.exists_cons_of_ne_nil nonempty
  rw [join_of_noSlash noSlash written]
  split <;> simp [isAbsolute, String.toList_append, characters]

/-- Names that are joined to a directory have the same segments in front of
them: those of the directory, of which only an empty one at the end can be
missing. -/
theorem exists_parents (directory : Path) (written : directory.text ≠ "") :
    ∃ parents idle, directory.segments = parents ++ idle ∧ (∀ segment ∈ idle, isIdle segment)
      ∧ ∀ name : String, '/' ∉ name.toList →
        (directory.join ⟨name⟩).segments = parents ++ [name] := by
  by_cases slash : directory.text.toList.getLast? = some '/'
  · -- the directory ends with a slash: its last segment is empty
    obtain ⟨init, ends⟩ := List.getLast?_eq_some_iff.mp slash
    have directoryText : directory.text = String.ofList (init ++ '/' :: "".toList) :=
      String.toList_inj.mp (by rw [ends, String.toList_ofList]; rfl)
    refine ⟨segments ⟨String.ofList init⟩, [""], ?_, ?_, ?_⟩
    · have cut := segments_append_slash init ""
      rw [← directoryText] at cut
      exact cut
    · intro segment member
      obtain rfl := List.mem_singleton.mp member
      rfl
    · intro name noSlash
      have joinedText : directory.text ++ name = String.ofList (init ++ '/' :: name.toList) :=
        String.toList_inj.mp (by rw [String.toList_append, ends, String.toList_ofList]; simp)
      rw [join_of_noSlash noSlash written, if_pos slash, joinedText, segments_append_slash,
        segments_of_noSlash noSlash]
  · refine ⟨directory.segments, [], (List.append_nil _).symm, by simp, ?_⟩
    intro name noSlash
    have joinedText : directory.text ++ "/" ++ name
        = String.ofList (directory.text.toList ++ '/' :: name.toList) :=
      String.toList_inj.mp (by simp)
    rw [join_of_noSlash noSlash written, if_neg slash, joinedText, segments_append_slash,
      String.ofList_toList, segments_of_noSlash noSlash]

/-! ## §3. The scratch path. -/

/-- The segments that are trimmed lead nowhere. -/
theorem exists_trimEnd_append (segments : List String) :
    ∃ idle, segments = trimEnd segments ++ idle ∧ ∀ segment ∈ idle, isIdle segment = true := by
  cases segments with
  | nil => exact ⟨[], rfl, by simp⟩
  | cons first rest =>
    refine ⟨(rest.reverse.takeWhile isIdle).reverse, ?_, ?_⟩
    · have whole := congrArg List.reverse (List.takeWhile_append_dropWhile (p := isIdle)
        (l := rest.reverse))
      rw [List.reverse_append, List.reverse_reverse] at whole
      show first :: rest = first :: (_ ++ _)
      rw [whole]
    · intro segment member
      exact List.all_eq_true.mp List.all_takeWhile segment (List.mem_reverse.mp member)

/-- The name that a path ends in. -/
theorem exists_segments_of_splitName? {path : Path} {parent : List String} {name : String}
    (split : path.splitName? = some (parent, name)) :
    ∃ before idle, path.segments = before ++ name :: idle
      ∧ (∀ segment ∈ idle, isIdle segment = true) ∧ IsName name := by
  unfold splitName? at split
  simp only at split
  cases last : (trimEnd path.segments).getLast? with
  | none => rw [last] at split; cases split
  | some found =>
    rw [last] at split
    simp only at split
    split at split
    · cases split
    next isName =>
      obtain ⟨-, rfl⟩ := Prod.mk.inj (Option.some.inj split)
      obtain ⟨before, kept⟩ := List.getLast?_eq_some_iff.mp last
      obtain ⟨idle, whole, allIdle⟩ := exists_trimEnd_append path.segments
      rw [kept, List.append_assoc, List.singleton_append] at whole
      simp only [Bool.or_eq_true, decide_eq_true_eq, not_or, Bool.not_eq_true] at isName
      have member : found ∈ path.segments := by rw [whole]; simp
      exact ⟨before, idle, whole, allIdle, isName.1, isName.2, noSlash_of_mem_segments member⟩

theorem IsName.scratch {name : String} (isName : IsName name) : IsName (name ++ scratchEnding) := by
  have characters : (name ++ scratchEnding).toList = name.toList ++ ['.', 't', 'm', 'p'] := by
    rw [String.toList_append]
    rfl
  have long : 5 ≤ (name ++ scratchEnding).toList.length := by
    have nonempty : name.toList ≠ [] := fun empty =>
      isName.ne_empty (String.toList_eq_nil_iff.mp empty)
    have := List.length_pos_iff.mpr nonempty
    rw [characters, List.length_append]
    simp only [List.length_cons, List.length_nil]
    omega
  -- the scratch name is longer than every segment that is no name
  have other : ∀ short : String, short.toList.length < 5 → name ++ scratchEnding ≠ short := by
    rintro short bound rfl
    omega
  refine ⟨?_, other ".." (by decide), ?_⟩
  · simp only [isIdle, Bool.or_eq_false_iff, decide_eq_false_iff_not]
    exact ⟨other "" (by decide), other "." (by decide)⟩
  · rw [characters, List.mem_append, not_or]
    exact ⟨isName.noSlash, by decide⟩

/-- The scratch path of a file ends in the name of the file with the
scratch ending. -/
theorem exists_segments_scratch_of_name {path : Path} {parent : List String} {name : String}
    (split : path.splitName? = some (parent, name)) :
    ∃ parents, path.scratch.segments = parents ++ [name ++ scratchEnding] := by
  obtain ⟨_, _, _, _, isName⟩ := exists_segments_of_splitName? split
  have isScratch := isName.scratch
  unfold scratch
  rw [split]
  simp only
  by_cases empty : (if parent = [""] then "/" else String.intercalate "/" parent) = ""
  · -- no parent: the scratch name is joined to the empty path
    refine ⟨[], ?_⟩
    rw [empty]
    have joined : join ⟨""⟩ ⟨name ++ scratchEnding⟩ = ⟨name ++ scratchEnding⟩ := by
      unfold join
      split
      · rfl
      · simp
    rw [joined, segments_of_noSlash isScratch.noSlash]
    rfl
  · obtain ⟨parents, _, _, _, joined⟩ := exists_parents ⟨_⟩ empty
    exact ⟨parents, joined _ isScratch.noSlash⟩

/-- Where a path ends in no name, its scratch path ends below it. -/
theorem exists_segments_scratch_of_none {path : Path} (split : path.splitName? = none)
    (written : path.text ≠ "") :
    ∃ parents idle, path.segments = parents ++ idle ∧ (∀ segment ∈ idle, isIdle segment)
      ∧ path.scratch.segments = parents ++ [scratchEnding] := by
  obtain ⟨parents, idle, segments, allIdle, joined⟩ := exists_parents path written
  unfold scratch
  rw [split]
  exact ⟨parents, idle, segments, allIdle, joined scratchEnding (by decide)⟩

theorem isAbsolute_scratch_of_none {path : Path} (split : path.splitName? = none)
    (written : path.text ≠ "") : path.scratch.isAbsolute = path.isAbsolute := by
  unfold scratch
  rw [split]
  exact isAbsolute_join_of_noSlash (by decide) written

/-- The name that the segments of a path end in is split off. -/
theorem splitName?_of_segments {path : Path} {parents : List String} {name : String}
    (segments : path.segments = parents ++ [name]) (isName : IsName name) :
    path.splitName? = some (trimEnd parents, name) := by
  have kept : trimEnd path.segments = parents ++ [name] := by
    rw [segments]
    cases parents with
    | nil => rfl
    | cons first rest => simp [trimEnd, isName.notIdle]
  unfold splitName?
  simp only [kept, List.getLast?_concat, List.dropLast_concat]
  rw [if_neg (by simp [isName.notIdle, isName.notParent])]

end Path

end TradingConfig
