import KeyCustody.Google.Settings
import KeyCustody.Proofs.Files

namespace KeyCustody.Google

section ShortNames

theorem takeWhile_plain {short : List Char} (plain : '/' ∉ short) (rest : List Char) :
    (short.reverse ++ rest).takeWhile (fun c => decide (c ≠ '/')) =
      short.reverse ++ rest.takeWhile fun c => decide (c ≠ '/') := by
  apply List.takeWhile_append_of_pos
  intro c member
  rw [decide_eq_true_iff]
  rintro rfl
  exact plain (List.mem_reverse.mp member)

theorem shortName_of_plain {name : String} (plain : '/' ∉ name.toList) : shortName name = name := by
  rw [shortName, ← List.append_nil name.toList.reverse, takeWhile_plain plain, List.takeWhile_nil,
    List.append_nil, List.reverse_reverse, String.ofList_toList]

theorem shortName_behind_slash (front : String) {short : String} (plain : '/' ∉ short.toList) :
    shortName (front ++ "/" ++ short) = short := by
  have form : (front ++ "/" ++ short).toList.reverse =
      short.toList.reverse ++ '/' :: front.toList.reverse := by
    simp
  rw [shortName, form, takeWhile_plain plain, List.takeWhile_cons_of_neg (by simp),
    List.append_nil, List.reverse_reverse, String.ofList_toList]

theorem shortName_split (name : String) :
    name = shortName name ∨ ∃ front, name = front ++ "/" ++ shortName name := by
  by_cases slash : '/' ∈ name.toList
  · right
    -- The last slash is the first one from the end.
    obtain ⟨back, front, split, plain⟩ :=
      List.eq_append_cons_of_mem (List.mem_reverse.mpr slash)
    have form : name = String.ofList front.reverse ++ "/" ++ String.ofList back.reverse := by
      have whole := congrArg List.reverse split
      rw [List.reverse_reverse] at whole
      apply String.toList_inj.mp
      simp [whole]
    refine ⟨String.ofList front.reverse, ?_⟩
    conv => rhs; rw [form, shortName_behind_slash _ (by simpa using plain)]
    exact form
  · exact .inl (shortName_of_plain slash).symm

/-- The part after the last slash, or the whole name if it has none. -/
theorem shortName_eq_iff (name short : String) :
    shortName name = short ↔
      '/' ∉ short.toList ∧ (name = short ∨ ∃ front, name = front ++ "/" ++ short) := by
  constructor
  · rintro rfl
    exact ⟨slash_not_mem_shortName name, shortName_split name⟩
  · rintro ⟨plain, rfl | ⟨front, rfl⟩⟩
    · exact shortName_of_plain plain
    · exact shortName_behind_slash front plain

end ShortNames

section Paths
variable (settings : Settings)

theorem isEntry_exported (name : String) : Files.IsEntry (shortName name ++ ".pem") := by
  have length : 4 ≤ (shortName name ++ ".pem").length := by
    rw [String.length_append]
    exact Nat.le_add_left 4 _
  refine ⟨⟨by simp, ?_⟩, ?_, ?_⟩
  · rw [String.toList_append, List.mem_append, not_or]
    exact ⟨slash_not_mem_shortName name, by decide⟩
  · intro same
    rw [same] at length
    exact absurd length (by decide)
  · intro same
    rw [same] at length
    exact absurd length (by decide)

theorem behind_exported (directory name : String) :
    Files.Behind directory (shortName name ++ ".pem") (exportPath directory (shortName name)) :=
  Files.behind_join directory (isEntry_exported name).toIsComponent

/-- Two names have one path exactly when they end alike. -/
theorem exportPath_eq_iff (directory name other : String) :
    exportPath directory (shortName name) = exportPath directory (shortName other) ↔
      shortName name = shortName other := by
  unfold exportPath
  rw [Files.join_left_inj directory (isEntry_exported name).toIsComponent
    (isEntry_exported other).toIsComponent]
  exact String.append_left_inj ".pem"

theorem place_exported {files : Files} {directory name : String} {place : List String}
    (found : files.resolve (exportPath directory (shortName name)) = .ok place) :
    ∃ base, files.IsDirectoryAt directory base ∧ place = base ++ [shortName name ++ ".pem"] :=
  Files.resolve_behind (behind_exported directory name) (isEntry_exported name) found

theorem places_apart {files : Files} {name other : String}
    (apart : shortName name ≠ shortName other) (place : List String)
    (found : files.resolve (settings.pathFor name) = .ok place) :
    files.resolve (settings.pathFor other) ≠ .ok place := by
  intro same
  obtain ⟨base, -, rfl⟩ := place_exported found
  obtain ⟨otherBase, -, ending⟩ := place_exported same
  have names := List.append_inj_right' ending rfl
  exact apart ((String.append_left_inj ".pem").mp (List.singleton_inj.mp names))

/-- Wherever a key is exported to, it is an entry of the export directory: the path is that of the
directory and a file name behind it, and in any tree of files it leads nowhere else. The file name
is the end of the resource name, and two keys have one path exactly when these ends are equal. -/
theorem exportPath_inside (directory name : String) :
    (∀ short, shortName name = short ↔
      '/' ∉ short.toList ∧ (name = short ∨ ∃ front, name = front ++ "/" ++ short)) ∧
    Files.IsEntry (shortName name ++ ".pem") ∧
    Files.Behind directory (shortName name ++ ".pem") (exportPath directory (shortName name)) ∧
    (∀ (files : Files) (place : List String),
      files.resolve (exportPath directory (shortName name)) = .ok place →
        ∃ base, files.IsDirectoryAt directory base ∧ place = base ++ [shortName name ++ ".pem"]) ∧
    ∀ other, exportPath directory (shortName name) = exportPath directory (shortName other) ↔
      shortName name = shortName other :=
  ⟨shortName_eq_iff name, isEntry_exported name, behind_exported directory name,
    fun _ _ found => place_exported found, exportPath_eq_iff directory name⟩

example : exportPath "/srv/keys" (shortName "ring/..") = "/srv/keys/...pem" := by decide +kernel

end Paths

end KeyCustody.Google
