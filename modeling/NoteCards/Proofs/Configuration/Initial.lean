import NoteCards.Proofs.Configuration.Fields

/-!
# The initial configuration

The text that is written where a user has no configuration reads as the layer that lies below every
other one (`read?_initialText`). So a user who starts with nothing has the initial settings, at
first and from then on (`loadHome_created`). The file is taken for what it is because of its name:
whatever directory it lies in, its name is the last part of its path (`fileName?_eq_some`).
-/

namespace NoteCards.Configuration

open NoteCards.Data NoteCards.Text

theorem read?_initialText : Toml.read? (dropMark initialText.toList) = some initialLayer := by
  -- the letters line by line: of the whole text at once they are slow to compute
  rw [initialText, String.toList_join]
  decide +kernel

theorem settingsOver?_initialLayer : settingsOver? initialLayer = some {} := by
  decide +kernel

/-! ### Names of files -/

theorem splitPath_eq_splitOn (path : List Char) : Disk.splitPath path = path.splitOn '/' := by
  induction path with
  | nil => rfl
  | cons c rest ih =>
    obtain ⟨part, parts, hparts⟩ := List.exists_cons_of_ne_nil (List.splitOn_ne_nil '/' rest)
    rw [Disk.splitPath] at ih ⊢
    rw [List.foldr_cons, ih, List.splitOn_cons_eq_if_modifyHead, hparts]
    simp only [beq_iff_eq, List.modifyHead_cons]

/-- A path whose last part says more than that it is a directory leads to a file of that name. -/
theorem fileName?_eq_some {path : String} {directory name : List Char}
    (hpath : path.toList = directory ++ '/' :: name) (hslash : '/' ∉ name)
    (hname : name ≠ [] ∧ name ≠ ['.'] ∧ name ≠ ['.', '.']) : fileName? path = some name := by
  obtain ⟨hempty, hdot, hdots⟩ := hname
  have hlast : name.splitOn '/' = [name] :=
    List.splitOnP_eq_singleton fun c hc => by simpa using ne_of_mem_of_not_mem hc hslash
  have hparts : Disk.splitPath path.toList = directory.splitOn '/' ++ [name] := by
    rw [splitPath_eq_splitOn, hpath, ← hlast]
    exact List.splitOnP_append_cons directory name (by rfl)
  have hsignificant : significantParts path = directory.splitOn '/' ++ [name] := by
    rw [significantParts, hparts, List.reverse_append, List.reverse_singleton,
      List.singleton_append, List.dropWhile_cons_of_neg (by simp [hempty, hdot]),
      List.reverse_cons, List.reverse_reverse]
  rw [fileName?, hsignificant, List.getLast?_concat]
  exact Option.filter_some_pos (by simpa using hdots)

theorem exists_join_eq {directory : String} (hdirectory : directory ≠ "") (name : String) :
    ∃ front, (Disk.join directory name).toList = front ++ '/' :: name.toList := by
  have hfull : ¬directory.isEmpty = true := by simpa using hdirectory
  rw [Disk.join, if_neg hfull]
  split
  · next hslash =>
    obtain ⟨front, hfront⟩ := List.getLast?_eq_some_iff.1 hslash
    exact ⟨front, by rw [String.toList_append, hfront, List.append_assoc]; rfl⟩
  · exact ⟨directory.toList, by
      rw [String.toList_append, String.toList_append, List.append_assoc]; rfl⟩

namespace Surroundings

variable (surroundings : Surroundings)

theorem directory_ne_empty : surroundings.directory ≠ "" := by
  have hjoin : ∀ base : String, Disk.join base "cardgraph" ≠ "" := by
    intro base hempty
    rw [Disk.join] at hempty
    split at hempty
    · exact absurd hempty (by decide)
    · split at hempty <;> simp [String.append_eq_empty_iff] at hempty
  exact hjoin _

theorem extension?_path : extension? surroundings.path = some "toml" := by
  obtain ⟨front, hfront⟩ := exists_join_eq surroundings.directory_ne_empty "config.toml"
  have hname : fileName? surroundings.path = some "config.toml".toList :=
    fileName?_eq_some hfront (by decide) (by decide)
  rw [extension?, hname]
  decide

end Surroundings

/-! ### Loading what was written -/

section Load

variable {disk : Disk} {path : String} {surroundings : Surroundings} {creation : Creation}

theorem layerAt?_of_toml {text : String} (hfile : disk path = .file (.ofString text))
    (hextension : extension? path = some "toml") :
    layerAt? disk path = Toml.read? (dropMark text.toList) := by
  have hformat : formats.lookup "toml" = some .toml := by decide
  have hchars : (Source.ofString text).toChars? = some text.toList :=
    Source.toChars?_ofChars text.toList
  rw [layerAt?, locate?, hfile]
  simp only [hextension, Option.bind_some, hformat, Option.map_some, layer?, hchars]

theorem load_initialText (hfile : disk path = .file (.ofString initialText))
    (hextension : extension? path = some "toml") : load disk path = .ok {} := by
  have hlayer : layerAt? disk path = some initialLayer := by
    rw [layerAt?_of_toml hfile hextension, read?_initialText]
  exact (load_eq_ok_iff hlayer).2 settingsOver?_initialLayer

theorem creation?_eq_some (hcreation : creation? disk surroundings = .ok (some creation)) :
    creation.path = surroundings.path ∧ creation.contents = initialText := by
  rw [creation?] at hcreation
  split at hcreation
  · dsimp only at hcreation
    split at hcreation
    · exact nomatch hcreation
    · cases hcreation
      exact ⟨rfl, rfl⟩
  · exact nomatch hcreation

/-- A user without a configuration gets one with the initial settings and then keeps it. -/
theorem loadHome_created (hcreation : creation? disk surroundings = .ok (some creation)) :
    loadHome disk surroundings = (.ok {}, some creation) ∧
      loadHome (creation.onto disk) surroundings = (.ok {}, none) := by
  obtain ⟨hpath, hcontents⟩ := creation?_eq_some hcreation
  have hfile : creation.onto disk surroundings.path = .file (.ofString initialText) := by
    rw [Creation.onto, if_pos hpath.symm, hcontents]
  have hload := load_initialText hfile surroundings.extension?_path
  have hthere : creation? (creation.onto disk) surroundings = .ok none := by
    rw [creation?, hfile]
  constructor
  · rw [loadHome, hcreation]
    exact congrArg (·, some creation) hload
  · rw [loadHome, hthere]
    exact congrArg (·, none) hload

end Load

end NoteCards.Configuration
