import InkToScreen.Proofs.Files.PathTexts
import InkToScreen.Proofs.Settings.Drafts
import InkToScreen.Proofs.Text.ReadBack

namespace InkToScreen

namespace Settings

/-- The variables for settings, with the name of the intent as it is spelt. -/
def written (settings : Settings) (spelling : String) : Environment :=
  [(variableStem ++ "BACKSTOP_ICC", settings.backstop.text)] ++
  settings.srgb.toList.map (fun path => (variableStem ++ "SRGB_ICM", path.text)) ++
  [(variableStem ++ "JPEG_QUALITY", toString settings.quality),
    (variableStem ++ "JPEG_EXTENSION", settings.extension),
    (variableStem ++ "INTENT", spelling)] ++
  Status.all.map fun status => (exitVariable status, toString (settings.exitCode status))

/-- Settings that the variables can hold: the path limit, which has no variable, is the usual one, no
exit code has more digits than are read, and the paths are such as texts are read as. -/
structure IsWritable (settings : Settings) : Prop where
  pathMax : settings.pathMax = usual.pathMax
  exitCodes : ∀ status, (Nat.toDigits 10 (settings.exitCode status).natAbs).length ≤ Text.maxDigits
  backstop : settings.backstop.IsNormal
  srgb : ∀ path, settings.srgb = some path → path.IsNormal

theorem extension_ne_empty (settings : Settings) : settings.extension ≠ "" := by
  intro empty
  have jpeg := settings.extension_jpeg
  rw [empty] at jpeg
  exact absurd jpeg (by decide)

end Settings

namespace Environment
variable {environment : Environment} {name : String}

/-- An environment has the variables that are written and, beside those that are read, any others. -/
def Shows (environment written : Environment) : Prop :=
  ∀ name ∈ names, environment.lookup name = written.lookup name

theorem shows_of_others {before written after : Environment}
    (others : ∀ entry ∈ before ++ after, entry.1 ∉ names) :
    (before ++ written ++ after).Shows written := by
  have absent (side : Environment) (within : ∀ entry ∈ side, entry ∈ before ++ after) :
      ∀ name ∈ names, side.lookup name = none := by
    intro name read
    rw [List.lookup_eq_none_iff]
    intro entry member
    refine bne_iff_ne.mpr ?_
    rintro rfl
    exact others entry (within entry member) read
  intro name read
  rw [List.lookup_append, List.lookup_append,
    absent before (fun _ => List.mem_append_left after) name read,
    absent after (fun _ => List.mem_append_right before) name read, Option.none_or, Option.or_none]

/-- The variables of an environment have the texts of settings. -/
structure Holds (environment : Environment) (settings : Settings) (spelling : String) : Prop where
  backstop : environment.lookup (variableStem ++ "BACKSTOP_ICC") = some settings.backstop.text
  srgb : environment.lookup (variableStem ++ "SRGB_ICM") = settings.srgb.map Path.text
  quality : environment.lookup (variableStem ++ "JPEG_QUALITY") = some (toString settings.quality)
  extension : environment.lookup (variableStem ++ "JPEG_EXTENSION") = some settings.extension
  intent : environment.lookup (variableStem ++ "INTENT") = some spelling
  exitCodes : ∀ status,
    environment.lookup (exitVariable status) = some (toString (settings.exitCode status))

theorem holds_written (settings : Settings) (spelling : String) :
    (settings.written spelling).Holds settings spelling := by
  obtain ⟨_, srgb, _, _, _, _, _, _, _, _⟩ := settings
  cases srgb with
  | none | some =>
    refine ⟨rfl, rfl, rfl, rfl, rfl, fun status => ?_⟩
    cases status <;> rfl

theorem Shows.holds {written : Environment} {settings : Settings} {spelling : String}
    (shown : environment.Shows written) (holds : written.Holds settings spelling) :
    environment.Holds settings spelling := by
  have exitNames (status : Status) : exitVariable status ∈ names :=
    List.mem_append_right _ (List.mem_map_of_mem status.mem_all)
  refine ⟨?_, ?_, ?_, ?_, ?_, fun status => ?_⟩
  · rw [shown _ (by decide), holds.backstop]
  · rw [shown _ (by decide), holds.srgb]
  · rw [shown _ (by decide), holds.quality]
  · rw [shown _ (by decide), holds.extension]
  · rw [shown _ (by decide), holds.intent]
  · rw [shown _ (exitNames status), holds.exitCodes]

theorem text?_of_lookup {text : String} (found : environment.lookup name = some text)
    (nonempty : text ≠ "") : environment.text? name = some text := by
  rw [text?, found]
  exact Option.filter_eq_some_iff.mpr ⟨rfl, by simpa using nonempty⟩

theorem path?_of_lookup {path : Path} (found : environment.lookup name = some path.text)
    (normal : path.IsNormal) : environment.path? name = some path := by
  rw [path?, text?_of_lookup found (Path.text_ne_empty normal), Option.map_some,
    Path.ofText_text normal]

theorem integer?_of_lookup {number : Int} (found : environment.lookup name = some (toString number))
    (short : (Nat.toDigits 10 number.natAbs).length ≤ Text.maxDigits) :
    environment.integer? name = .ok (some number) := by
  have read := Text.integer?_toString short
  -- an empty variable would count as absent, but nothing is read from an empty text
  have nonempty : toString number ≠ "" := by
    intro empty
    rw [empty] at read
    cases read
  rw [integer?, text?_of_lookup found nonempty]
  simp only [read]

theorem intent?_of_lookup {spelling : String} {intent : Intent}
    (found : environment.lookup (variableStem ++ "INTENT") = some spelling)
    (spelt : spelling.toList.map Char.toLower = intent.name.toList) :
    environment.intent? = .ok (some intent) := by
  have ascii : intent.name.toList.all (·.toNat < 128) = true := by
    cases intent <;> decide
  have nonempty : spelling ≠ "" := by
    rintro rfl
    cases intent <;> cases spelt
  have read := Text.lower_eq_of_map_toLower spelt (by simpa using ascii)
  rw [intent?, text?_of_lookup found nonempty]
  simp only [read, Intent.ofName?_name]

namespace Holds
variable {settings : Settings} {spelling : String}

theorem path?_srgb (holds : environment.Holds settings spelling)
    (normal : ∀ path, settings.srgb = some path → path.IsNormal) :
    environment.path? (variableStem ++ "SRGB_ICM") = settings.srgb := by
  cases isSet : settings.srgb with
  | none =>
    rw [path?, text?, holds.srgb, isSet]
    rfl
  | some path =>
    refine path?_of_lookup ?_ (normal path isSet)
    rw [holds.srgb, isSet, Option.map_some]

theorem integer?_quality (holds : environment.Holds settings spelling) :
    environment.integer? (variableStem ++ "JPEG_QUALITY") = .ok (some settings.quality) := by
  have short : ∀ quality < 101, (Nat.toDigits 10 quality).length ≤ Text.maxDigits := by
    decide +kernel
  exact integer?_of_lookup holds.quality (short _ (Nat.lt_succ_of_le settings.quality_le))

theorem mapM_exitCode (holds : environment.Holds settings spelling)
    (short : ∀ status,
      (Nat.toDigits 10 (settings.exitCode status).natAbs).length ≤ Text.maxDigits) :
    Status.all.mapM environment.exitCode =
      .ok (Status.all.map fun status => (status, settings.exitCode status)) := by
  have each : environment.exitCode = fun status => .ok (status, settings.exitCode status) := by
    funext status
    rw [exitCode, integer?_of_lookup (holds.exitCodes status) (short status)]
    rfl
  rw [each]
  exact List.mapM_pure

/-- What an environment with the texts of settings asks for is what the settings hold. -/
theorem draft_eq_ok (holds : environment.Holds settings spelling) (writable : settings.IsWritable)
    (spelt : spelling.toList.map Char.toLower = settings.intent.name.toList) :
    ∃ draft, environment.draft = .ok draft ∧ draft.IsHeldBy settings := by
  have intent := intent?_of_lookup holds.intent spelt
  have backstop := path?_of_lookup holds.backstop writable.backstop
  have extension := text?_of_lookup holds.extension settings.extension_ne_empty
  unfold Environment.draft
  rw [holds.integer?_quality, intent, holds.mapM_exitCode writable.exitCodes]
  refine ⟨_, rfl, ?_⟩
  rw [backstop, holds.path?_srgb writable.srgb, extension]
  refine ⟨rfl, rfl, rfl, rfl, rfl, ?_, code?_map_all _⟩
  rw [writable.pathMax]
  rfl

end Holds
end Environment

/-- Settings come back from the environment that they are written into, with the intent in any case
and whatever other variables there are. -/
theorem Settings.settings_of_written {settings : Settings} {spelling : String}
    {environment : Environment} (writable : settings.IsWritable)
    (spelt : spelling.toList.map Char.toLower = settings.intent.name.toList)
    (shown : environment.Shows (settings.written spelling)) :
    environment.settings = .ok settings := by
  obtain ⟨draft, asks, held⟩ :=
    (shown.holds (Environment.holds_written settings spelling)).draft_eq_ok writable spelt
  unfold Environment.settings
  rw [asks]
  exact Draft.settings_eq_ok_iff.mpr held

/-- The lowest quality, an extension in capitals, a path from two slashes and a negative exit code. -/
def unusual : Settings :=
  { Settings.usual with
    backstop := .ofText "//inks/./cmyk.icc"
    quality := 0
    extension := "JPEG"
    intent := .saturation
    exitCodes := .ofFunction fun status => 1 - status.defaultCode
    quality_le := by decide
    extension_jpeg := by decide }

/-- Variables before and after those of settings do not change what is read. -/
theorem settings_of_written_unusual :
    Environment.settings ([("LANG", "C")] ++ unusual.written "SATuration" ++ [("PATH", "")]) =
      .ok unusual := by
  refine Settings.settings_of_written ⟨rfl, ?_, ?_, nofun⟩ ?_ (Environment.shows_of_others ?_)
  · intro status
    cases status <;> decide +kernel
  · exact Path.isNormal_ofText _
  · decide
  · decide

end InkToScreen
