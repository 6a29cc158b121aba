import InkToScreen.Proofs.Settings.Drafts

namespace InkToScreen

/-- What is checked about the variables. -/
inductive Check where
  | number (name : String)
  | intent
  | qualityRange
  | extension

namespace Check

/-- The checks of texts. -/
def texts : List Check :=
  [number (variableStem ++ "JPEG_QUALITY"), intent] ++
    Status.all.map fun status => number (exitVariable status)

/-- The checks of what the texts are read as. -/
def values : List Check :=
  [qualityRange, extension]

end Check

/-- Settings but for the exit code of one outcome. -/
def Settings.withExitCode (settings : Settings) (status : Status) (code : Int) : Settings :=
  { settings with
    exitCodes := .ofFunction fun other => if other = status then code else settings.exitCode other }

theorem Settings.exitCode_withExitCode (settings : Settings) (status : Status) (code : Int)
    (other : Status) :
    (settings.withExitCode status code).exitCode other =
      if other = status then code else settings.exitCode other :=
  ExitCodes.get_ofFunction _ other

namespace Environment

/-- A check fails with an error. -/
inductive Faulty (environment : Environment) : Check → SettingsError → Prop
  | number (present : environment.text? name = some text) (unread : Text.integer? text = none) :
      Faulty environment (.number name) (.notAnInteger name text)
  | intent (present : environment.text? (variableStem ++ "INTENT") = some text)
      (unknown : ∀ intent : Intent, Text.lower text ≠ intent.name) :
      Faulty environment .intent (.unknownIntent (Text.lower text))
  | qualityRange (present : environment.text? (variableStem ++ "JPEG_QUALITY") = some text)
      (read : Text.integer? text = some quality) (beyond : ¬ (0 ≤ quality ∧ quality ≤ 100)) :
      Faulty environment .qualityRange (.qualityOutOfRange quality)
  | extension (present : environment.text? (variableStem ++ "JPEG_EXTENSION") = some text)
      (other : Text.lower text ∉ jpegExtensions) :
      Faulty environment .extension (.notJpegExtension text)

/-- A check does not fail. -/
def Passes (environment : Environment) (check : Check) : Prop :=
  ∀ error, ¬ environment.Faulty check error

/-- Of some checks in order, the first that fails does so with an error. -/
inductive FirstFault (environment : Environment) : List Check → SettingsError → Prop
  | here (faulty : environment.Faulty check error) : FirstFault environment (check :: later) error
  | later (passes : environment.Passes check) (first : FirstFault environment checks error) :
      FirstFault environment (check :: checks) error

/-- The texts of an environment can be read, and its quality and its extension can be used. -/
structure IsValid (environment : Environment) : Prop extends environment.IsReadable where
  inRange : ∀ text quality, environment.text? (variableStem ++ "JPEG_QUALITY") = some text →
    Text.integer? text = some quality → 0 ≤ quality ∧ quality ≤ 100
  jpeg : ∀ text, environment.text? (variableStem ++ "JPEG_EXTENSION") = some text →
    Text.lower text ∈ jpegExtensions

variable {environment : Environment} {settings : Settings} {check : Check}
  {checks more : List Check} {error first second : SettingsError} {name : String}

theorem Faulty.unique (faulty : environment.Faulty check first)
    (also : environment.Faulty check second) : first = second := by
  cases faulty with
  | number present | intent present | extension present =>
    cases also with
    | _ presentToo =>
      cases present.symm.trans presentToo
      rfl
  | qualityRange present read =>
    cases also with
    | qualityRange presentToo readToo =>
      cases present.symm.trans presentToo
      cases read.symm.trans readToo
      rfl

namespace FirstFault

theorem unique (fault : environment.FirstFault checks first)
    (also : environment.FirstFault checks second) : first = second := by
  induction fault with
  | here faulty =>
    cases also with
    | here faultyToo => exact faulty.unique faultyToo
    | later passes => exact absurd faulty (passes _)
  | later passes _ ih =>
    cases also with
    | here faulty => exact absurd faulty (passes _)
    | later _ firstToo => exact ih firstToo

theorem exists_faulty (fault : environment.FirstFault checks error) :
    ∃ check ∈ checks, environment.Faulty check error := by
  induction fault with
  | here faulty => exact ⟨_, List.mem_cons_self, faulty⟩
  | later _ _ ih =>
    obtain ⟨check, member, faulty⟩ := ih
    exact ⟨check, List.mem_cons_of_mem _ member, faulty⟩

theorem append_left (fault : environment.FirstFault checks error) (more : List Check) :
    environment.FirstFault (checks ++ more) error := by
  induction fault with
  | here faulty => exact .here faulty
  | later passes _ ih => exact .later passes ih

theorem append_right (pass : ∀ check ∈ checks, environment.Passes check)
    (fault : environment.FirstFault more error) :
    environment.FirstFault (checks ++ more) error := by
  induction checks with
  | nil => exact fault
  | cons check rest ih =>
    rw [List.forall_mem_cons] at pass
    exact .later pass.1 (ih pass.2)

end FirstFault

section Checks

theorem HasInteger.passes (readable : environment.HasInteger name) :
    environment.Passes (.number name) := by
  rintro _ ⟨present, unread⟩
  obtain ⟨number, read⟩ := readable _ present
  cases unread.symm.trans read

theorem passes_intent
    (named : ∀ text, environment.text? (variableStem ++ "INTENT") = some text →
      ∃ intent : Intent, Text.lower text = intent.name) :
    environment.Passes .intent := by
  intro error faulty
  cases faulty with | intent present unknown =>
  obtain ⟨intent, same⟩ := named _ present
  exact unknown intent same

/-- An environment that can be read passes the checks of texts. -/
theorem IsReadable.passes (readable : environment.IsReadable) :
    ∀ check ∈ Check.texts, environment.Passes check := by
  intro check member
  rcases List.mem_append.mp member with first | exitCode
  · simp only [List.mem_cons, List.not_mem_nil, or_false] at first
    rcases first with rfl | rfl
    · exact readable.quality.passes
    · exact passes_intent readable.intent
  · obtain ⟨status, _, rfl⟩ := List.mem_map.mp exitCode
    exact (readable.exitCodes status).passes

theorem IsValid.passes (valid : environment.IsValid) (check : Check)
    (member : check ∈ Check.texts ++ Check.values) : environment.Passes check := by
  rcases List.mem_append.mp member with text | value
  · exact valid.toIsReadable.passes check text
  · simp only [Check.values, List.mem_cons, List.not_mem_nil, or_false] at value
    rcases value with rfl | rfl
    · intro error faulty
      cases faulty with | qualityRange present read beyond =>
      exact beyond (valid.inRange _ _ present read)
    · intro error faulty
      cases faulty with | extension present other =>
      exact other (valid.jpeg _ present)

end Checks

section Refusals

theorem faulty_of_integer? (refused : environment.integer? name = .error error) :
    environment.Faulty (.number name) error := by
  unfold integer? at refused
  split at refused
  · cases refused
  · rename_i text present
    split at refused
    · cases refused
    · rename_i unread
      cases refused
      exact .number present unread

theorem faulty_of_intent? (refused : environment.intent? = .error error) :
    environment.Faulty .intent error := by
  unfold intent? at refused
  split at refused
  · cases refused
  · rename_i text present
    split at refused
    · cases refused
    · rename_i unknown
      cases refused
      refine .intent present fun intent same => ?_
      rw [Intent.ofName?_eq_some_iff.mpr same] at unknown
      cases unknown

/-- Exit codes are read one after another, up to the first that is no integer. -/
theorem firstFault_of_exitCodes {statuses : List Status}
    (refused : statuses.mapM environment.exitCode = .error error) :
    environment.FirstFault (statuses.map fun status => .number (exitVariable status)) error := by
  induction statuses with
  | nil => cases refused
  | cons status rest ih =>
    rw [List.mapM_cons] at refused
    rcases bind_eq_error_iff.mp refused with unread | ⟨entry, read, refused⟩
    · cases asked : environment.integer? (exitVariable status) with
      | error other =>
        rw [exitCode, asked] at unread
        cases unread
        exact .here (faulty_of_integer? asked)
      | ok code =>
        rw [exitCode, asked] at unread
        cases unread
    · obtain ⟨readable, _⟩ := (exitCode_eq_ok_iff status entry).mp read
      refine .later readable.passes ?_
      rcases bind_eq_error_iff.mp refused with further | ⟨others, _, impossible⟩
      · exact ih further
      · cases impossible

/-- An environment that gives no draft fails a check of texts. -/
theorem firstFault_of_draft (refused : environment.draft = .error error) :
    environment.FirstFault Check.texts error := by
  unfold Environment.draft at refused
  rcases bind_eq_error_iff.mp refused with unread | ⟨quality, read, refused⟩
  · exact .here (faulty_of_integer? unread)
  refine .later (integer?_eq_ok_iff.mp read).1.passes ?_
  rcases bind_eq_error_iff.mp refused with unknown | ⟨intent, known, refused⟩
  · exact .here (faulty_of_intent? unknown)
  refine .later (passes_intent (intent?_eq_ok_iff.mp known).1) ?_
  rcases bind_eq_error_iff.mp refused with unread | ⟨codes, _, impossible⟩
  · exact firstFault_of_exitCodes unread
  · cases impossible

theorem asked_quality {text : String} {quality : Int}
    (present : environment.text? (variableStem ++ "JPEG_QUALITY") = some text)
    (read : Text.integer? text = some quality) : environment.asked.quality = quality := by
  simp [asked, present, read]

theorem asked_extension {text : String}
    (present : environment.text? (variableStem ++ "JPEG_EXTENSION") = some text) :
    environment.asked.extension = text := by
  simp [asked, present]

theorem asked_missing (environment : Environment) : environment.asked.exitCodes.missing = [] :=
  CodeTable.missing_eq_nil_iff.mpr fun status => ⟨_, code?_map_all _ status⟩

theorem faulty_of_quality
    (beyond : ¬ (0 ≤ environment.asked.quality ∧ environment.asked.quality ≤ 100)) :
    environment.Faulty .qualityRange (.qualityOutOfRange environment.asked.quality) := by
  cases present : environment.text? (variableStem ++ "JPEG_QUALITY") with
  | none => simp [asked, present] at beyond
  | some text =>
    cases read : Text.integer? text with
    | none => simp [asked, present, read] at beyond
    | some quality =>
      rw [asked_quality present read] at beyond ⊢
      exact .qualityRange present read beyond

theorem faulty_of_extension (other : ¬ isJpegExtension environment.asked.extension = true) :
    environment.Faulty .extension (.notJpegExtension environment.asked.extension) := by
  cases present : environment.text? (variableStem ++ "JPEG_EXTENSION") with
  | none =>
    simp only [asked, present, Option.getD_none] at other
    exact absurd (by decide) other
  | some text =>
    rw [asked_extension present] at other ⊢
    exact .extension present fun member => other (List.contains_iff_mem.mpr member)

/-- What an environment asks for is refused for its quality or its extension only. -/
theorem firstFault_of_asked (refused : environment.asked.settings = .error error) :
    environment.FirstFault Check.values error := by
  unfold Draft.settings at refused
  split at refused
  · rename_i range
    refine .later ?_ ?_
    · intro other faulty
      cases faulty with | qualityRange present read beyond =>
      rw [asked_quality present read] at range
      exact beyond range
    · split at refused
      · -- the path limit and the exit codes are never at fault
        have positive : 0 < environment.asked.pathMax := by
          change (0 : Int) < 4096
          decide
        rw [dif_pos positive, asked_missing] at refused
        cases refused
      · rename_i other
        cases refused
        exact .here (faulty_of_extension other)
  · rename_i beyond
    cases refused
    exact .here (faulty_of_quality beyond)

/-- An environment without settings fails a check. -/
theorem firstFault_of_settings (refused : environment.settings = .error error) :
    environment.FirstFault (Check.texts ++ Check.values) error := by
  rcases bind_eq_error_iff.mp refused with unread | ⟨draft, read, refused⟩
  · exact (firstFault_of_draft unread).append_left Check.values
  · obtain ⟨readable, rfl⟩ := draft_eq_ok_iff.mp read
    exact (firstFault_of_asked refused).append_right readable.passes

theorem isValid_of_settings (accepted : environment.settings = .ok settings) :
    environment.IsValid := by
  obtain ⟨readable, held⟩ := settings_eq_ok_iff.mp accepted
  refine ⟨readable, fun text quality present read => ?_, fun text present => ?_⟩
  · have same := held.quality
    rw [asked_quality present read] at same
    have bound := settings.quality_le
    omega
  · have same := held.extension
    rw [asked_extension present] at same
    rw [← same]
    exact List.contains_iff_mem.mp settings.extension_jpeg

theorem IsValid.exists_settings (valid : environment.IsValid) :
    ∃ settings, environment.settings = .ok settings := by
  cases answered : environment.settings with
  | ok settings => exact ⟨settings, rfl⟩
  | error error =>
    obtain ⟨check, member, faulty⟩ := (firstFault_of_settings answered).exists_faulty
    exact absurd faulty (valid.passes check member error)

theorem FirstFault.settings_eq
    (fault : environment.FirstFault (Check.texts ++ Check.values) error) :
    environment.settings = .error error := by
  cases answered : environment.settings with
  | ok settings =>
    obtain ⟨check, member, faulty⟩ := fault.exists_faulty
    exact absurd faulty ((isValid_of_settings answered).passes check member error)
  | error other => rw [(firstFault_of_settings answered).unique fault]

end Refusals

section Variables
variable {other : Environment} {text : String} {status : Status} {code : Int}

/-- Two environments have the same texts in the variables that are read, where absent ones count as
empty. -/
def Agrees (environment other : Environment) : Prop :=
  ∀ name ∈ names, (environment.lookup name).getD "" = (other.lookup name).getD ""

theorem text?_of_getD (same : (environment.lookup name).getD "" = (other.lookup name).getD "") :
    environment.text? name = other.text? name := by
  have filtered (found : Option String) :
      found.filter (· ≠ "") = (some (found.getD "")).filter (· ≠ "") := by
    cases found <;> rfl
  rw [text?, text?, filtered, same, ← filtered]

theorem exitVariable_mem_names (status : Status) : exitVariable status ∈ names :=
  List.mem_append_right _ (List.mem_map_of_mem status.mem_all)

/-- The settings depend on the texts of the variables that are read. -/
theorem Agrees.settings_eq (agrees : environment.Agrees other) :
    environment.settings = other.settings := by
  have same (name : String) (read : name ∈ names) : environment.text? name = other.text? name :=
    text?_of_getD (agrees name read)
  have codes : environment.exitCode = other.exitCode := by
    funext status
    rw [exitCode, exitCode, integer?, integer?, same _ (exitVariable_mem_names status)]
  unfold Environment.settings Environment.draft
  simp only [integer?, intent?, path?, codes, same (variableStem ++ "BACKSTOP_ICC") (by decide),
    same (variableStem ++ "SRGB_ICM") (by decide),
    same (variableStem ++ "JPEG_QUALITY") (by decide),
    same (variableStem ++ "JPEG_EXTENSION") (by decide),
    same (variableStem ++ "INTENT") (by decide)]

theorem exitVariable_injective {first second : Status}
    (same : exitVariable first = exitVariable second) : first = second := by
  cases first <;> cases second <;> first | rfl | exact absurd same (by decide)

theorem text?_cons_self (environment : Environment) (name text : String) :
    text? ((name, text) :: environment) name = if text = "" then none else some text := by
  by_cases empty : text = ""
  · simp [text?, empty]
  · simp [text?, empty]

theorem text?_cons_of_ne (environment : Environment) (text : String) {other : String}
    (different : other ≠ name) :
    text? ((name, text) :: environment) other = environment.text? other := by
  rw [text?, text?, List.lookup_cons, beq_false_of_ne different]

theorem exitVariable_ne (status : Status) : ∀ name ∈ names.take 5, name ≠ exitVariable status := by
  cases status <;> decide

/-- An exit variable with a text that is empty or an integer gives its outcome a code. -/
theorem code_cons_exitVariable (environment : Environment)
    (reads : text = "" ∧ code = status.defaultCode ∨ Text.integer? text = some code)
    (other : Status) :
    Environment.code ((exitVariable status, text) :: environment) other =
      if other = status then code else environment.code other := by
  by_cases same : other = status
  · subst same
    rw [if_pos rfl, Environment.code, text?_cons_self]
    rcases reads with ⟨rfl, rfl⟩ | read
    · rfl
    · have nonempty : text ≠ "" := by
        rintro rfl
        cases read
      rw [if_neg nonempty, Option.bind_some, read, Option.getD_some]
  · have different : exitVariable other ≠ exitVariable status :=
      fun alike => same (exitVariable_injective alike)
    rw [if_neg same, Environment.code, text?_cons_of_ne environment text different,
      Environment.code]

theorem hasInteger_cons_exitVariable
    (readable : ∀ other, environment.HasInteger (exitVariable other))
    (reads : text = "" ∧ code = status.defaultCode ∨ Text.integer? text = some code)
    (other : Status) :
    HasInteger ((exitVariable status, text) :: environment) (exitVariable other) := by
  intro given present
  by_cases same : other = status
  · subst same
    rw [text?_cons_self] at present
    split at present
    · cases present
    · rename_i nonempty
      cases present
      rcases reads with ⟨empty, _⟩ | read
      · exact absurd empty nonempty
      · exact ⟨code, read⟩
  · have different : exitVariable other ≠ exitVariable status :=
      fun alike => same (exitVariable_injective alike)
    rw [text?_cons_of_ne environment text different] at present
    exact readable other given present

theorem asked_cons_exitVariable (environment : Environment)
    (reads : text = "" ∧ code = status.defaultCode ∨ Text.integer? text = some code) :
    asked ((exitVariable status, text) :: environment) =
      { environment.asked with
        exitCodes := Status.all.map fun other =>
          (other, if other = status then code else environment.code other) } := by
  have kept (name : String) (member : name ∈ names.take 5) :=
    text?_cons_of_ne environment text (exitVariable_ne status name member)
  simp only [asked, path?, code_cons_exitVariable environment reads,
    kept (variableStem ++ "BACKSTOP_ICC") (by decide),
    kept (variableStem ++ "SRGB_ICM") (by decide),
    kept (variableStem ++ "JPEG_QUALITY") (by decide),
    kept (variableStem ++ "JPEG_EXTENSION") (by decide),
    kept (variableStem ++ "INTENT") (by decide)]

/-- An exit variable gives its outcome a code and changes nothing else. -/
theorem settings_cons_exitVariable (accepted : environment.settings = .ok settings)
    (reads : text = "" ∧ code = status.defaultCode ∨ Text.integer? text = some code) :
    Environment.settings ((exitVariable status, text) :: environment) =
      .ok (settings.withExitCode status code) := by
  obtain ⟨readable, held⟩ := settings_eq_ok_iff.mp accepted
  have kept (name : String) (member : name ∈ names.take 5) :=
    text?_cons_of_ne environment text (exitVariable_ne status name member)
  have quality := readable.quality
  have intent := readable.intent
  rw [HasInteger, ← kept _ (by decide)] at quality
  rw [← kept _ (by decide)] at intent
  refine settings_eq_ok_iff.mpr ⟨⟨quality, intent, ?_⟩, ?_⟩
  · exact hasInteger_cons_exitVariable readable.exitCodes reads
  · rw [asked_cons_exitVariable environment reads]
    refine ⟨held.backstop, held.srgb, held.quality, held.extension, held.intent, held.pathMax, ?_⟩
    intro other
    have found := held.exitCodes other
    rw [asked, code?_map_all] at found
    rw [code?_map_all, Option.some.inj found, settings.exitCode_withExitCode]

/-- The settings of an environment depend on ten variables, where an empty one counts as absent; if
they are not valid, the error is that of the first check that fails. -/
theorem settings_checked (environment : Environment) :
    (∀ other, environment.Agrees other → other.settings = environment.settings) ∧
      ((∃ settings, environment.settings = .ok settings) ↔ environment.IsValid) ∧
      (∀ error, environment.settings = .error error ↔
        environment.FirstFault (Check.texts ++ Check.values) error) ∧
      (∀ settings status text code, environment.settings = .ok settings →
        (text = "" ∧ code = status.defaultCode ∨ Text.integer? text = some code) →
          Environment.settings ((exitVariable status, text) :: environment) =
            .ok (settings.withExitCode status code)) := by
  refine ⟨fun other agrees => agrees.settings_eq.symm, ⟨?_, IsValid.exists_settings⟩, ?_, ?_⟩
  · rintro ⟨settings, accepted⟩
    exact isValid_of_settings accepted
  · exact fun error => ⟨firstFault_of_settings, FirstFault.settings_eq⟩
  · exact fun settings status text code => settings_cons_exitVariable

/-- A quality out of range is found after an exit code that is no integer. -/
example : Environment.settings [("CMYK2SRGB_JPEG_QUALITY", "101"),
    ("CMYK2SRGB_EXIT_CMYK_NO_ICC", "three")] =
      .error (.notAnInteger "CMYK2SRGB_EXIT_CMYK_NO_ICC" "three") :=
  rfl

end Variables
end Environment
end InkToScreen
