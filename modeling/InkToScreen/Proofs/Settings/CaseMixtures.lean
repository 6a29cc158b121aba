import Mathlib.Data.List.Forall2
import InkToScreen.Proofs.Conversion.NameCheck
import InkToScreen.Proofs.Settings.Faults
import InkToScreen.Proofs.Settings.SoundChanges

namespace InkToScreen

namespace Text

/-- A text has the letters of a name, each as it is or as its capital. -/
def IsMixtureOf (text name : String) : Prop :=
  List.Forall₂ (fun c letter => c = letter ∨ c = letter.toUpper) text.toList name.toList

instance (text name : String) : Decidable (IsMixtureOf text name) :=
  inferInstanceAs (Decidable (List.Forall₂ _ _ _))

/-- A text consists of ASCII letters and mixes upper and lower case of one of some names. -/
structure Mixes (text : String) (names : List String) : Prop where
  letters : ∀ c ∈ text.toList, c.isAlpha = true
  mixture : ∃ name ∈ names, IsMixtureOf text name

/-- A name in small letters, without the one that is also the lower case of a character beyond
ASCII. -/
def IsSmall (name : String) : Prop :=
  ∀ c ∈ name.toList, c.isLower = true ∧ c ≠ 'k'

instance (name : String) : Decidable (IsSmall name) :=
  List.decidableBAll _ name.toList

section Letters
variable {c letter : Char}

theorem ascii_of_isLower (small : letter.isLower = true) : letter.toNat < 128 := by
  have bound : letter.val ≤ 'z'.val := of_decide_eq_true (Bool.and_eq_true_iff.mp small).2
  have upper : letter.val.toNat ≤ 'z'.val.toNat := UInt32.le_iff_toNat_le.mp bound
  exact Nat.lt_of_le_of_lt upper (by decide)

theorem toLower_eq_iff (small : letter.isLower = true) :
    c.toLower = letter ↔ c = letter ∨ c = letter.toUpper := by
  constructor
  · rintro rfl
    exact of_ascii (fun c => c = c.toLower ∨ c = c.toLower.toUpper) (by decide +kernel)
      (ascii_of_toLower (ascii_of_isLower small))
  · have back := of_ascii (fun letter => letter.isLower = true →
      letter.toLower = letter ∧ letter.toUpper.toLower = letter) (by decide +kernel)
      (ascii_of_isLower small) small
    rintro (rfl | rfl)
    · exact back.1
    · exact back.2

theorem isAlpha_of_toLower (small : c.toLower.isLower = true) : c.isAlpha = true :=
  of_ascii (fun c => c.toLower.isLower = true → c.isAlpha = true) (by decide +kernel)
    (ascii_of_toLower (ascii_of_isLower small)) small

end Letters

section Names
variable {text name : String} {names : List String}

theorem map_toLower_eq_iff {chars letters : List Char} (small : ∀ c ∈ letters, c.isLower = true) :
    chars.map Char.toLower = letters ↔
      List.Forall₂ (fun c letter => c = letter ∨ c = letter.toUpper) chars letters := by
  induction chars generalizing letters with
  | nil =>
    cases letters with
    | nil => simp
    | cons letter more => simp
  | cons c rest ih =>
    cases letters with
    | nil => simp
    | cons letter more =>
      rw [List.forall_mem_cons] at small
      rw [List.map_cons, List.cons.injEq, List.forall₂_cons, toLower_eq_iff small.1, ih small.2]

/-- A text is lower-cased to one of some small names exactly if it is a mixture of one. -/
theorem lower_mem_iff (small : ∀ name ∈ names, IsSmall name) :
    lower text ∈ names ↔ Mixes text names := by
  have spelt {name : String} (member : name ∈ names) :
      lower text = name ↔ text.toList.map Char.toLower = name.toList :=
    lower_eq_iff fun c inside =>
      ⟨ascii_of_isLower (small name member c inside).1, (small name member c inside).2⟩
  have mixed {name : String} (member : name ∈ names) : lower text = name ↔ IsMixtureOf text name :=
    (spelt member).trans (map_toLower_eq_iff fun c inside => (small name member c inside).1)
  constructor
  · intro member
    refine ⟨fun c inside => isAlpha_of_toLower ?_, lower text, member, (mixed member).mp rfl⟩
    refine (small _ member c.toLower ?_).1
    rw [← (spelt member).mp rfl]
    exact List.mem_map_of_mem inside
  · rintro ⟨_, name, member, mixture⟩
    rw [(mixed member).mpr mixture]
    exact member

end Names
end Text

theorem isSmall_of_mem_jpegExtensions : ∀ name ∈ jpegExtensions, Text.IsSmall name := by
  decide +kernel

theorem isSmall_of_mem_names : ∀ name ∈ Intent.all.map Intent.name, Text.IsSmall name := by
  decide +kernel

theorem Intent.exists_name_iff {text : String} :
    (∃ intent : Intent, text = intent.name) ↔ text ∈ Intent.all.map Intent.name := by
  simp [Intent.mem_all, eq_comm]

section Extensions
variable {given : Changes} {extension : String} {settings : Settings}

/-- Values with an extension are accepted if they are without it and it is a mixture. -/
theorem Changes.isSound_with_extension_iff :
    IsSound { given with extension := some extension } ↔
      IsSound { given with extension := none } ∧ Text.Mixes extension jpegExtensions := by
  rw [← Text.lower_mem_iff isSmall_of_mem_jpegExtensions]
  constructor
  · rintro ⟨known, quality, accepted, pathMax, exitCodes⟩
    exact ⟨⟨known, quality, nofun, pathMax, exitCodes⟩, accepted extension rfl⟩
  · rintro ⟨⟨known, quality, _, pathMax, exitCodes⟩, accepted⟩
    refine ⟨known, quality, ?_, pathMax, exitCodes⟩
    rintro _ ⟨⟩
    exact accepted

theorem Changes.extension_of_create
    (made : create { given with extension := some extension } = .ok settings) :
    settings.extension = extension :=
  (create_eq_ok_iff.mp made).2.extension

/-- The room for a stem is that of a path, less one byte for the dot, the three or four of the
extension and seven for the quality. -/
theorem Settings.maxStemLength_cases (settings : Settings) :
    settings.extension.utf8ByteSize = 3 ∧ settings.maxStemLength = settings.pathMax - 11 ∨
      settings.extension.utf8ByteSize = 4 ∧ settings.maxStemLength = settings.pathMax - 12 := by
  obtain ⟨bytes, letters⟩ := size_of_isJpegExtension settings.extension_jpeg
  rw [maxStemLength_eq, bytes]
  omega

end Extensions

namespace Environment
variable {environment : Environment} {text : String}

/-- An environment with an intent is valid if it is without and the text is that of one, in lower
case. -/
theorem isValid_cons_intent_iff (nonempty : text ≠ "") :
    IsValid ((variableStem ++ "INTENT", text) :: environment) ↔
      IsValid ((variableStem ++ "INTENT", "") :: environment) ∧
        ∃ intent : Intent, Text.lower text = intent.name := by
  have intent : text? ((variableStem ++ "INTENT", text) :: environment)
      (variableStem ++ "INTENT") = some text := by
    rw [text?_cons_self, if_neg nonempty]
  have without : text? ((variableStem ++ "INTENT", "") :: environment)
      (variableStem ++ "INTENT") = none := by
    rw [text?_cons_self, if_pos rfl]
  have others {name : String} (other : name ≠ variableStem ++ "INTENT") :
      text? ((variableStem ++ "INTENT", text) :: environment) name =
        text? ((variableStem ++ "INTENT", "") :: environment) name := by
    rw [text?_cons_of_ne environment text other, text?_cons_of_ne environment "" other]
  have quality := @others (variableStem ++ "JPEG_QUALITY") (by decide)
  have extension := @others (variableStem ++ "JPEG_EXTENSION") (by decide)
  have exitCodes (status : Status) := @others (exitVariable status)
    (exitVariable_ne status _ (by decide)).symm
  constructor
  · rintro ⟨⟨hasQuality, hasIntent, hasCodes⟩, inRange, jpeg⟩
    simp only [HasInteger, quality, exitCodes] at hasQuality hasCodes
    simp only [quality] at inRange
    simp only [extension] at jpeg
    refine ⟨⟨⟨hasQuality, ?_, hasCodes⟩, inRange, jpeg⟩, hasIntent text intent⟩
    intro given present
    rw [without] at present
    cases present
  · rintro ⟨⟨⟨hasQuality, _, hasCodes⟩, inRange, jpeg⟩, named⟩
    refine ⟨⟨?_, ?_, ?_⟩, ?_, ?_⟩
    · rwa [HasInteger, quality]
    · intro given present
      obtain rfl := Option.some.inj (intent.symm.trans present)
      exact named
    · intro status
      rw [HasInteger, exitCodes]
      exact hasCodes status
    · rwa [quality]
    · rwa [extension]

theorem exists_settings_iff :
    (∃ settings, environment.settings = .ok settings) ↔ environment.IsValid := by
  constructor
  · rintro ⟨settings, accepted⟩
    exact isValid_of_settings accepted
  · exact IsValid.exists_settings

end Environment

/-- A text is accepted as the extension, or for the intent, exactly if it is a mixture of upper and
lower case of one of the names; the extension is then kept as it is. -/
theorem Settings.accepts_mixtures (given : Changes) (environment : Environment)
    (extension intent : String) :
    ((∃ settings, Changes.create { given with extension := some extension } = .ok settings) ↔
      (∃ settings, Changes.create { given with extension := none } = .ok settings) ∧
        Text.Mixes extension ["jpg", "jpeg", "jpe", "jfif"]) ∧
    (intent ≠ "" →
      ((∃ settings, Environment.settings (("CMYK2SRGB_INTENT", intent) :: environment) =
          .ok settings) ↔
        (∃ settings, Environment.settings (("CMYK2SRGB_INTENT", "") :: environment) =
          .ok settings) ∧
          Text.Mixes intent ["perceptual", "relative", "saturation", "absolute"])) ∧
    ∀ settings, Changes.create { given with extension := some extension } = .ok settings →
      (∀ stem, settings.outputName stem = stem ++ "." ++ extension) ∧
      (extension.utf8ByteSize = 3 ∧ settings.maxStemLength = settings.pathMax - 11 ∨
        extension.utf8ByteSize = 4 ∧ settings.maxStemLength = settings.pathMax - 12) := by
  refine ⟨?_, fun nonempty => ?_, fun settings made => ?_⟩
  · rw [Changes.exists_create_iff, Changes.exists_create_iff]
    exact Changes.isSound_with_extension_iff
  · rw [Environment.exists_settings_iff, Environment.exists_settings_iff]
    refine (Environment.isValid_cons_intent_iff nonempty).trans ?_
    rw [Intent.exists_name_iff, Text.lower_mem_iff isSmall_of_mem_names]
    rfl
  · have kept := Changes.extension_of_create made
    have room := settings.maxStemLength_cases
    rw [kept] at room
    exact ⟨fun stem => congrArg (stem ++ "." ++ ·) kept, room⟩

/-- An intent in mixed case is accepted beside other variables. -/
theorem Settings.accepts_mixtures_saturation :
    "SATuration" ≠ "" ∧
      ∃ settings, Environment.settings [("CMYK2SRGB_INTENT", "SATuration"),
        ("CMYK2SRGB_JPEG_EXTENSION", "JFif")] = .ok settings := by
  have nonempty : "SATuration" ≠ "" := by decide
  have accepted := (accepts_mixtures {} [("CMYK2SRGB_JPEG_EXTENSION", "JFif")] "jpg"
    "SATuration").2.1 nonempty
  refine ⟨nonempty, accepted.mpr ⟨⟨_, rfl⟩, ?_, "saturation", by decide, by decide +kernel⟩⟩
  exact List.all_eq_true.mp (by decide +kernel)

end InkToScreen
