import InkToScreen.Proofs.CommandLine.Layers
import InkToScreen.Proofs.CommandLine.Written
import InkToScreen.Proofs.Settings.Faults
import InkToScreen.Proofs.Text.Spellings

namespace InkToScreen.CommandLine

/-- The value of an option that stands for the text of a variable. -/
def Setting.asValue : Setting → String → String
  | intent, text => Text.lower text
  | _, text => text

/-- Operands around one option with its value. -/
def optionLine (before after : List Undashed) (setting : Setting) (value : String) : List String :=
  before.map Undashed.text ++ (setting.long ++ "=" ++ value) :: after.map Undashed.text

/-- The texts of settings when one of them alone has one. -/
def only (setting : Setting) (value : String) (other : Setting) : Option String :=
  if other = setting then some value else none

theorem only_eq_some_iff {setting other : Setting} {value given : String} :
    only setting value other = some given ↔ other = setting ∧ value = given := by
  unfold only
  by_cases same : other = setting
  · simp [same]
  · simp [same]

section Line
variable {setting : Setting} {value : String} {before after : List Undashed}

def Abbreviation.full (setting : Setting) : Abbreviation where
  setting := setting
  letters := setting.name.toList
  nonempty := by cases setting <;> decide
  begins := List.prefix_refl _

def lineItems (before after : List Undashed) (setting : Setting) (value : String)
    (notBare : value ≠ "--") : List Item :=
  before.map .plain ++ .attached (.full setting) value notBare :: after.map .plain

theorem written_plain (operands : List Undashed) :
    written (operands.map .plain) = operands.map Undashed.text := by
  induction operands with
  | nil => rfl
  | cons operand rest ih => exact congrArg (operand.text :: ·) ih

theorem operands_plain (operands : List Undashed) :
    Item.operands (operands.map .plain) = operands.map Undashed.text := by
  induction operands with
  | nil => rfl
  | cons operand rest ih => exact congrArg (operand.text :: ·) ih

theorem gifts_plain (operands : List Undashed) :
    (operands.map Item.plain).filterMap Item.gift? = [] := by
  induction operands with
  | nil => rfl
  | cons operand rest ih => exact ih

theorem readable_plain (operands : List Undashed) :
    ∀ item ∈ operands.map Item.plain, item.IsReadable := by
  intro item member gift given
  obtain ⟨operand, _, rfl⟩ := List.mem_map.mp member
  cases given

theorem long_toList (setting : Setting) :
    setting.long.toList = '-' :: '-' :: setting.name.toList := by
  cases setting <;> decide

theorem written_lineItems (notBare : value ≠ "--") :
    written (lineItems before after setting value notBare) =
      optionLine before after setting value := by
  have word : String.ofList ('-' :: '-' :: setting.name.toList ++ '=' :: value.toList) =
      setting.long ++ "=" ++ value := by
    apply String.toList_injective
    rw [String.toList_ofList, String.toList_append, String.toList_append, long_toList]
    simp
  rw [lineItems, written, List.flatMap_append, List.flatMap_cons, ← written, ← written,
    written_plain, written_plain, Item.words, optionLine, ← word]
  rfl

theorem operands_lineItems (notBare : value ≠ "--") :
    Item.operands (lineItems before after setting value notBare) =
      before.map Undashed.text ++ after.map Undashed.text := by
  rw [lineItems, Item.operands_append, operands_plain]
  exact congrArg _ (operands_plain after)

theorem last?_lineItems (notBare : value ≠ "--") :
    Item.last? (lineItems before after setting value notBare) = only setting value := by
  have gifts : (lineItems before after setting value notBare).filterMap Item.gift? =
      [(setting, value)] := by
    rw [lineItems, List.filterMap_append, gifts_plain]
    exact congrArg ((setting, value) :: ·) (gifts_plain after)
  funext other
  rw [Item.last?, gifts, only]
  by_cases same : other = setting
  · simp [same]
  · simp [same, List.lookup_cons, beq_false_of_ne same]

theorem isSound_lineItems (notBare : value ≠ "--") (two : before.length + after.length = 2) :
    IsSound (lineItems before after setting value notBare) ↔ setting.Takes value := by
  constructor
  · intro sound
    exact sound.readable (.attached (.full setting) value notBare) (by simp [lineItems])
      (setting, value) rfl
  · intro takes
    refine ⟨?_, ?_⟩
    · rw [operands_lineItems, List.length_append, List.length_map, List.length_map, two]
    · rw [lineItems, List.forall_mem_append, List.forall_mem_cons]
      refine ⟨readable_plain before, ?_, readable_plain after⟩
      rintro gift ⟨rfl⟩
      exact takes

/-- A line with two operands and one option is accepted exactly if the option takes its value, and
then the options hold this value only. -/
theorem parse_optionLine (setting : Setting) (notBare : value ≠ "--")
    (two : before.length + after.length = 2) :
    (setting.Takes value ∧ ∃ arguments, parse (optionLine before after setting value) =
        .ok arguments ∧ arguments.options.Reads (only setting value)) ∨
      (¬ setting.Takes value ∧
        ∃ stop, parse (optionLine before after setting value) = .error stop) := by
  have understood := parse_understood (lineItems before after setting value notBare)
  rw [written_lineItems] at understood
  cases parsed : parse (optionLine before after setting value) with
  | ok arguments =>
    rw [parsed] at understood
    cases understood with
    | accepted sound written =>
      refine .inl ⟨(isSound_lineItems notBare two).mp sound, arguments, rfl, ?_⟩
      rw [← last?_lineItems notBare]
      exact written.options
  | error stop =>
    rw [parsed] at understood
    cases understood with
    | refused unsound =>
      exact .inr ⟨fun takes => unsound ((isSound_lineItems notBare two).mpr takes), _, rfl⟩

end Line

section Variables
variable {setting : Setting} {text : String}

theorem variable_injective {first second : Setting} (same : first.variable = second.variable) :
    first = second := by
  cases first <;> cases second <;> first | rfl | exact absurd same (by decide +kernel)

theorem variable_ne_exitVariable (setting : Setting) (status : Status) :
    exitVariable status ≠ setting.variable := by
  cases setting <;> cases status <;> decide

/-- The environment that gives a text to the variable of one setting. -/
theorem text?_single (setting : Setting) (nonempty : text ≠ "") (other : Setting) :
    Environment.text? [(setting.variable, text)] other.variable = only setting text other := by
  by_cases same : other = setting
  · rw [same, Environment.text?_cons_self, if_neg nonempty, only, if_pos rfl]
  · have different : other.variable ≠ setting.variable :=
      fun alike => same (variable_injective alike)
    rw [Environment.text?_cons_of_ne [] text different, only, if_neg same]
    rfl

theorem text?_single_exitVariable (status : Status) :
    Environment.text? [(setting.variable, text)] (exitVariable status) = none := by
  rw [Environment.text?_cons_of_ne [] text (variable_ne_exitVariable setting status)]
  rfl

theorem inEnvironment?_single (nonempty : text ≠ "") (other : Setting) :
    other.inEnvironment? [(setting.variable, text)] =
      only setting (setting.asValue text) other := by
  have found := text?_single setting nonempty other
  by_cases same : other = setting
  · subst same
    rw [only, if_pos rfl] at found ⊢
    cases other with
    | intent =>
      rw [Setting.inEnvironment?, found]
      rfl
    | backstop | srgb | quality | extension => exact found
  · rw [only, if_neg same] at found ⊢
    cases other with
    | intent =>
      rw [Setting.inEnvironment?, found]
      rfl
    | backstop | srgb | quality | extension => exact found

/-- An environment with one variable can be read exactly if the option takes the value. -/
theorem isReadable_single (nonempty : text ≠ "") :
    Environment.IsReadable [(setting.variable, text)] ↔ setting.Takes (setting.asValue text) := by
  have found := text?_single setting nonempty
  constructor
  · intro readable
    refine ⟨?_, ?_⟩
    · rintro rfl
      have present := (found .quality).trans (only_eq_some_iff.mpr ⟨rfl, rfl⟩)
      exact Option.ne_none_iff_exists'.mpr (readable.quality text present)
    · rintro rfl
      have present := (found .intent).trans (only_eq_some_iff.mpr ⟨rfl, rfl⟩)
      exact readable.intent text present
  · intro takes
    refine ⟨fun given present => ?_, fun given present => ?_, fun status given present => ?_⟩
    · obtain ⟨rfl, rfl⟩ := only_eq_some_iff.mp ((found .quality).symm.trans present)
      exact Option.ne_none_iff_exists'.mp (takes.number rfl)
    · obtain ⟨rfl, rfl⟩ := only_eq_some_iff.mp ((found .intent).symm.trans present)
      exact takes.name rfl
    · rw [text?_single_exitVariable] at present
      cases present

/-- Alone in the environment, a text asks for what it asks for alone on the command line. -/
theorem asked_single (nonempty : text ≠ "") :
    Environment.asked [(setting.variable, text)] =
      layeredDraft [] (only setting (setting.asValue text)) := by
  have layered : layered? [(setting.variable, text)] (fun _ => none) =
      layered? [] (only setting (setting.asValue text)) := by
    funext other
    rw [layered?, layered?, Option.none_or, inEnvironment?_single nonempty]
    have empty : other.inEnvironment? [] = none := by cases other <;> rfl
    rw [empty, Option.or_none]
  have codes : Environment.code [(setting.variable, text)] = Environment.code [] := by
    funext status
    rw [Environment.code, Environment.code, text?_single_exitVariable]
    rfl
  change layeredDraft [(setting.variable, text)] (fun _ => none) = _
  unfold layeredDraft
  rw [layered, codes]

end Variables

section Meaning
variable {setting : Setting} {text : String} {before after : List Undashed}

theorem eq_dash_of_toLower {c : Char} (dash : c.toLower = '-') : c = '-' := by
  have ascii : c.toNat < 128 := Text.ascii_of_toLower (by rw [dash]; decide)
  exact Text.of_ascii (fun c => c.toLower = '-' → c = '-') (by decide +kernel) ascii dash

/-- Only a lone `--` is lower-cased to one. -/
theorem asValue_ne_bare (notBare : text ≠ "--") : setting.asValue text ≠ "--" := by
  cases setting with
  | backstop | srgb | quality | extension => exact notBare
  | intent =>
    intro bare
    have plain : ∀ c ∈ "--".toList, Text.IsPlain c := by
      intro c member
      have dash : c = '-' := by simpa using member
      rw [dash]
      decide
    have spelt : text.toList.map Char.toLower = ['-', '-'] := (Text.lower_eq_iff plain).mp bare
    obtain ⟨first, rest, chars, isDash, spelt⟩ := List.map_eq_cons_iff.mp spelt
    obtain ⟨second, last, rfl, isDashToo, spelt⟩ := List.map_eq_cons_iff.mp spelt
    obtain rfl := List.map_eq_nil_iff.mp spelt
    rw [eq_dash_of_toLower isDash, eq_dash_of_toLower isDashToo] at chars
    exact notBare (String.toList_injective chars)

theorem settings_iff_layer (nonempty : text ≠ "") (notBare : text ≠ "--")
    (two : before.length + after.length = 2) (settings : Settings) :
    Environment.settings [(setting.variable, text)] = .ok settings ↔
      ∃ arguments, parse (optionLine before after setting (setting.asValue text)) = .ok arguments ∧
        arguments.options.layer .usual = .ok settings := by
  rw [Environment.settings_eq_ok_iff, isReadable_single nonempty, asked_single nonempty]
  have usual : Environment.settings [] = .ok .usual := rfl
  rcases parse_optionLine setting (asValue_ne_bare notBare) two with
    ⟨takes, arguments, parsed, reads⟩ | ⟨refuses, stop, parsed⟩
  · have layer : arguments.options.layer .usual = .ok settings ↔
        (layeredDraft [] (only setting (setting.asValue text))).IsHeldBy settings := by
      rw [reads.layer_eq_settings usual, mapError_eq_ok_iff, Draft.settings_eq_ok_iff]
    rw [parsed, ← layer]
    constructor
    · rintro ⟨_, layered⟩
      exact ⟨arguments, rfl, layered⟩
    · rintro ⟨_, ⟨⟩, layered⟩
      exact ⟨takes, layered⟩
  · rw [parsed]
    refine iff_of_false (fun accepted => refuses accepted.1) ?_
    rintro ⟨arguments, ⟨⟩, _⟩

/-- On the command line an intent is given by its name as it is. -/
theorem parse_intent_iff (notBare : text ≠ "--") (two : before.length + after.length = 2) :
    (∃ arguments, parse (optionLine before after .intent text) = .ok arguments) ↔
      ∃ intent : Intent, text = intent.name := by
  rcases parse_optionLine .intent notBare two with
    ⟨takes, arguments, parsed, _⟩ | ⟨refuses, stop, parsed⟩
  · exact iff_of_true ⟨arguments, parsed⟩ (takes.name rfl)
  · rw [parsed]
    refine iff_of_false ?_ fun named => refuses ⟨nofun, fun _ => named⟩
    rintro ⟨_, ⟨⟩⟩

/-- A text gives settings as a variable exactly if it does as the value of the option, and the same
ones. An intent is lower-cased for its option, which takes the four names only. -/
theorem settings_same_meaning (nonempty : text ≠ "") (notBare : text ≠ "--")
    (two : before.length + after.length = 2) :
    (∀ (setting : Setting) (settings : Settings),
      Environment.settings [(setting.variable, text)] = .ok settings ↔
        ∃ arguments,
          parse (optionLine before after setting (setting.asValue text)) = .ok arguments ∧
            arguments.options.layer .usual = .ok settings) ∧
      ((∃ arguments, parse (optionLine before after .intent text) = .ok arguments) ↔
        ∃ intent : Intent, text = intent.name) :=
  ⟨fun _ => settings_iff_layer nonempty notBare two, parse_intent_iff notBare two⟩

/-- A quality with blanks, a sign and an underscore is 95 in both places. -/
theorem settings_same_meaning_of_signed :
    " +9_5 " ≠ "" ∧ " +9_5 " ≠ "--" ∧
      ∃ arguments, parse ["in.tif", "--quality= +9_5 ", "out"] = .ok arguments ∧
        arguments.options.layer .usual =
          .ok { Settings.usual with quality := 95, quality_le := by decide } := by
  have nonempty : " +9_5 " ≠ "" := by decide
  have notBare : " +9_5 " ≠ "--" := by decide
  have same := (@settings_same_meaning " +9_5 " [⟨"in.tif", by decide⟩] [⟨"out", by decide⟩]
    nonempty notBare rfl).1 .quality
  exact ⟨nonempty, notBare, (same _).mp rfl⟩

end Meaning
end InkToScreen.CommandLine
