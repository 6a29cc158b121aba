import InkToScreen.CommandLine.Session
import InkToScreen.Imaging.Scripted
import InkToScreen.Proofs.CommandLine.Given

namespace InkToScreen.CommandLine

def Setting.name : Setting → String
  | backstop => "backstop-profile"
  | srgb => "srgb-profile"
  | quality => "quality"
  | extension => "extension"
  | intent => "intent"

/-- At least one letter from the beginning of a setting's name. The names differ in their first
letters, so no other name begins so. -/
structure Abbreviation where
  setting : Setting
  letters : List Char
  nonempty : letters ≠ []
  begins : letters <+: setting.name.toList

/-- A text that no dash begins; it may be empty. -/
structure Undashed where
  text : String
  noDash : text.toList.head? ≠ some '-'

/-- An operand or an option as it is written. -/
inductive Item where
  | plain (operand : Undashed)
  | letter
  | flag
  | attached (name : Abbreviation) (text : String) (notBare : text ≠ "--")
  | apart (name : Abbreviation) (value : Undashed)

namespace Item

def words : Item → List String
  | plain operand => [operand.text]
  | letter => ["-v"]
  | flag => ["--verbose"]
  | attached name text _ => [String.ofList ('-' :: '-' :: name.letters ++ '=' :: text.toList)]
  | apart name value => [String.ofList ('-' :: '-' :: name.letters), value.text]

def kinds : Item → List Word
  | plain operand => [.plain operand.text]
  | letter => [.letter .verbose none]
  | flag => [.long (.flag .verbose) none]
  | attached name text _ => [.long (.setting name.setting) (some text)]
  | apart name value => [.long (.setting name.setting) none, .plain value.text]

def operand? : Item → Option String
  | plain operand => some operand.text
  | _ => none

def gift? : Item → Option (Setting × String)
  | attached name text _ => some (name.setting, text)
  | apart name value => some (name.setting, value.text)
  | _ => none

def isFlag : Item → Bool
  | letter | flag => true
  | _ => false

end Item

def written (items : List Item) : List String :=
  items.flatMap Item.words

section Kinds

theorem splitEquals_of_not_mem {text : List Char} (absent : '=' ∉ text) :
    splitEquals text = (text, none) := by
  induction text with
  | nil => rfl
  | cons c rest ih =>
    rw [List.mem_cons, not_or] at absent
    rw [splitEquals, if_neg (Ne.symm absent.1), ih absent.2]

theorem splitEquals_append {text : List Char} (absent : '=' ∉ text) (value : List Char) :
    splitEquals (text ++ '=' :: value) = (text, some value) := by
  induction text with
  | nil => rfl
  | cons c rest ih =>
    rw [List.mem_cons, not_or] at absent
    rw [List.cons_append, splitEquals, if_neg (Ne.symm absent.1), ih absent.2]

/-- What begins the name of a setting is the name of an option or begins just one. -/
theorem Setting.found_of_take (setting : Setting) :
    ∀ count < setting.name.toList.length,
      let beginning := '-' :: '-' :: setting.name.toList.take (count + 1)
      '=' ∉ beginning ∧
        (longSpellings.lookup (String.ofList beginning) = some (.setting setting) ∨
          longSpellings.lookup (String.ofList beginning) = none ∧
            longMatches beginning = [(setting.long, .setting setting)]) := by
  cases setting <;> decide +kernel

theorem Abbreviation.found (name : Abbreviation) :
    '=' ∉ '-' :: '-' :: name.letters ∧
      (longSpellings.lookup (String.ofList ('-' :: '-' :: name.letters)) =
          some (.setting name.setting) ∨
        longSpellings.lookup (String.ofList ('-' :: '-' :: name.letters)) = none ∧
          longMatches ('-' :: '-' :: name.letters) =
            [(name.setting.long, .setting name.setting)]) := by
  obtain ⟨setting, letters, nonempty, begins⟩ := name
  have positive : 0 < letters.length := List.length_pos_iff.mpr nonempty
  have short : letters.length - 1 < setting.name.toList.length := by
    have bound := begins.length_le
    omega
  have found := setting.found_of_take _ short
  rw [Nat.sub_add_cancel positive, ← List.prefix_iff_eq_take.mp begins] at found
  exact found

/-- A word that begins with a beginning of a setting's name, and with its value after an equals sign
if there is one, is this setting. -/
theorem Abbreviation.longWord_eq (name : Abbreviation) {word : String} {afterDash : List Char}
    {value : Option (List Char)}
    (split : splitEquals word.toList = ('-' :: '-' :: name.letters, value)) :
    longWord word afterDash = .ok (.long (.setting name.setting) (value.map String.ofList)) := by
  obtain ⟨_, found⟩ := name.found
  unfold longWord
  rw [split]
  rcases found with exact' | ⟨none, only⟩
  · simp only [exact']
  · simp only [none, only]

/-- A word that goes on after a beginning of a setting's name. -/
theorem Abbreviation.classify_eq (name : Abbreviation) {rest : List Char}
    {value : Option (List Char)}
    (split : splitEquals ('-' :: '-' :: name.letters ++ rest) =
      ('-' :: '-' :: name.letters, value)) :
    Word.classify (String.ofList ('-' :: '-' :: name.letters ++ rest)) =
      .ok (.long (.setting name.setting) (value.map String.ofList)) := by
  unfold Word.classify
  rw [String.toList_ofList]
  exact name.longWord_eq (by rw [String.toList_ofList, split])

theorem Abbreviation.ne_bare (name : Abbreviation) (rest : List Char) :
    String.ofList ('-' :: '-' :: name.letters ++ rest) ≠ "--" := by
  intro bare
  have same := congrArg String.toList bare
  rw [String.toList_ofList] at same
  have empty : name.letters ++ rest = [] := List.tail_eq_of_cons_eq (List.tail_eq_of_cons_eq same)
  exact name.nonempty (List.append_eq_nil_iff.mp empty).1

theorem Undashed.classify_eq (operand : Undashed) :
    Word.classify operand.text = .ok (.plain operand.text) := by
  unfold Word.classify
  split
  · rename_i same
    exact absurd (by rw [same]; rfl) operand.noDash
  · rename_i same
    exact absurd (by rw [same]; rfl) operand.noDash
  · rfl

theorem Undashed.ne_bare (operand : Undashed) : operand.text ≠ "--" := by
  intro bare
  exact operand.noDash (by rw [bare]; rfl)

theorem Item.classify_words (item : Item) (words : List String) :
    classify (item.words ++ words) = (classify words).map (item.kinds ++ ·) := by
  cases item with
  | plain operand => exact classify_cons operand.ne_bare operand.classify_eq words
  | letter => exact classify_cons (by decide) rfl words
  | flag => exact classify_cons (by decide) rfl words
  | attached name text notBare =>
    have isKind := name.classify_eq (splitEquals_append name.found.1 text.toList)
    rw [Option.map_some, String.ofList_toList] at isKind
    exact classify_cons (name.ne_bare _) isKind words
  | apart name value =>
    have whole : splitEquals ('-' :: '-' :: name.letters ++ []) =
        ('-' :: '-' :: name.letters, none) := by
      rw [List.append_nil, splitEquals_of_not_mem name.found.1]
    have isKind := name.classify_eq whole
    have notBare := name.ne_bare []
    rw [List.append_nil] at isKind notBare
    change classify (_ :: value.text :: words) = _
    rw [classify_cons notBare isKind, classify_cons value.ne_bare value.classify_eq]
    cases classify words <;> rfl

/-- The kinds of the words of written items. -/
theorem classify_written (items : List Item) :
    classify (written items) = .ok (items.flatMap Item.kinds) := by
  induction items with
  | nil => rfl
  | cons item rest ih =>
    rw [written, List.flatMap_cons, Item.classify_words, ← written, ih]
    rfl

end Kinds
/-- The texts of the written operands, in order. -/
def Item.operands (items : List Item) : List String :=
  items.filterMap Item.operand?

/-- The last text that is written for a setting, if there is one. -/
def Item.last? (items : List Item) (setting : Setting) : Option String :=
  (items.filterMap Item.gift?).reverse.lookup setting

/-- A quality is the text of an integer and an intent has one of four names; the other settings take
any text. -/
structure Setting.Takes (setting : Setting) (text : String) : Prop where
  number : setting = .quality → Text.integer? text ≠ none
  name : setting = .intent → ∃ intent : Intent, text = intent.name

/-- What is written for a setting can be taken by it. -/
def Item.IsReadable (item : Item) : Prop :=
  ∀ gift ∈ item.gift?, gift.1.Takes gift.2

section Readings
variable {reading reached last : Reading} {items more : List Item} {margin : Margin}

theorem Item.operands_append :
    Item.operands (items ++ more) = Item.operands items ++ Item.operands more :=
  List.filterMap_append

theorem Item.last?_append (setting : Setting) :
    last? (items ++ more) setting = (last? more setting).or (last? items setting) := by
  rw [last?, List.filterMap_append, List.reverse_append, List.lookup_append]
  rfl

/-- No word is left over while an operand is missing. -/
inductive Reading.IsPacked (reading : Reading) : Prop
  | full (full : reading.operands.length = operandNames.length)
  | short (room : reading.operands.length < operandNames.length) (clean : reading.extras = [])

/-- What has been read after some written items. -/
structure Reading.Gathers (reading : Reading) (items : List Item) (last : Reading) : Prop where
  packed : last.IsPacked
  texts : last.operands ++ last.extras.map some =
    reading.operands ++ reading.extras.map some ++ (Item.operands items).map some
  options : ∀ text?, reading.options.Reads text? →
    last.options.Reads fun setting => (Item.last? items setting).or (text? setting)
  verbose : last.options.verbose = (reading.options.verbose || items.any Item.isFlag)

namespace Reading.Gathers

theorem refl (packed : reading.IsPacked) : reading.Gathers [] reading where
  packed := packed
  texts := by simp [Item.operands]
  options _ reads := reads
  verbose := by simp

theorem append (first : reading.Gathers items reached) (second : reached.Gathers more last) :
    reading.Gathers (items ++ more) last where
  packed := second.packed
  texts := by
    rw [second.texts, first.texts, Item.operands_append, List.map_append, List.append_assoc]
  options text? reads := by
    have both := second.options _ (first.options text? reads)
    simpa only [Item.last?_append, Option.or_assoc] using both
  verbose := by
    rw [second.verbose, first.verbose, List.any_append, Bool.or_assoc]

theorem fill (room : reading.hasRoom = true) (packed : reading.IsPacked) (operand : Undashed) :
    reading.Gathers [.plain operand] (reading.fill (some operand.text)) := by
  have free : reading.operands.length < operandNames.length := of_decide_eq_true room
  have clean : reading.extras = [] := by
    cases packed with
    | full full => omega
    | short _ clean => exact clean
  refine ⟨?_, ?_, fun _ reads => reads, by simp [Reading.fill, Item.isFlag]⟩
  · have longer : (reading.fill (some operand.text)).operands.length =
        reading.operands.length + 1 := List.length_append
    by_cases last : reading.operands.length + 1 = operandNames.length
    · exact .full (longer.trans last)
    · exact .short (by omega) clean
  · simp [Reading.fill, clean, Item.operands, Item.operand?]

theorem keep (full : ¬ reading.hasRoom = true) (packed : reading.IsPacked) (operand : Undashed) :
    reading.Gathers [.plain operand] (reading.keep operand.text) := by
  have complete : reading.operands.length = operandNames.length := by
    cases packed with
    | full complete => exact complete
    | short room _ => exact absurd (decide_eq_true room) full
  refine ⟨.full complete, ?_, fun _ reads => reads, by simp [Reading.keep, Item.isFlag]⟩
  simp [Reading.keep, Item.operands, Item.operand?]

theorem raise (packed : reading.IsPacked) {item : Item} (flag : item = .letter ∨ item = .flag) :
    reading.Gathers [item]
      { reading with options := { reading.options with verbose := true } } := by
  rcases flag with rfl | rfl
  all_goals
    refine ⟨?_, by simp [Item.operands, Item.operand?], fun _ reads => { reads with },
      by simp [Item.isFlag]⟩
    cases packed with
    | full full => exact .full full
    | short room clean => exact .short room clean

theorem give {options : Options} {item : Item} {setting : Setting} {text : String}
    (packed : reading.IsPacked) (given : item.gift? = some (setting, text)) (notBare : text ≠ "--")
    (gave : reading.options.give setting text = .ok options)
    (quiet : options.verbose = reading.options.verbose) :
    reading.Gathers [item] { reading with options } := by
  have noOperand : item.operand? = none := by
    cases item <;> first | rfl | cases given
  have noFlag : item.isFlag = false := by
    cases item <;> first | rfl | cases given
  refine ⟨?_, by simp [Item.operands, noOperand], ?_, by simp [noFlag, quiet]⟩
  · cases packed with
    | full full => exact .full full
    | short room clean => exact .short room clean
  · intro text? reads
    have read := reads.give notBare gave
    simp only [Item.last?, List.filterMap_cons_some given, List.filterMap_nil, lookup_gift]
    exact read

end Reading.Gathers

/-- A setting that takes a text gets it, and no other text is accepted. -/
theorem Options.give_cases (options : Options) {setting : Setting} {text : String}
    (notBare : text ≠ "--") :
    (setting.Takes text ∧ ∃ after, options.give setting text = .ok after ∧
        after.verbose = options.verbose) ∨
      (¬ setting.Takes text ∧ ∃ error, options.give setting text = .error error) := by
  cases setting with
  | backstop | srgb | extension =>
    refine .inl ⟨⟨fun same => ?_, fun same => ?_⟩, _, rfl, rfl⟩
    · cases same
    · cases same
  | quality =>
    simp only [give, notBare, if_false]
    cases isNumber : Text.integer? text with
    | some number =>
      refine .inl ⟨⟨fun _ => by simp [isNumber], fun same => ?_⟩, _, rfl, rfl⟩
      cases same
    | none => exact .inr ⟨fun takes => takes.number rfl isNumber, _, rfl⟩
  | intent =>
    simp only [give, notBare, if_false]
    cases isIntent : Intent.ofName? text with
    | some intent =>
      have named := Intent.ofName?_eq_some_iff.mp isIntent
      refine .inl ⟨⟨fun same => ?_, fun _ => ⟨intent, named⟩⟩, _, rfl, rfl⟩
      cases same
    | none =>
      refine .inr ⟨?_, _, rfl⟩
      intro takes
      obtain ⟨intent, rfl⟩ := takes.name rfl
      rw [Intent.ofName?_name] at isIntent
      cases isIntent

/-- A written value is given to its setting, if it can be taken. -/
theorem Reading.give_cases (packed : reading.IsPacked) (item : Item) {setting : Setting}
    {text : String} (given : item.gift? = some (setting, text)) (notBare : text ≠ "--") :
    (item.IsReadable ∧ ∃ reached, reading.Gathers [item] reached ∧
        reading.give setting text = .ok reached) ∨
      (¬ item.IsReadable ∧ ∃ error, reading.give setting text = .error (.usage error)) := by
  have readable : item.IsReadable ↔ setting.Takes text := by
    simp [Item.IsReadable, given]
  rw [readable]
  unfold give
  rcases reading.options.give_cases notBare with
    ⟨takes, after, gave, quiet⟩ | ⟨refused, error, gave⟩
  · exact .inl ⟨takes, _, .give packed given notBare gave quiet, by rw [gave]⟩
  · exact .inr ⟨refused, error, by rw [gave]⟩

theorem Reading.settle_of_ne (close : margin ≠ .divider) : reading.settle margin = reading := by
  cases margin with
  | nothing | operand => rfl
  | divider => exact absurd rfl close

/-- One written item is read as what it says, whatever follows it, unless it is a value that its
setting cannot take. -/
theorem Reading.run_item (packed : reading.IsPacked) (close : margin ≠ .divider) (item : Item) :
    (item.IsReadable ∧ ∃ reached beside, beside ≠ .divider ∧ reading.Gathers [item] reached ∧
        ∀ rest, reading.run margin (item.kinds ++ rest) = reached.run beside rest) ∨
      (¬ item.IsReadable ∧ ∃ error, ∀ rest,
        reading.run margin (item.kinds ++ rest) = .error (.usage error)) := by
  have settled : reading.settle margin = reading := settle_of_ne close
  cases item with
  | plain operand =>
    refine .inl ⟨nofun, ?_⟩
    by_cases room : reading.hasRoom = true
    · refine ⟨_, .operand, nofun, .fill room packed operand, ?_⟩
      intro rest
      simp only [Item.kinds, List.singleton_append, run, room, operand.ne_bare, if_true, false_and,
        if_false]
    · refine ⟨_, .nothing, nofun, .keep room packed operand, ?_⟩
      intro rest
      simp only [Item.kinds, List.singleton_append, run, room, settled]
      rfl
  | letter =>
    refine .inl ⟨nofun, _, .nothing, nofun, .raise packed (.inl rfl), ?_⟩
    intro rest
    simp only [Item.kinds, List.singleton_append, run, settled]
    rfl
  | flag =>
    refine .inl ⟨nofun, _, .nothing, nofun, .raise packed (.inr rfl), ?_⟩
    intro rest
    simp only [Item.kinds, List.singleton_append, run, settled]
    rfl
  | attached name text notBare =>
    rcases give_cases packed (.attached name text notBare) rfl notBare with
      ⟨readable, reached, gathers, gave⟩ | ⟨unreadable, error, gave⟩
    · refine .inl ⟨readable, reached, .nothing, nofun, gathers, ?_⟩
      intro rest
      simp only [Item.kinds, List.singleton_append, run, settled, gave]
      rfl
    · refine .inr ⟨unreadable, error, ?_⟩
      intro rest
      simp only [Item.kinds, List.singleton_append, run, settled, gave]
      rfl
  | apart name value =>
    rcases give_cases packed (.apart name value) rfl value.ne_bare with
      ⟨readable, reached, gathers, gave⟩ | ⟨unreadable, error, gave⟩
    · refine .inl ⟨readable, reached, .nothing, nofun, gathers, ?_⟩
      intro rest
      simp only [Item.kinds, List.cons_append, List.nil_append, run, settled, gave]
      rfl
    · refine .inr ⟨unreadable, error, ?_⟩
      intro rest
      simp only [Item.kinds, List.cons_append, List.nil_append, run, settled, gave]
      rfl

/-- Written items are read one after the other, up to a value that its setting cannot take. -/
theorem Reading.run_items (packed : reading.IsPacked) (close : margin ≠ .divider)
    (items : List Item) :
    ((∀ item ∈ items, item.IsReadable) ∧ ∃ last, reading.Gathers items last ∧
        reading.run margin (items.flatMap Item.kinds) = .ok last) ∨
      ((¬ ∀ item ∈ items, item.IsReadable) ∧ ∃ error,
        reading.run margin (items.flatMap Item.kinds) = .error (.usage error)) := by
  induction items generalizing reading margin with
  | nil =>
    refine .inl ⟨by simp, reading, .refl packed, ?_⟩
    rw [List.flatMap_nil, run, settle_of_ne close]
  | cons item rest ih =>
    rw [List.flatMap_cons, List.forall_mem_cons]
    rcases run_item packed close item with
      ⟨readable, reached, beside, closeToo, first, goesOn⟩ | ⟨unreadable, error, stops⟩
    · rw [goesOn]
      rcases ih first.packed closeToo with ⟨others, last, second, ran⟩ | ⟨others, error, ran⟩
      · exact .inl ⟨⟨readable, others⟩, last, first.append second, ran⟩
      · exact .inr ⟨fun all => others all.2, error, ran⟩
    · exact .inr ⟨fun all => unreadable all.1, error, stops _⟩

/-- A reading in which no word is left over too early is complete with two words. -/
theorem Reading.arguments_cases (packed : reading.IsPacked) :
    (∃ input stem, reading.operands ++ reading.extras.map some = [input, stem] ∧
        reading.arguments = .ok { options := reading.options, input, stem }) ∨
      ((reading.operands ++ reading.extras.map some).length ≠ 2 ∧
        ∃ error, reading.arguments = .error (.usage error)) := by
  obtain ⟨options, operands, extras⟩ := reading
  cases packed with
  | full full =>
    match operands, full with
    | [input, stem], _ =>
      cases extras with
      | nil => exact .inl ⟨input, stem, rfl, rfl⟩
      | cons word rest => exact .inr ⟨by simp, _, rfl⟩
  | short room clean =>
    obtain rfl : extras = [] := clean
    match operands, room with
    | [], _ => exact .inr ⟨by simp, _, rfl⟩
    | [_], _ => exact .inr ⟨by simp, _, rfl⟩
    | _ :: _ :: rest, room => exact absurd room (by simp [operandNames])

end Readings

theorem Item.any_isFlag (items : List Item) :
    items.any isFlag = true ↔ letter ∈ items ∨ flag ∈ items := by
  have isFlag_iff (item : Item) : item.isFlag = true ↔ item = letter ∨ item = flag := by
    cases item <;> simp [isFlag]
  simp only [List.any_eq_true, isFlag_iff, and_or_left, exists_or, exists_eq_right]

/-- Written items make a command line with two operands and with readable values. -/
structure IsSound (items : List Item) : Prop where
  two : (Item.operands items).length = 2
  readable : ∀ item ∈ items, item.IsReadable

/-- What is read is what was written: the operands in order, the last value of each setting, and
whether a flag is there. -/
structure Arguments.IsWritten (arguments : Arguments) (items : List Item) : Prop where
  operands : [arguments.input, arguments.stem] = (Item.operands items).map some
  options : arguments.options.Reads (Item.last? items)
  verbose : arguments.options.verbose = true ↔ .letter ∈ items ∨ .flag ∈ items

/-- What written items come to: they are read as they are if they are sound, and otherwise there is
a complaint. -/
inductive Understood (items : List Item) : Except Stop Arguments → Prop
  | accepted (sound : IsSound items) (written : arguments.IsWritten items) :
      Understood items (.ok arguments)
  | refused (unsound : ¬ IsSound items) : Understood items (.error (.usage error))

theorem parse_understood (items : List Item) : Understood items (parse (written items)) := by
  have packed : Reading.IsPacked {} := .short (by decide) rfl
  have close : Margin.nothing ≠ .divider := nofun
  unfold parse
  rw [classify_written]
  rcases Reading.run_items packed close items with
    ⟨readable, last, gathers, ran⟩ | ⟨unreadable, error, ran⟩
  · have texts : last.operands ++ last.extras.map some = (Item.operands items).map some :=
      gathers.texts
    simp only [ran]
    rcases Reading.arguments_cases gathers.packed with
      ⟨input, stem, two, complete⟩ | ⟨notTwo, error, complete⟩
    · rw [two] at texts
      have sound : IsSound items := by
        refine ⟨?_, readable⟩
        rw [← List.length_map some, ← texts]
        rfl
      have read := gathers.options _ Options.reads_nothing
      simp only [Option.or_none] at read
      change Understood items last.arguments
      rw [complete]
      refine .accepted sound ⟨texts, read, ?_⟩
      have flagged : last.options.verbose = items.any Item.isFlag := gathers.verbose
      rw [flagged, Item.any_isFlag]
    · change Understood items last.arguments
      rw [complete]
      refine .refused fun sound => notTwo ?_
      rw [texts, List.length_map, sound.two]
  · simp only [ran]
    exact .refused fun sound => unreadable sound.readable

/-- What is written is read back, and accepted exactly with two operands and with values that can be
taken; otherwise the program exits with the environment's code for fatal errors. -/
theorem parse_written (items : List Item) :
    Understood items (parse (written items)) ∧
      ∀ (lib : Library) (environment : Environment) (base : Settings) (world : World lib),
        environment.settings = .ok base → ¬ IsSound items →
          (run environment (written items) world).ending = .exited (base.exitCode .fatalError) := by
  have understood := parse_understood items
  refine ⟨understood, ?_⟩
  intro lib environment base world accepted unsound
  unfold run
  rw [accepted]
  cases parsed : parse (written items) with
  | ok arguments =>
    rw [parsed] at understood
    cases understood with
    | accepted sound => exact absurd sound unsound
  | error stop =>
    rw [parsed] at understood
    cases understood with
    | refused => rfl

/-- Two operands around an intent that does not exist, its name shortened. -/
def vivid : List Item := [
  .plain ⟨"in.tif", by decide⟩,
  .attached ⟨.intent, ['i', 'n', 't'], by decide, by decide⟩ "vivid" (by decide),
  .plain ⟨"out", by decide⟩]

/-- An intent that does not exist ends the program with the code for fatal errors. -/
theorem parse_written_vivid :
    ¬ IsSound vivid ∧ written vivid = ["in.tif", "--int=vivid", "out"] ∧
      (run [("CMYK2SRGB_EXIT_FATAL_ERROR", "9")] (written vivid) (Scripted.world [])).ending =
        .exited 9 := by
  have unsound : ¬ IsSound vivid := by
    intro sound
    have takes := sound.readable _ (.tail _ (.head _)) (.intent, "vivid") rfl
    obtain ⟨intent, same⟩ := takes.name rfl
    revert same
    cases intent <;> decide
  have accepted : ∃ base, Environment.settings [("CMYK2SRGB_EXIT_FATAL_ERROR", "9")] = .ok base ∧
      base.exitCode .fatalError = 9 := ⟨_, rfl, rfl⟩
  obtain ⟨base, isBase, code⟩ := accepted
  refine ⟨unsound, by decide, ?_⟩
  rw [← code]
  exact (parse_written vivid).2 _ _ base _ isBase unsound

end InkToScreen.CommandLine
