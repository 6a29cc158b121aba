import InkToScreen.CommandLine.Arguments
import InkToScreen.Proofs.Answers

namespace InkToScreen.CommandLine

/-- The plain words that are not the value of a setting. -/
def operandTexts : List Word → List String
  | [] => []
  | .plain text :: rest => text :: operandTexts rest
  | .long (.setting _) none :: .plain _ :: rest => operandTexts rest
  | _ :: rest => operandTexts rest

/-- The texts that settings get, in order. -/
def gifts : List Word → List (Setting × String)
  | [] => []
  | .long (.setting setting) (some text) :: rest => (setting, text) :: gifts rest
  | .long (.setting setting) none :: .plain text :: rest => (setting, text) :: gifts rest
  | _ :: rest => gifts rest

/-- The last text that a setting gets, if it gets one. -/
def given? (kinds : List Word) (setting : Setting) : Option String :=
  (gifts kinds).reverse.lookup setting

/-- A lone `--` that stands for an operand or is attached to a setting. -/
inductive Word.IsBare : Word → Prop
  | operand : IsBare (.plain "--")
  | attached (setting : Setting) : IsBare (.long (.setting setting) (some "--"))

/-- At most one word is a lone `--`, and no setting gets one attached. -/
structure Undivided (words : List String) : Prop where
  once : words.count "--" ≤ 1
  attached : ∀ kinds setting, classify words = .ok kinds →
    .long (.setting setting) (some "--") ∉ kinds

def Supplied.ofOption {α : Type} : Option α → Supplied α
  | none => .absent
  | some given => .value given

/-- The options hold what the texts that were given to the settings read as, and these can be
read. -/
structure Options.Reads (options : Options) (text? : Setting → Option String) : Prop where
  backstop : options.backstop = .ofOption ((text? .backstop).map Path.ofText)
  srgb : options.srgb = .ofOption ((text? .srgb).map Path.ofText)
  quality : options.quality = .ofOption ((text? .quality).bind Text.integer?)
  extension : options.extension = .ofOption (text? .extension)
  intent : options.intent = .ofOption ((text? .intent).bind Intent.ofName?)
  numeric : ∀ text, text? .quality = some text → Text.integer? text ≠ none
  named : ∀ text, text? .intent = some text → Intent.ofName? text ≠ none

theorem Options.reads_nothing : Options.Reads {} fun _ => none :=
  ⟨rfl, rfl, rfl, rfl, rfl, nofun, nofun⟩

section Kinds
variable {word text : String} {words : List String} {kinds : List Word}

/-- A plain word stands for itself. -/
theorem Word.classify_eq_plain (classified : classify word = .ok (.plain text)) : text = word := by
  have unmatched_eq_plain {afterDash : List Char}
      (same : unmatched word afterDash = .plain text) : text = word := by
    unfold unmatched at same
    split at same
    · cases same
      rfl
    · cases same
  unfold classify at classified
  split at classified
  · unfold longWord at classified
    simp only at classified
    split at classified
    · cases classified
    · split at classified
      · exact unmatched_eq_plain (Except.ok.inj classified)
      · cases classified
      · cases classified
  · split at classified
    · cases classified
    · exact unmatched_eq_plain (Except.ok.inj classified)
  · cases classified
    rfl

theorem classify_cons_eq_ok_iff (other : word ≠ "--") :
    classify (word :: words) = .ok kinds ↔ ∃ kind, Word.classify word = .ok kind ∧
      ∃ rest, classify words = .ok rest ∧ kinds = kind :: rest := by
  rw [classify, if_neg other]
  simp only [bind_eq_ok_iff, pure, Except.pure, Except.ok.injEq]
  simp only [eq_comm]

theorem classify_cons {kind : Word} (other : word ≠ "--") (isKind : Word.classify word = .ok kind)
    (words : List String) : classify (word :: words) = (classify words).map (kind :: ·) := by
  rw [classify, if_neg other, isKind]
  cases classify words <;> rfl

/-- With one lone `--` at most, none of them is an operand or a value. -/
theorem plain_not_mem_of_once (once : words.count "--" ≤ 1)
    (classified : classify words = .ok kinds) : .plain "--" ∉ kinds := by
  induction words generalizing kinds with
  | nil =>
    cases classified
    simp
  | cons word rest ih =>
    by_cases divides : word = "--"
    · subst word
      rw [List.count_cons_self] at once
      have none : "--" ∉ rest := List.count_eq_zero.mp (by omega)
      rw [classify, if_pos rfl] at classified
      cases classified
      simpa using none
    · obtain ⟨kind, isKind, others, areOthers, rfl⟩ :=
        (classify_cons_eq_ok_iff divides).mp classified
      rw [List.count_cons_of_ne divides] at once
      rw [List.mem_cons, not_or]
      refine ⟨?_, ih once areOthers⟩
      rintro rfl
      exact divides (Word.classify_eq_plain isKind).symm

theorem Undivided.not_isBare (undivided : Undivided words)
    (classified : classify words = .ok kinds) : ∀ kind ∈ kinds, ¬ kind.IsBare := by
  rintro kind member (_ | setting)
  · exact plain_not_mem_of_once undivided.once classified member
  · exact undivided.attached kinds setting classified member

end Kinds

section Gifts
variable {setting other : Setting} {text : String} {text? : Setting → Option String}

theorem lookup_gift (gifts : List (Setting × String)) :
    (((setting, text) :: gifts).reverse.lookup other).or (text? other) =
      (gifts.reverse.lookup other).or (if other = setting then some text else text? other) := by
  rw [List.reverse_cons, List.lookup_append, Option.or_assoc]
  by_cases same : other = setting
  · subst same
    simp
  · have unequal : (other == setting) = false := by simpa using same
    simp [List.lookup_cons, unequal, same]

/-- A setting that gets a text reads as that text, the other ones as before. -/
theorem Options.Reads.give {options after : Options} (reads : options.Reads text?)
    (notBare : text ≠ "--") (gave : options.give setting text = .ok after) :
    after.Reads fun other => if other = setting then some text else text? other := by
  cases setting
  all_goals simp only [Options.give, notBare, if_false] at gave
  case backstop =>
    cases gave
    exact { reads with backstop := rfl }
  case srgb =>
    cases gave
    exact { reads with srgb := rfl }
  case extension =>
    cases gave
    exact { reads with extension := rfl }
  case quality =>
    split at gave
    · rename_i number isNumber
      cases gave
      refine { reads with quality := ?_, numeric := ?_ }
      · simp [isNumber, Supplied.ofOption]
      · simp [isNumber]
    · cases gave
  case intent =>
    split at gave
    · rename_i intent isIntent
      cases gave
      refine { reads with intent := ?_, named := ?_ }
      · simp [isIntent, Supplied.ofOption]
      · simp [isIntent]
    · cases gave

end Gifts

section Readings
variable {reading raised last : Reading} {margin : Margin} {kinds rest : List Word}
  {setting : Setting} {text : String}

/-- Flags change nothing but what is shown. -/
theorem Reading.raise_eq_ok {flags : List Flag} (done : reading.raise flags = .ok raised) :
    ∃ verbose, raised = { reading with options := { reading.options with verbose } } := by
  induction flags generalizing reading with
  | nil =>
    cases done
    exact ⟨_, rfl⟩
  | cons flag rest ih =>
    cases flag with
    | help => cases done
    | verbose =>
      obtain ⟨verbose, same⟩ := ih done
      exact ⟨verbose, same⟩

theorem Reading.raiseLetter_eq_ok {flag : Flag} {attached : Option String}
    (done : reading.raiseLetter flag attached = .ok raised) :
    ∃ verbose, raised = { reading with options := { reading.options with verbose } } := by
  unfold raiseLetter at done
  split at done
  · exact raise_eq_ok done
  · cases done
  · split at done
    · exact raise_eq_ok done
    · cases done

/-- No word was left over, and reading more words has added their operands and what their settings
get. -/
structure Reading.Completes (reading : Reading) (kinds : List Word) (last : Reading) : Prop where
  extras : reading.extras = []
  operands : last.operands = reading.operands ++ (operandTexts kinds).map some
  options : ∀ text?, reading.options.Reads text? →
    last.options.Reads fun setting => (given? kinds setting).or (text? setting)

namespace Reading.Completes

theorem nil (clean : reading.extras = []) : reading.Completes [] reading where
  extras := clean
  operands := by simp [operandTexts]
  options _ reads := reads

theorem of_settle (completes : (reading.settle margin).Completes kinds last) :
    reading.Completes kinds last := by
  cases margin with
  | nothing | operand => exact completes
  | divider =>
    have left := completes.extras
    simp [settle, keep] at left

theorem not_keep : ¬ (reading.keep text).Completes kinds last := by
  intro completes
  have left := completes.extras
  simp [keep] at left

theorem skip (completes : reading.Completes rest last)
    (same : operandTexts kinds = operandTexts rest) (sameGifts : gifts kinds = gifts rest) :
    reading.Completes kinds last where
  extras := completes.extras
  operands := by rw [same, completes.operands]
  options := by
    simp only [given?, sameGifts]
    exact completes.options

theorem fill (completes : (reading.fill (some text)).Completes rest last) :
    reading.Completes (.plain text :: rest) last where
  extras := completes.extras
  operands := by
    rw [completes.operands]
    simp [Reading.fill, operandTexts]
  options := completes.options

theorem raise {verbose : Bool}
    (completes : Reading.Completes { reading with options := { reading.options with verbose } }
      rest last) : reading.Completes rest last where
  extras := completes.extras
  operands := completes.operands
  options text? reads := completes.options text? { reads with }

theorem give {given : Reading} (gave : reading.give setting text = .ok given)
    (notBare : text ≠ "--") (completes : given.Completes rest last)
    (same : operandTexts kinds = operandTexts rest)
    (more : gifts kinds = (setting, text) :: gifts rest) : reading.Completes kinds last := by
  unfold Reading.give at gave
  split at gave
  · rename_i options given
    cases gave
    refine ⟨completes.extras, by rw [same, completes.operands], ?_⟩
    intro text? reads
    simp only [given?, more, lookup_gift]
    exact completes.options _ (reads.give notBare given)
  · cases gave

end Reading.Completes

/-- A reading after which no word is left over completes what it began with. -/
theorem Reading.run_completes (ran : reading.run margin kinds = .ok last) (clean : last.extras = [])
    (noneBare : ∀ kind ∈ kinds, ¬ kind.IsBare) : reading.Completes kinds last := by
  -- a word that is kept on the way would still be left over at the end
  fun_induction Reading.run reading margin kinds with
  | case1 reading margin =>
    cases ran
    exact (Completes.nil clean).of_settle
  | case2 reading margin text rest hasRoom ih =>
    rw [List.forall_mem_cons] at noneBare
    have notBare : text ≠ "--" := by
      rintro rfl
      exact noneBare.1 .operand
    simp only [notBare, false_and, if_false] at ran ih
    exact (ih ran noneBare.2).fill
  | case3 reading margin text rest full ih =>
    exact absurd (ih ran (List.forall_mem_cons.mp noneBare).2) Completes.not_keep
  | case4 reading rest ih => exact (ih ran (List.forall_mem_cons.mp noneBare).2).skip rfl rfl
  | case5 reading margin rest alone ih =>
    exact (ih ran (List.forall_mem_cons.mp noneBare).2).of_settle.skip rfl rfl
  | case6 reading margin text rest ih =>
    exact absurd (ih ran (List.forall_mem_cons.mp noneBare).2) Completes.not_keep
  | case7 reading margin flag attached rest ih =>
    obtain ⟨raised, done, ran⟩ := bind_eq_ok_iff.mp ran
    have completes := ih raised ran (List.forall_mem_cons.mp noneBare).2
    obtain ⟨verbose, rfl⟩ := raiseLetter_eq_ok done
    exact completes.raise.of_settle.skip rfl rfl
  | case8 reading margin flag rest ih =>
    obtain ⟨raised, done, ran⟩ := bind_eq_ok_iff.mp ran
    have completes := ih raised ran (List.forall_mem_cons.mp noneBare).2
    obtain ⟨verbose, rfl⟩ := raise_eq_ok done
    exact completes.raise.of_settle.skip rfl rfl
  | case9 => cases ran
  | case10 reading margin setting text rest ih =>
    obtain ⟨given, gave, ran⟩ := bind_eq_ok_iff.mp ran
    rw [List.forall_mem_cons] at noneBare
    have notBare : text ≠ "--" := by
      rintro rfl
      exact noneBare.1 (.attached setting)
    have completes : (reading.settle margin).Completes
        (.long (.setting setting) (some text) :: rest) last :=
      .give gave notBare (ih given ran noneBare.2) rfl rfl
    exact completes.of_settle
  | case11 reading margin setting text rest ih =>
    obtain ⟨given, gave, ran⟩ := bind_eq_ok_iff.mp ran
    rw [List.forall_mem_cons, List.forall_mem_cons] at noneBare
    have notBare : text ≠ "--" := by
      rintro rfl
      exact noneBare.2.1 .operand
    have completes : (reading.settle margin).Completes
        (.long (.setting setting) none :: .plain text :: rest) last :=
      .give gave notBare (ih given ran noneBare.2.2) rfl rfl
    exact completes.of_settle
  | case12 => cases ran

end Readings

/-- What an accepted command line with at most one lone `--` is read as: two operands, and the last
text that each setting got. -/
theorem Undivided.parse_eq_ok {words : List String} {arguments : Arguments}
    (undivided : Undivided words) (parsed : parse words = .ok arguments) :
    ∃ kinds input stem, classify words = .ok kinds ∧ operandTexts kinds = [input, stem] ∧
      arguments.input = some input ∧ arguments.stem = some stem ∧
        arguments.options.Reads (given? kinds) := by
  unfold parse at parsed
  split at parsed
  · cases parsed
  · rename_i kinds classified
    obtain ⟨last, ran, complete⟩ := bind_eq_ok_iff.mp parsed
    unfold Reading.arguments at complete
    split at complete
    · rename_i first second isTwo
      split at complete
      · rename_i clean
        cases complete
        have completes :=
          Reading.run_completes ran (List.isEmpty_iff.mp clean) (undivided.not_isBare classified)
        have two := completes.operands
        rw [isTwo, List.nil_append, eq_comm, List.map_eq_cons_iff] at two
        obtain ⟨input, others, texts, rfl, rest⟩ := two
        rw [List.map_eq_singleton_iff] at rest
        obtain ⟨stem, rfl, rfl⟩ := rest
        refine ⟨kinds, input, stem, classified, texts, rfl, rfl, ?_⟩
        have reads := completes.options _ Options.reads_nothing
        simpa only [Option.or_none] using reads
      · cases complete
    · cases complete

end InkToScreen.CommandLine
