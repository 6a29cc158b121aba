import InkToScreen.Proofs.Conversion.Records
import InkToScreen.Proofs.Conversion.RenderingTranscripts

namespace InkToScreen
variable {lib : Library} {α : Type}

private theorem mem_append_pair {earlier : List α} {first second : α} :
    second ∈ earlier ++ [first, second] :=
  List.mem_append_right _ (List.mem_cons_of_mem _ List.mem_cons_self)

/-- What a record tells of an attempt: what has come of it, or that the picture's own profile has
failed it. -/
def Tells (record : List (Entry lib)) (role : Role) (made : α → Prop) : Except Fault α → Prop
  | .ok value => made value
  | .error cause => role = .embedded → cause.kind.isProfile = true → Spoilt record

/-- The handle of a picture that has been made, if there is one. -/
def resultHandle {ε : Type} : Except ε lib.Image → List (Handle × lib.Image)
  | .ok image => [(.result, image)]
  | .error _ => []

namespace Plan
variable {converter : Converter} {input : Path} {earlier record : List (Entry lib)} {role : Role}
  {source target : lib.Profile} {intent : Intent} {image : lib.Image} {warning : Option Notice}

/-- The intent of a source profile is asked for, and its default one only if the answer is not
one. -/
theorem ChoosesBy.goesOn {given : Except Fault Intent}
    (chosen : converter.plan.ChoosesBy role source record given warning)
    (known : Sources earlier role source) (below : Below earlier (Step.queryIntent role).rank) :
    converter.GoesOn input earlier record (Step.build role).rank [] ∧
      Tells (earlier ++ record) role (Settled converter.plan (earlier ++ record) role source)
        given := by
  have lower := Step.rank_queryIntent_lt role
  have upper := Step.rank_queryDefault_lt role
  have once (reply : Except Fault Int) : converter.GoesOn input earlier
      [⟨.queryIntent role, .supportsIntent source converter.plan.intent, reply⟩]
      (Step.queryDefault role).rank [] :=
    .entry (.queryIntent known) below lower
  have twice {answer : Int} (reply : Except Fault Int) (other : answer ≠ 1) :
      converter.GoesOn input earlier
        [⟨.queryIntent role, .supportsIntent source converter.plan.intent, .ok answer⟩,
          ⟨.queryDefault role, .defaultIntent source, reply⟩] (Step.build role).rank [] :=
    (once (.ok answer)).append
      (.entry (.queryDefault List.mem_concat_self other) (once (.ok answer)).below upper)
  cases chosen with
  | unqueried =>
    refine ⟨(once _).mono (Nat.le_of_lt upper), ?_⟩
    rintro rfl absorbed
    exact .fault List.mem_concat_self rfl absorbed
  | wanted => exact ⟨(once _).mono (Nat.le_of_lt upper), .wanted List.mem_concat_self⟩
  | undefaulted other =>
    refine ⟨twice _ other, ?_⟩
    rintro rfl absorbed
    exact .fault mem_append_pair rfl absorbed
  | unknown other unknown =>
    refine ⟨twice (.ok _) other, ?_⟩
    rintro rfl absorbed
    exact .unknownIntent mem_append_pair unknown
  | fallback other =>
    exact ⟨twice (.ok _) other,
      .fallback mem_append_pair⟩

/-- A transform is built and then applied; a picture that it makes is handed out. -/
theorem PaintsBy.goesOn {given : Except Fault lib.Image}
    (painted : PaintsBy role image source target intent record given)
    (opened : Heard earlier .openInput (.openImage input) image) (prepared : Targets earlier target)
    (settled : Settled converter.plan earlier role source intent)
    (below : Below earlier (Step.build role).rank) :
    converter.GoesOn input earlier record ((Step.apply role).rank + 1) (resultHandle given) ∧
      Tells (earlier ++ record) role (Painted (earlier ++ record)) given := by
  have lower := Step.rank_build_lt role
  have once (reply : Except Fault lib.Transform) : converter.GoesOn input earlier
      [⟨.build role, .buildTransform source target .toScreen intent, reply⟩]
      (Step.apply role).rank [] :=
    .entry (.build prepared settled) below lower
  have twice {transform : lib.Transform} (reply : Except Fault (Option lib.Image)) :
      converter.GoesOn input earlier
        [⟨.build role, .buildTransform source target .toScreen intent, .ok transform⟩,
          ⟨.apply role, .applyTransform image transform, reply⟩] ((Step.apply role).rank + 1)
        (handedOut [⟨.applyTransform image transform, reply⟩]) :=
    (once (.ok transform)).append (.entry (.apply opened.append List.mem_concat_self)
      (once (.ok transform)).below (Nat.lt_succ_self _))
  cases painted with
  | unbuilt =>
    refine ⟨(once _).mono (by omega), ?_⟩
    rintro rfl absorbed
    exact .fault List.mem_concat_self rfl absorbed
  | unapplied =>
    refine ⟨twice _, ?_⟩
    rintro rfl absorbed
    exact .fault mem_append_pair rfl absorbed
  | empty =>
    refine ⟨twice _, ?_⟩
    rintro rfl absorbed
    exact .noPicture mem_append_pair
  | painted =>
    exact ⟨twice _, .intro mem_append_pair⟩

theorem TriesBy.goesOn {given : Except Fault (lib.Image × Intent)}
    (tried : converter.plan.TriesBy role image source target record given warning)
    (known : Sources earlier role source)
    (opened : Heard earlier .openInput (.openImage input) image) (prepared : Targets earlier target)
    (below : Below earlier (Step.queryIntent role).rank) :
    converter.GoesOn input earlier record ((Step.apply role).rank + 1)
        (resultHandle (given.map Prod.fst)) ∧
      Tells (earlier ++ record) role (fun made => Painted (earlier ++ record) made.1) given := by
  have lower := Step.rank_build_lt role
  cases tried with
  | unchosen chosen =>
    obtain ⟨asked, told⟩ := chosen.goesOn known below
    exact ⟨asked.mono (by omega), told⟩
  | unpainted chosen painted | painted chosen painted =>
    obtain ⟨asked, settled⟩ := chosen.goesOn known below
    obtain ⟨drawn, told⟩ := painted.goesOn opened.append prepared.append settled asked.below
    refine ⟨asked.append drawn, ?_⟩
    rw [← List.append_assoc]
    exact told

/-- The attempt with the picture's own profile begins with its bytes. -/
theorem TriesOwnBy.goesOn {bytes : lib.Blob} {given : Except Fault (lib.Image × Intent)}
    (tried : converter.plan.TriesOwnBy image bytes target record given warning)
    (opened : Heard earlier .openInput (.openImage input) image)
    (carried : (lib.header image).icc = some bytes) (filled : lib.isEmpty bytes = false)
    (prepared : Targets earlier target) (below : Below earlier Step.parse.rank) :
    converter.GoesOn input earlier record Step.openBackstop.rank
        (resultHandle (given.map Prod.fst)) ∧
      Tells (earlier ++ record) .embedded (fun made => Painted (earlier ++ record) made.1)
        given := by
  have parses (reply : Except Fault lib.Profile) : converter.GoesOn input earlier
      [⟨.parse, .parseProfile bytes, reply⟩] (Step.queryIntent .embedded).rank [] :=
    .entry (.parse prepared opened carried filled) below (by decide)
  cases tried with
  | unparsed =>
    refine ⟨(parses _).mono (by decide), ?_⟩
    rintro _ absorbed
    exact .fault List.mem_concat_self rfl absorbed
  | parsed tried =>
    obtain ⟨tries, told⟩ := tried.goesOn (.parsed List.mem_concat_self) opened.append
      prepared.append (parses (.ok _)).below
    rw [List.append_assoc] at told
    exact ⟨(parses (.ok _)).append tries, told⟩

/-- The backstop profile is opened and then tried. -/
theorem FallsBackBy.goesOn {kind : ProfileSource} {warnings : List Notice}
    {given : Except (Stage × Fault) (Rendering lib)}
    (fallen : converter.plan.FallsBackBy image target kind warnings record given warning)
    (opened : Heard earlier .openInput (.openImage input) image) (prepared : Targets earlier target)
    (due : converter.Due input earlier .openBackstop (.openProfile converter.plan.backstop))
    (below : Below earlier Step.openBackstop.rank) :
    converter.GoesOn input earlier record Step.readTarget.rank
        (resultHandle (given.map Rendering.image)) ∧
      ∀ made, given = .ok made →
        made.target = target ∧ Painted (earlier ++ record) made.image := by
  have opens (reply : Except Fault lib.Profile) : converter.GoesOn input earlier
      [⟨.openBackstop, .openProfile converter.plan.backstop, reply⟩]
      (Step.queryIntent .backstop).rank [] :=
    .entry due below (by decide)
  cases fallen with
  | unopened => exact ⟨(opens _).mono (by decide), nofun⟩
  | unrendered tried =>
    obtain ⟨tries, _⟩ := tried.goesOn (.opened List.mem_concat_self) opened.append prepared.append
      (opens (.ok _)).below
    exact ⟨(opens (.ok _)).append tries, nofun⟩
  | rendered tried =>
    obtain ⟨tries, painted⟩ := tried.goesOn (.opened List.mem_concat_self) opened.append
      prepared.append (opens (.ok _)).below
    refine ⟨(opens (.ok _)).append tries, ?_⟩
    rintro made ⟨⟩
    rw [List.append_assoc] at painted
    exact ⟨rfl, painted⟩

/-- The profile of the screen is made, or opened where one is given. -/
theorem targetEntry_goesOn (reply : Except Fault lib.Profile)
    (decoded : Heard earlier .decode (.load image) ())
    (below : Below earlier Step.openTarget.rank) :
    converter.GoesOn input earlier [converter.plan.targetEntry reply] Step.parse.rank [] ∧
      ∀ profile, reply = .ok profile →
        Targets (earlier ++ [converter.plan.targetEntry reply]) profile := by
  unfold targetEntry
  cases srgb : converter.plan.srgb with
  | none =>
    refine ⟨.entry (.makeTarget decoded srgb) below (by decide), ?_⟩
    rintro profile rfl
    exact .made List.mem_concat_self
  | some path =>
    refine ⟨.entry (.openTarget decoded srgb) below (by decide), ?_⟩
    rintro profile rfl
    exact .opened List.mem_concat_self

section Rendering
variable {files : Files lib.Content} {notices : List Notice}

theorem decode_goesOn (converter : Converter) (reply : Except Fault Unit)
    (opened : Heard earlier .openInput (.openImage input) image)
    (inks : (lib.header image).mode = "CMYK") (below : Below earlier Step.decode.rank) :
    converter.GoesOn input earlier [⟨.decode, .load image, reply⟩] Step.openTarget.rank [] :=
  .entry (.decode opened inks) below (by decide)

/-- The pixels are decoded before the profile of the screen is got. -/
theorem preparing_goesOn (converter : Converter) (target : lib.Profile)
    (opened : Heard earlier .openInput (.openImage input) image)
    (inks : (lib.header image).mode = "CMYK") (below : Below earlier Step.decode.rank) :
    converter.GoesOn input earlier (converter.plan.preparing image target) Step.parse.rank [] ∧
      Targets (earlier ++ converter.plan.preparing image target) target := by
  have decoding := decode_goesOn converter (.ok ()) opened inks below
  obtain ⟨targets, known⟩ := targetEntry_goesOn (.ok target) List.mem_concat_self decoding.below
  have prepared := known target rfl
  rw [List.append_assoc] at prepared
  exact ⟨decoding.append targets, prepared⟩

/-- A rendering takes its steps before the bytes of the target are read. -/
theorem RendersBy.goesOn {given : Except (Stage × Fault) (Rendering lib)}
    (rendered : converter.plan.RendersBy (.ofImage input image files) record given notices)
    (opened : Heard earlier .openInput (.openImage input) image)
    (inks : (lib.header image).mode = "CMYK") (below : Below earlier Step.decode.rank) :
    converter.GoesOn input earlier record Step.readTarget.rank
        (resultHandle (given.map Rendering.image)) ∧
      ∀ made, given = .ok made →
        Targets (earlier ++ record) made.target ∧ Painted (earlier ++ record) made.image := by
  have starts (target : lib.Profile) := preparing_goesOn converter target opened inks below
  cases rendered with
  | undecoded =>
    exact ⟨(decode_goesOn converter _ opened inks below).mono (by decide), nofun⟩
  | untargeted =>
    have decoding := decode_goesOn converter (.ok ()) opened inks below
    obtain ⟨targets, _⟩ := targetEntry_goesOn _ List.mem_concat_self decoding.below
    exact ⟨(decoding.append targets).mono (by decide), nofun⟩
  | embedded carried tried =>
    obtain ⟨given, filled⟩ := Input.profile_eq_some_iff.mp carried
    obtain ⟨start, targets⟩ := starts _
    obtain ⟨tries, told⟩ := tried.goesOn opened.append given filled targets start.below
    refine ⟨start.append (tries.mono (by decide)), ?_⟩
    rintro _ ⟨⟩
    rw [← List.append_assoc]
    exact ⟨targets.append, told⟩
  | interrupted carried tried unabsorbed =>
    obtain ⟨given, filled⟩ := Input.profile_eq_some_iff.mp carried
    obtain ⟨start, targets⟩ := starts _
    obtain ⟨tries, _⟩ := tried.goesOn opened.append given filled targets start.below
    exact ⟨start.append (tries.mono (by decide)), nofun⟩
  | fallback carried failed absorbed fallen =>
    obtain ⟨given, filled⟩ := Input.profile_eq_some_iff.mp carried
    obtain ⟨start, targets⟩ := starts _
    obtain ⟨tries, told⟩ := failed.goesOn opened.append given filled targets start.below
    obtain ⟨falls, painted⟩ := fallen.goesOn opened.append.append targets.append
      (.openBackstopOfSpoilt targets.append (told rfl absorbed)) tries.below
    refine ⟨start.append (tries.append falls), ?_⟩
    intro made same
    obtain ⟨rfl, drawn⟩ := painted made same
    rw [← List.append_assoc, ← List.append_assoc]
    exact ⟨targets.append.append, drawn⟩
  | unprofiled absent fallen =>
    obtain ⟨start, targets⟩ := starts _
    obtain ⟨falls, painted⟩ := fallen.goesOn opened.append targets
      (.openBackstopOfAbsent targets opened.append (Input.profile_eq_none_iff.mp absent))
      (start.below.mono (by decide))
    refine ⟨start.append falls, ?_⟩
    intro made same
    obtain ⟨rfl, drawn⟩ := painted made same
    rw [← List.append_assoc]
    exact ⟨targets.append, drawn⟩

/-- A transform takes the steps of its rendering and then reads the bytes of the target. -/
theorem TransformsBy.goesOn {given : Except (Stage × Fault) (Transformed lib)}
    (transformed : converter.plan.TransformsBy (.ofImage input image files) record given notices)
    (opened : Heard earlier .openInput (.openImage input) image)
    (inks : (lib.header image).mode = "CMYK") (below : Below earlier Step.decode.rank) :
    ∃ drawn, converter.GoesOn input earlier record Step.encode.rank (resultHandle drawn) ∧
      (∀ stage cause, given = .error (stage, cause) → stage ≠ .profileBytes →
        drawn = .error (stage, cause)) ∧
      ∀ result, given = .ok result → drawn = .ok result.image ∧
        Painted (earlier ++ record) result.image ∧
        ∃ target, Heard (earlier ++ record) .readTarget (.profileBytes target) result.profile := by
  cases transformed with
  | @unrendered _ stopped _ rendered =>
    obtain ⟨renders, _⟩ := rendered.goesOn opened inks below
    refine ⟨.error stopped, renders.mono (by decide), ?_, nofun⟩
    rintro stage cause ⟨⟩ _
    rfl
  | @unread _ made _ cause rendered =>
    obtain ⟨renders, known⟩ := rendered.goesOn opened inks below
    obtain ⟨targets, painted⟩ := known _ rfl
    refine ⟨.ok made.image, renders.append
      (.entry (.readTarget targets painted) renders.below (by decide)), ?_, nofun⟩
    rintro stage cause ⟨⟩ outer
    exact absurd rfl outer
  | @transformed _ made _ profile rendered =>
    obtain ⟨renders, known⟩ := rendered.goesOn opened inks below
    obtain ⟨targets, painted⟩ := known _ rfl
    refine ⟨.ok made.image, renders.append
      (.entry (.readTarget targets painted) renders.below (by decide)), nofun, ?_⟩
    rintro result ⟨⟩
    rw [← List.append_assoc]
    exact ⟨rfl, painted.append, _, List.mem_concat_self⟩

theorem RendersBy.decode_mem {picture : Input lib} {plan : Plan}
    {given : Except (Stage × Fault) (Rendering lib)}
    (rendered : plan.RendersBy picture record given notices) :
    Step.decode ∈ record.map Entry.step := by
  cases rendered <;> exact List.mem_cons_self

theorem TransformsBy.decode_mem {picture : Input lib} {plan : Plan}
    {given : Except (Stage × Fault) (Transformed lib)}
    (transformed : plan.TransformsBy picture record given notices) :
    Step.decode ∈ record.map Entry.step := by
  cases transformed with
  | unrendered rendered => exact rendered.decode_mem
  | unread rendered | transformed rendered =>
    rw [List.map_append]
    exact List.mem_append_left _ rendered.decode_mem

end Rendering
end Plan
end InkToScreen
