import InkToScreen.Proofs.Conversion.Course
import InkToScreen.Proofs.Conversion.StepsTaken

namespace InkToScreen
variable {lib : Library} {α : Type} {converter : Converter} {input : Path} {stem : String}
  {earlier record : List (Entry lib)} {image : lib.Image} {before between after : World lib}

namespace Jpeg
variable {quality : Int} {path : Path} {icc exif : Option lib.Blob} {scratch : Scratch}

theorem install_quiet (scratch : Scratch) (path : Path) :
    (install scratch path : Run lib Unit).Quiet := by
  refine .bind (fun _ => rfl) fun mask => .bind (fun _ => rfl) fun world => ?_
  refine .bind (fun _ => rfl) fun permitted => .bind (fun _ => rfl) fun _ => ?_
  exact .bind (fun _ => rfl) fun renamed _ => rfl

theorem calls_encode (image : lib.Image) (options : JpegOptions lib.Blob) (scratch : Scratch)
    (before : World lib) :
    (encode image options scratch before).calls = [.encode image options scratch.folder] := by
  refine (Run.calls_bind (Run.ends_look before) _).trans ?_
  refine (Run.calls_bind_of_quiet fun encoding => .bind (fun _ => rfl) fun _ => ?_).trans rfl
  cases encoding.fault with
  | none => exact fun _ => rfl
  | some cause => exact fun _ => rfl

theorem calls_save_unplaced {cause : Fault}
    (refused : before.files.scratch path.parent = .error cause) :
    (save quality image path icc exif before).calls = [] :=
  (Run.calls_bind_error (newScratch_ends _ refused).1 _).trans (Run.calls_convertingFaults _ _ _)

theorem calls_save (placed : before.files.scratch path.parent = .ok scratch) :
    (save quality image path icc exif before).calls =
      [.encode image (options quality icc exif) scratch.folder] := by
  refine (Run.calls_bind (newScratch_ends (.ok scratch) placed) _).trans ?_
  rw [Run.calls_convertingFaults]
  refine (Run.calls_bind_of_quiet fun given => ?_).trans ?_
  · cases given with
    | ok _ => exact fun _ => rfl
    | error failure =>
      exact .bind (fun _ => rfl) fun _ world => Run.calls_convertingFaults _ _ _
  · exact (Run.calls_bind_of_quiet fun _ => install_quiet scratch path).trans
      (calls_encode image _ scratch before)

end Jpeg

namespace Input

private theorem vanish_quiet (path : Path) (image : lib.Image) :
    (do
      if lib.isFleeting image then
        let world ← Run.look
        match world.files.locate path with
        | .ok place => Run.setFiles (world.files.remove place)
        | .error _ => pure ()
      return image : Run lib lib.Image).Quiet := by
  split
  · refine .bind (fun _ => rfl) fun world => ?_
    split
    · exact fun _ => rfl
    · exact fun _ => rfl
  · exact fun _ => rfl

private theorem content?_quiet (path : Path) :
    (content? path : Run lib (Option lib.Content)).Quiet := by
  refine .bind (fun _ => rfl) fun world => ?_
  cases world.files.namesFile path with
  | error error => exact fun _ => rfl
  | ok isFile => cases isFile <;> exact fun _ => rfl

theorem calls_openImage {path : Path} (checked : before.files.namesFile path = .ok true) :
    (openImage path before).calls = [.openImage path] := by
  refine (Run.calls_bind (content?_ends checked) _).trans ?_
  rw [content?_quiet path before, List.nil_append]
  refine (Run.calls_bind_of_quiet fun given => ?_).trans rfl
  cases given with
  | ok image => exact vanish_quiet path image
  | error failure => cases failure <;> exact fun _ => rfl

/-- Without a file nothing is asked of the library. -/
theorem calls_openImage_of_not_file {path : Path}
    (checked : before.files.namesFile path ≠ .ok true) : (openImage path before).calls = [] := by
  have failed : ∃ failure, (content? path).Ends before (.error failure) before := by
    cases found : before.files.namesFile path with
    | error error =>
      refine ⟨.fault (.system error), (Run.ends_look before).bind ?_⟩
      simp only [found]
      exact Run.ends_fail _ before
    | ok isFile =>
      cases isFile with
      | true => exact absurd found checked
      | false =>
        refine ⟨.fault (.absent path), (Run.ends_look before).bind ?_⟩
        simp only [found]
        exact Run.ends_fail _ before
  obtain ⟨failure, ended⟩ := failed
  exact (Run.calls_bind_error ended.1 _).trans (content?_quiet path before)

/-- Opening the input makes one call if the path names a file, and none otherwise. -/
theorem Opens.takes_error {cause : Fault} (opening : Opens input before (.error cause) after) :
    ∃ record, (openImage input).Takes before record after ∧
      (record = [] ∨ record = [⟨.openInput, .openImage input, .error cause⟩]) := by
  cases opening with
  | blocked checked =>
    exact ⟨[], .quiet (calls_openImage_of_not_file (by simp [checked])), .inl rfl⟩
  | absent checked =>
    exact ⟨[], .quiet (calls_openImage_of_not_file (by simp [checked])), .inl rfl⟩
  | refused checked asked =>
    exact ⟨[⟨.openInput, .openImage input, .error cause⟩],
      ⟨calls_openImage checked, .single asked⟩, .inr rfl⟩

/-- Work on an open picture makes its calls between the opening and the closing of the picture. -/
theorem Opens.use_takes {work : Input lib → Run lib α}
    (opening : Opens input before (.ok image) between)
    (worked : (work (ofImage input image between.files)).Takes between record after) :
    (use input work).Takes before
      (⟨.openInput, .openImage input, .ok image⟩ ::
        (record ++ [⟨.closeInput, .close .input image, .ok ()⟩])) after where
  calls := by
    have opens : (openImage input before).calls = [.openImage input] := by
      cases opening with
      | opened checked => exact calls_openImage checked
    unfold use
    rw [Run.calls_bind opening.ends, opens, Run.calls_ensuring_close, List.map_cons,
      List.map_append, ← worked.calls]
    rfl
  dialogue := by
    have opens : Dialogue before [⟨.openImage input, .ok image⟩] between := by
      cases opening with
      | opened checked asked => exact .single asked
    rw [List.map_cons, List.map_append]
    exact opens.append (worked.dialogue.append (.single (.intro rfl)))

end Input

namespace Converter
variable {given : Except (Stage × Fault) (Transformed lib)}

/-- The calls of the work on a picture in process inks: it is transformed, encoded if there is a
scratch file for it, and closed. -/
inductive ProducesBy (converter : Converter) (picture : Input lib) (memory : lib.Memory) :
    List (Entry lib) → Except (Stage × Fault) (Transformed lib) → Option Scratch → Prop
  | stopped {record : List (Entry lib)}
      (transformed : converter.plan.TransformsBy picture record (.error stopped) notices) :
      ProducesBy converter picture memory record (.error stopped) none
  | unplaced {record : List (Entry lib)}
      (transformed : converter.plan.TransformsBy picture record (.ok result) notices) :
      ProducesBy converter picture memory
        (record ++ [⟨.closeResult, .close .result result.image, .ok ()⟩]) (.ok result) none
  | placed {record : List (Entry lib)}
      (transformed : converter.plan.TransformsBy picture record (.ok result) notices) :
      ProducesBy converter picture memory
        (record ++ [⟨.encode, .encode result.image
            (Jpeg.options converter.quality (some result.profile) picture.exif) scratch.folder,
            .ok (Jpeg.encoding converter.quality result.image (some result.profile) picture.exif
              memory)⟩,
          ⟨.closeResult, .close .result result.image, .ok ()⟩]) (.ok result) (some scratch)

variable {files : Files lib.Content} {memory : lib.Memory}

theorem ProducesBy.goesOn {placed : Option Scratch}
    (produced : converter.ProducesBy (.ofImage input image files) memory record given placed)
    (opened : Heard earlier .openInput (.openImage input) image)
    (inks : (lib.header image).mode = "CMYK") (below : Below earlier Step.decode.rank) :
    ∃ drawn : Except (Stage × Fault) lib.Image,
      converter.GoesOn input earlier record Step.closeInput.rank (resultHandle drawn) ∧
      ((∀ cause, given ≠ .error (.profileBytes, cause)) →
        closed (record.map Entry.exchange) = resultHandle drawn) ∧
      (Step.encode ∈ record.map Entry.step ↔ placed.isSome = true) := by
  cases produced with
  | @stopped failed notices record transformed =>
    obtain ⟨drawn, goes, stops, _⟩ := transformed.goesOn opened inks below
    refine ⟨drawn, goes.mono (by decide), fun outer => ?_,
      iff_of_false goes.below.right.not_mem (by simp)⟩
    obtain ⟨stage, cause⟩ := failed
    have outside : stage ≠ .profileBytes := by
      rintro rfl
      exact outer cause rfl
    rw [goes.closed_eq_nil (by decide), stops stage cause rfl outside]
    rfl
  | @unplaced result notices record transformed =>
    obtain ⟨_, goes, _, made⟩ := transformed.goesOn opened inks below
    obtain ⟨rfl, painted, _⟩ := made result rfl
    refine ⟨.ok result.image, goes.append
      (.entry (.closeResult painted) (goes.below.mono (by decide)) (by decide)), fun _ => ?_, ?_⟩
    · rw [List.map_append, closed_append, goes.closed_eq_nil (by decide)]
      rfl
    · rw [List.map_append, List.mem_append, or_iff_right goes.below.right.not_mem]
      simp
  | @placed result notices scratch record transformed =>
    obtain ⟨_, goes, _, made⟩ := transformed.goesOn opened inks below
    obtain ⟨rfl, painted, target, read⟩ := made result rfl
    have encodes (reply : Except Fault (Encoding lib.Content)) :
        converter.GoesOn input (earlier ++ record)
          [⟨.encode, .encode result.image (Jpeg.options converter.quality (some result.profile)
            (lib.header image).exif) scratch.folder, reply⟩] Step.closeResult.rank [] :=
      .entry (.encode opened.append painted read) goes.below (by decide)
    refine ⟨.ok result.image, goes.append ((encodes _).append
      (.entry (.closeResult painted.append) (encodes _).below (by decide))), fun _ => ?_, ?_⟩
    · rw [List.map_append, closed_append, goes.closed_eq_nil (by decide)]
      rfl
    · rw [List.map_append, List.mem_append, or_iff_right goes.below.right.not_mem]
      simp

/-- The encoder is called once, with the scratch file. -/
theorem ProducesBy.filter_isEncode {result : Transformed lib} {scratch : Scratch}
    (produced : converter.ProducesBy (.ofImage input image files) memory record (.ok result)
      (some scratch)) (inks : (lib.header image).mode = "CMYK") :
    (record.map Entry.call).filter Call.isEncode =
      [.encode result.image (Jpeg.options converter.quality (some result.profile)
        (lib.header image).exif) scratch.folder] := by
  cases produced with
  | placed transformed =>
    obtain ⟨_, goes, _⟩ :=
      transformed.goesOn List.mem_cons_self inks (opens_goesOn converter input image).below
    rw [List.map_append, List.filter_append, goes.filter_isEncode_eq_nil Nat.le.refl]
    rfl

theorem ProducesBy.decode_mem {picture : Input lib} {placed : Option Scratch}
    (produced : converter.ProducesBy picture memory record given placed) :
    Step.decode ∈ record.map Entry.step := by
  cases produced with
  | stopped transformed => exact transformed.decode_mem
  | unplaced transformed | placed transformed =>
    rw [List.map_append]
    exact List.mem_append_left _ transformed.decode_mem

/-- A picture that has been made is stored and closed. -/
private theorem ensuring_takes {result : Transformed lib} {saved : Run lib Path}
    (stores : saved.Takes before record after) :
    (Run.ensuring (saved >>= fun _ => pure result) (Run.close .result result.image)).Takes before
      (record ++ [⟨.closeResult, .close .result result.image, .ok ()⟩]) after where
  calls := by
    rw [Run.calls_ensuring_close, Run.calls_bind_of_quiet fun _ _ => rfl, stores.calls,
      List.map_append]
    rfl
  dialogue := by
    rw [List.map_append]
    exact stores.dialogue.append (.single (.intro rfl))

/-- The work on a picture in process inks makes its calls. There is a scratch file for it exactly
when the picture has been transformed and a scratch file can be made. -/
theorem produce_takes (stem : String)
    (transformed : converter.plan.Transforms (.ofImage input image files) before given after) :
    ∃ record placed last,
      converter.ProducesBy (.ofImage input image files) after.memory record given placed ∧
      (converter.produce (.ofImage input image files) (converter.settings.outputName stem)).Takes
        before record last ∧
      (Step.openBackstop ∈ record.map Entry.step ↔
        converter.plan.NeedsBackstop (.ofImage input image files) before) ∧
      ∀ scratch, placed = some scratch ↔ (∃ result, given = .ok result) ∧
        after.files.scratch (converter.output stem).parent = .ok scratch := by
  obtain ⟨record, notices, transformedBy, fallsBack, traces⟩ :=
    transformed.traces (converter.output stem)
  unfold produce
  cases given with
  | error stopped =>
    exact ⟨record, none, after, .stopped transformedBy, traces.toTakes.bind_error traces.ends.1,
      fallsBack, by simp⟩
  | ok result =>
    have goesOn {stores : List (Entry lib)} {last : World lib}
        (saves : (Jpeg.save converter.quality result.image (converter.output stem)
          (some result.profile) (lib.header image).exif).Takes after stores last) :
        (converter.produce (.ofImage input image files)
          (converter.settings.outputName stem)).Takes before
            (record ++ (stores ++ [⟨.closeResult, .close .result result.image, .ok ()⟩])) last :=
      have closes := ensuring_takes saves
      { calls := by
          refine (Run.calls_bind traces.ends _).trans ?_
          rw [traces.calls, List.map_append]
          exact congrArg (_ ++ ·) closes.calls
        dialogue := by
          rw [List.map_append]
          exact traces.dialogue.append closes.dialogue }
    have besides {more : List (Entry lib)} (others : Step.openBackstop ∉ more.map Entry.step) :
        Step.openBackstop ∈ (record ++ more).map Entry.step ↔
          converter.plan.NeedsBackstop (.ofImage input image files) before := by
      rw [List.map_append, List.mem_append, or_iff_left others]
      exact fallsBack
    cases placed : after.files.scratch (converter.output stem).parent with
    | error cause =>
      refine ⟨_, none, after, .unplaced transformedBy,
        goesOn (.quiet (Jpeg.calls_save_unplaced placed)), besides (by simp), by simp⟩
    | ok scratch =>
      have saves : (Jpeg.save converter.quality result.image (converter.output stem)
          (some result.profile) (lib.header image).exif).Takes after
            [⟨.encode, .encode result.image (Jpeg.options converter.quality (some result.profile)
              (lib.header image).exif) scratch.folder, .ok _⟩] _ :=
        ⟨Jpeg.calls_save placed, .single (.intro rfl)⟩
      exact ⟨_, some scratch, _, .placed transformedBy, goesOn saves, besides (by simp), by simp⟩

section Attempts
variable {record : List (Entry lib)}

private theorem attempt_takes_of_use (accepted : converter.settings.Accepts stem)
    (used : (Input.use input (converter.work (converter.settings.outputName stem))).Takes before
      record after) : (converter.attempt input stem).Takes before record after := by
  unfold attempt
  rw [stemError?_eq_none_iff.mpr accepted]
  refine used.bind_quiet fun made => ?_
  cases made with
  | none => exact fun _ => rfl
  | some result => exact fun _ => rfl

theorem attempt_takes_of_refused {error : ConversionError}
    (faulty : stemError? converter.settings stem = some error) :
    (converter.attempt input stem).Takes before [] before := by
  unfold attempt
  rw [faulty]
  exact .quiet rfl

theorem attempt_takes_of_unopened {cause : Fault} (accepted : converter.settings.Accepts stem)
    (opening : Input.Opens input before (.error cause) after) :
    ∃ record, (converter.attempt input stem).Takes before record after ∧
      (record = [] ∨ record = [⟨.openInput, .openImage input, .error cause⟩]) := by
  obtain ⟨record, taken, entries⟩ := opening.takes_error
  exact ⟨record, attempt_takes_of_use accepted (taken.bind_error opening.ends.1), entries⟩

/-- A picture that is not in process inks is opened and closed. -/
theorem attempt_takes_of_other (accepted : converter.settings.Accepts stem)
    (opening : Input.Opens input before (.ok image) after)
    (other : (lib.header image).mode ≠ "CMYK") :
    (converter.attempt input stem).Takes before
      [⟨.openInput, .openImage input, .ok image⟩, ⟨.closeInput, .close .input image, .ok ()⟩]
      after := by
  have worked : (converter.work (converter.settings.outputName stem)
      (.ofImage input image after.files)).Takes after [] after := by
    unfold work
    rw [if_neg fun inks => other (isCmyk_ofImage.mp inks)]
    exact .quiet rfl
  exact attempt_takes_of_use accepted (opening.use_takes worked)

theorem attempt_takes_of_inks (accepted : converter.settings.Accepts stem)
    (opening : Input.Opens input before (.ok image) between)
    (inks : (lib.header image).mode = "CMYK")
    (produced : (converter.produce (.ofImage input image between.files)
      (converter.settings.outputName stem)).Takes between record after) :
    (converter.attempt input stem).Takes before
      (⟨.openInput, .openImage input, .ok image⟩ ::
        (record ++ [⟨.closeInput, .close .input image, .ok ()⟩])) after := by
  have worked : (converter.work (converter.settings.outputName stem)
      (.ofImage input image between.files)).Takes between record after := by
    unfold work
    rw [if_pos (isCmyk_ofImage.mpr inks)]
    exact produced.bind_quiet fun _ _ => rfl
  exact attempt_takes_of_use accepted (opening.use_takes worked)

/-- Reporting how an attempt has ended makes no further calls. -/
theorem convert_takes {text : String}
    (attempted : (converter.attempt (.ofText text) stem).Takes before record after) :
    (converter.convert text stem).Takes before record after where
  calls := by
    refine (Run.calls_bind_of_quiet fun given => ?_).trans attempted.calls
    cases given with
    | ok status => exact fun _ => rfl
    | error failure =>
      cases reported : report? text failure with
      | none =>
        simp only [reported]
        exact fun _ => rfl
      | some notice =>
        simp only [reported]
        exact fun _ => rfl
  dialogue := attempted.dialogue

section Encoding
variable {text : String} {result : Transformed lib} {made : World lib} {scratch : Scratch}

/-- A conversion that makes a picture and has a scratch file for it works from the opening to the
closing of the input. -/
theorem convert_takes_of_scratch (accepted : converter.settings.Accepts stem)
    (opening : Input.Opens (.ofText text) before (.ok image) between)
    (inks : (lib.header image).mode = "CMYK")
    (transformed : converter.plan.Transforms (.ofImage (.ofText text) image between.files) between
      (.ok result) made)
    (placed : made.files.scratch (converter.output stem).parent = .ok scratch) :
    ∃ record last,
      converter.ProducesBy (.ofImage (.ofText text) image between.files) made.memory record
        (.ok result) (some scratch) ∧
      (converter.convert text stem).Takes before
        (⟨.openInput, .openImage (.ofText text), .ok image⟩ ::
          (record ++ [⟨.closeInput, .close .input image, .ok ()⟩])) last := by
  obtain ⟨record, found, last, produced, taken, _, scratches⟩ := produce_takes stem transformed
  obtain rfl := (scratches scratch).mpr ⟨⟨result, rfl⟩, placed⟩
  exact ⟨record, last, produced,
    convert_takes (attempt_takes_of_inks accepted opening inks taken)⟩

/-- Such a conversion calls the encoder once. -/
theorem convert_encodes_once (accepted : converter.settings.Accepts stem)
    (opening : Input.Opens (.ofText text) before (.ok image) between)
    (inks : (lib.header image).mode = "CMYK")
    (transformed : converter.plan.Transforms (.ofImage (.ofText text) image between.files) between
      (.ok result) made)
    (placed : made.files.scratch (converter.output stem).parent = .ok scratch) :
    (converter.convert text stem before).calls.filter Call.isEncode =
      [.encode result.image (Jpeg.options converter.quality (some result.profile)
        (lib.header image).exif) scratch.folder] := by
  obtain ⟨record, last, produced, taken⟩ :=
    convert_takes_of_scratch accepted opening inks transformed placed
  rw [taken.calls, List.map_cons, List.map_append]
  refine (List.filter_append _ _).trans ?_
  rw [produced.filter_isEncode inks]
  rfl

end Encoding

end Attempts

end Converter
end InkToScreen
