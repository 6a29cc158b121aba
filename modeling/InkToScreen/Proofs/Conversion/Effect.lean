import InkToScreen.Proofs.Conversion.Course

namespace InkToScreen
variable {lib : Library}

/-- The trees differ at one place only, where a path finds a file in the second one. -/
inductive Files.StoredAt (path : Path) (content : α) (permissions : Permissions)
    (before after : Files α) : Prop
  | intro (located : after.locate path = .ok place)
      (stored : after.node? place = some (.file content permissions))
      (home : after.home = before.home)
      (others : ∀ other, other ≠ place → after.node? other = before.node? other)

/-- The tree that a conversion is answerable for: the one before, without the file of a picture that
is fleeting, if such a picture is opened. -/
inductive Input.Leaves (path : Path) (before : World lib) : Files lib.Content → Prop
  | kept : Leaves path before before.files
  | vanished {image : lib.Image}
      (asked : Answered (lib.openImage path (before.files.readable? path)) before (.ok image) after)
      (fleeting : lib.isFleeting image = true) (located : before.files.locate path = .ok place) :
      Leaves path before (before.files.remove place)

/-- What the encoder writes in a conversion: the picture that the conversion has made from its input
with a source profile. -/
inductive Converter.Encodes (converter : Converter) (input : Path) (before : World lib)
    (source : ProfileSource) : lib.Content → Prop
  | intro {encoding : Encoding lib.Content}
      (opening : Input.Opens input before (.ok image) between)
      (inks : (lib.header image).mode = "CMYK")
      (transformed : converter.plan.Transforms (.ofImage input image between.files) between
        (.ok result) made)
      (used : result.source = source)
      (encoded : lib.encode result.image (Jpeg.options converter.quality (some result.profile)
        (lib.header image).exif) made.memory = (encoding, memory))
      (sound : encoding.fault = none) (kept : encoding.lost = false) :
      Encodes converter input before source encoding.content

theorem Input.Opens.leaves {path : Path} {before after : World lib}
    {given : Except Fault lib.Image} (opening : Opens path before given after) :
    Leaves path before after.files := by
  cases opening with
  | blocked checked | absent checked => exact .kept
  | refused checked asked =>
    rw [asked.sameSystem.files]
    exact .kept
  | @opened image between checked asked =>
    simp only [treeWith, asked.sameSystem.files]
    by_cases fleeting : lib.isFleeting image = true
    · simp only [fleeting, if_true]
      cases located : before.files.locate path with
      | error obstacle => exact .kept
      | ok place => exact .vanished asked fleeting located
    · simp only [fleeting]
      exact .kept

/-- Where no picture is fleeting, the tree that a conversion is answerable for is the one before. -/
theorem Input.Leaves.eq_of_lasting {path : Path} {before : World lib} {files : Files lib.Content}
    (leaves : Leaves path before files) (lasting : ∀ image, lib.isFleeting image = false) :
    files = before.files := by
  cases leaves with
  | kept => rfl
  | vanished asked fleeting located =>
    rw [lasting] at fleeting
    cases fleeting

theorem Files.storedAt_put_target {files : Files α} {path : Path} {place : Place}
    (found : files.target path = .ok place) (content : α) (permissions : Permissions) :
    StoredAt path content permissions files (files.put place (.file content permissions)) :=
  .intro (locate_put_target found content permissions)
    (node?_put_self files _ (target_ne_nil found)) rfl fun _ different =>
      node?_put_other files _ different

namespace Converter
variable {converter : Converter} {input : Path} {stem : String} {before after : World lib}
  {verdict : Verdict lib}

theorem Course.umask (taken : converter.Course input stem before verdict after) :
    after.umask = before.umask := by
  cases taken with
  | refused faulty => rfl
  | unopened accepted opening | spared accepted opening other => exact opening.umask
  | untransformed accepted opening inks transformed =>
    rw [transformed.sameSystem.umask, opening.umask]
  | unstored accepted opening inks transformed stored
  | converted accepted opening inks transformed stored =>
    rw [stored.umask, transformed.sameSystem.umask, opening.umask]

/-- A conversion without a result leaves the tree alone. -/
theorem Course.leaves (taken : converter.Course input stem before verdict after)
    (unconverted : ∀ result, verdict ≠ .converted result) :
    Input.Leaves input before after.files := by
  cases taken with
  | refused faulty => exact .kept
  | unopened accepted opening | spared accepted opening other => exact opening.leaves
  | untransformed accepted opening inks transformed =>
    rw [transformed.sameSystem.files]
    exact opening.leaves
  | unstored accepted opening inks transformed stored =>
    rw [stored.sameSystem.files, transformed.sameSystem.files]
    exact opening.leaves
  | converted => exact absurd rfl (unconverted _)

/-- A conversion with a result stores its encoding at the output path. -/
theorem Course.stores {result : Transformed lib}
    (taken : converter.Course input stem before (.converted result) after) :
    ∃ left content, Input.Leaves input before left ∧
      converter.Encodes input before result.source content ∧
        Files.StoredAt (converter.output stem) content (.newFile before.umask) left
          after.files := by
  cases taken with
  | @converted image between _ made _ accepted opening inks transformed stored =>
    cases stored with
    | @stored _ encoding memory place placed encoded sound kept found =>
      have same := transformed.sameSystem
      rw [← opening.umask, ← same.umask]
      refine ⟨made.files, encoding.content, ?_, ?_, Files.storedAt_put_target found _ _⟩
      · rw [same.files]
        exact opening.leaves
      · exact .intro opening inks transformed rfl encoded sound kept

/-- A conversion that succeeds changes the output path only, which finds the encoding of the result;
any other changes nothing. The mask is as before. -/
theorem convert_atomic (converter : Converter) (input stem : String) (before : World lib) :
    (converter.convert input stem before).world.umask = before.umask ∧
      ∃ left, Input.Leaves (.ofText input) before left ∧
        (∀ source : ProfileSource,
          (converter.convert input stem before).result = .ok source.status →
            ∃ content, converter.Encodes (.ofText input) before source content ∧
              Files.StoredAt (converter.output stem) content (.newFile before.umask) left
                (converter.convert input stem before).world.files) ∧
        ((∀ source : ProfileSource,
          (converter.convert input stem before).result ≠ .ok source.status) →
            (converter.convert input stem before).world.files = left) := by
  obtain ⟨verdict, after, taken⟩ := Course.total converter (.ofText input) stem before
  obtain ⟨returned, reached⟩ := taken.convert_ends
  rw [returned, reached]
  refine ⟨taken.umask, ?_⟩
  by_cases success : ∃ result, verdict = .converted result
  · obtain ⟨result, rfl⟩ := success
    obtain ⟨left, content, leaves, encodes, stored⟩ := taken.stores
    refine ⟨left, leaves, ?_, fun failed => absurd rfl (failed result.source)⟩
    intro source returned
    obtain rfl := ProfileSource.status_injective (Except.ok.inj returned)
    exact ⟨content, encodes, stored⟩
  · have unconverted : ∀ result, verdict ≠ .converted result :=
      fun result same => success ⟨result, same⟩
    refine ⟨after.files, taken.leaves unconverted, ?_, fun _ => rfl⟩
    intro source returned
    obtain ⟨result, same, _⟩ := Verdict.converted_of_result returned
    exact absurd same (unconverted result)

end Converter
end InkToScreen
