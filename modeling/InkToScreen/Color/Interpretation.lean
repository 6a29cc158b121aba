namespace InkToScreen

/-- The meaning of the channels of a picture. -/
inductive Interpretation where
  | cmyk
  | srgb
  | gray
  | lab
  | ycbcr
  | multiband
deriving DecidableEq, Repr

namespace Interpretation

def name : Interpretation → String
  | cmyk => "cmyk"
  | srgb => "srgb"
  | gray => "gray"
  | lab => "lab"
  | ycbcr => "ycbcr"
  | multiband => "multiband"

def screenModes : List String := ["RGB", "RGBA", "RGBX", "RGBa", "P", "PA"]

/-- Modes with one channel of light, besides the wide ones that begin with `I;16`. -/
def grayModes : List String := ["1", "L", "LA", "La"]

/-- The interpretation of a mode, which is compared as it is, case and blanks included. -/
def ofMode (mode : String) : Interpretation :=
  if mode = "CMYK" then cmyk
  else if mode ∈ screenModes then srgb
  else if mode ∈ grayModes ∨ "I;16".toList <+: mode.toList then gray
  else if mode = "LAB" then lab
  else if mode = "YCbCr" then ycbcr
  else multiband

/-- A picture is in process inks exactly when its mode says so letter by letter. -/
theorem ofMode_eq_cmyk_iff (mode : String) : ofMode mode = cmyk ↔ mode = "CMYK" := by
  unfold ofMode
  constructor
  · intro found
    by_cases inks : mode = "CMYK"
    · exact inks
    · simp only [inks, if_false] at found
      repeat' split at found
      all_goals cases found
  · rintro rfl
    rfl

end Interpretation
end InkToScreen
