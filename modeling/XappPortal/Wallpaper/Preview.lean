/-
# The preview

The wallpaper dialog shows a preview with the shape of the monitor.  The image is decoded at no
more than the size that the preview needs on the monitor with the greatest scale factor, then it is
turned as its embedded orientation says, and it is scaled again when it is drawn.  The size is
chosen before the image is turned, so a quarter turn can leave it too small (`preview_sharp_iff`).

Sizes are numbers of pixels.  The source computes scales and products with `double`; here they are
rational numbers, so that all that is shown is about exact arithmetic, and the rounding of `double`
can make a side one pixel longer.
-/
import Mathlib.Algebra.Order.Floor.Semiring
import Mathlib.Data.Rat.Floor
import Mathlib.Tactic.FieldSimp
import Mathlib.Tactic.Linarith
import Mathlib.Tactic.NormNum

namespace XappPortal.Wallpaper

/-- A size in pixels. -/
structure Size where
  width : ℕ
  height : ℕ
deriving DecidableEq, Repr

/-- The sides of a monitor. -/
structure Geometry extends Size where
  width_pos : 0 < width
  height_pos : 0 < height

/-- A monitor. -/
structure GdkMonitor where
  geometry : Geometry
  scaleFactor : ℕ

/-- A display, with its primary monitor if it has one. -/
structure GdkDisplay where
  primaryMonitor : Option GdkMonitor
  monitors : List GdkMonitor

/-- The sizes in `PreviewData`. -/
structure PreviewData extends Size where
  scale : ℕ
deriving DecidableEq, Repr

/-- The embedded orientations. -/
inductive Orientation where
  | normal
  | flippedHorizontally
  | rotated180
  | flippedVertically
  | transposed
  | rotated90
  | transversed
  | rotated270
deriving DecidableEq, Repr

/-- Whether the orientation exchanges width and height. -/
def Orientation.quarterTurn : Orientation → Bool
  | .normal | .flippedHorizontally | .rotated180 | .flippedVertically => false
  | .transposed | .rotated90 | .transversed | .rotated270 => true

/-- The size after `gdk_pixbuf_apply_embedded_orientation`. -/
def applyEmbeddedOrientation (o : Orientation) (size : Size) : Size :=
  if o.quarterTurn then ⟨size.height, size.width⟩ else size

/-! ## The source's arithmetic -/

/-- `PREVIEW_SIZE`. -/
def previewSize : ℕ := 400

/-- The geometry without a monitor. -/
def defaultGeometry : Geometry := ⟨⟨16, 9⟩, by decide, by decide⟩

/-- `measure_preview`. -/
def measurePreview (display : GdkDisplay) : PreviewData :=
  let monitor := display.primaryMonitor.or display.monitors[0]?
  let geometry := (monitor.map (·.geometry)).getD defaultGeometry
  let scale := display.monitors.foldl (fun scale monitor => max scale monitor.scaleFactor) 1
  if geometry.width ≥ geometry.height then
    ⟨⟨previewSize, previewSize * geometry.height / geometry.width⟩, scale⟩
  else ⟨⟨previewSize * geometry.width / geometry.height, previewSize⟩, scale⟩

/-- `on_size_prepared`: the size at which an image of a size is decoded. -/
def onSizePrepared (data : PreviewData) (size : Size) : Size :=
  let scale : ℚ :=
    max (data.width * data.scale / size.width) (data.height * data.scale / size.height)
  if scale < 1 then ⟨⌈size.width * scale⌉₊, ⌈size.height * scale⌉₊⟩ else size

/-- `decode_preview`, for a stored image of a size. -/
def decodePreview (data : PreviewData) (stored : Size) (o : Orientation) : Size :=
  applyEmbeddedOrientation o (onSizePrepared data stored)

/-- The scale of `draw_preview`. -/
def drawScale (allocated image : Size) : ℚ :=
  max (allocated.width / image.width) (allocated.height / image.height)

/-! ## When the decoded image is large enough -/

/-- The image has as many pixels as the preview on the monitor with the greatest scale factor. -/
def PreviewData.FilledBy (data : PreviewData) (image : Size) : Prop :=
  data.width * data.scale ≤ image.width ∧ data.height * data.scale ≤ image.height

instance (data : PreviewData) (image : Size) : Decidable (data.FilledBy image) :=
  inferInstanceAs (Decidable (_ ∧ _))

/-- An image reduced to the width `a` and the height `b` that the preview needs, whichever takes
more, has them also after a quarter turn. -/
def SurvivesTurn (a b : ℕ) (stored : Size) : Prop :=
  (a ≤ b ∨ a * stored.width < a * stored.height + stored.width) ∧
  (b ≤ a ∨ b * stored.height < b * stored.width + stored.height)

/-- The decoded image fills the preview: it is not turned by a quarter, or not reduced, or it has
enough pixels also after the turn. -/
def Suffices (data : PreviewData) (stored : Size) (o : Orientation) : Prop :=
  o.quarterTurn = false ∨ stored.width ≤ data.width * data.scale ∨
    stored.height ≤ data.height * data.scale ∨
    SurvivesTurn (data.width * data.scale) (data.height * data.scale) stored

instance (data : PreviewData) (stored : Size) (o : Orientation) :
    Decidable (Suffices data stored o) := by
  unfold Suffices SurvivesTurn
  infer_instance

section Ceil

variable {a b w h : ℕ}

lemma le_ceil_div_iff (hw : 0 < w) :
    a ≤ ⌈(h * a / w : ℚ)⌉₊ ↔ a * w < a * h + w := by
  have hwq : (0 : ℚ) < w := Nat.cast_pos.mpr hw
  cases a with
  | zero => simp [hw]
  | succ a =>
    rw [Nat.succ_le_iff, Nat.lt_ceil, lt_div_iff₀ hwq]
    have hcast : ((a : ℚ) * w < h * (a + 1 : ℕ)) ↔ a * w < h * (a + 1) := by norm_cast
    rw [hcast]
    constructor
    · intro hlt
      nlinarith
    · intro hlt
      nlinarith

/-- A side `h` of an image of width `w`, reduced by the greater of the ratios `a / w` and
`b / h`. -/
lemma le_ceil_scaled_iff (hw : 0 < w) (hh : 0 < h) :
    a ≤ ⌈h * max (a / w : ℚ) (b / h)⌉₊ ↔ a ≤ b ∨ a * w < a * h + w := by
  have hhq : (0 : ℚ) < h := Nat.cast_pos.mpr hh
  have hmax : h * max (a / w : ℚ) (b / h) = max (h * a / w : ℚ) b := by
    rw [mul_max_of_nonneg _ _ hhq.le, mul_div_assoc, mul_div_cancel₀ _ hhq.ne']
  rw [hmax, Nat.ceil_mono.map_max, Nat.ceil_natCast, le_max_iff, le_ceil_div_iff hw, or_comm]

/-- A side of length `w`, reduced by a ratio of at least `a / w`. -/
lemma le_ceil_scaled {x : ℚ} (hw : 0 < w) (hx : (a / w : ℚ) ≤ x) : a ≤ ⌈w * x⌉₊ := by
  have hwq : (0 : ℚ) < w := Nat.cast_pos.mpr hw
  have hle : (a : ℚ) ≤ ⌈w * x⌉₊ := by
    calc (a : ℚ) = w * (a / w) := (mul_div_cancel₀ _ hwq.ne').symm
      _ ≤ w * x := mul_le_mul_of_nonneg_left hx hwq.le
      _ ≤ ⌈w * x⌉₊ := Nat.le_ceil _
  exact_mod_cast hle

end Ceil

section Decoded

variable {data : PreviewData} {stored : Size} {o : Orientation}

/-- Only images that are larger than the preview in both directions are reduced. -/
lemma onSizePrepared_cases (data : PreviewData) (hw : 0 < stored.width) (hh : 0 < stored.height) :
    (∃ scale : ℚ, scale = max ((data.width * data.scale : ℕ) / stored.width : ℚ)
        ((data.height * data.scale : ℕ) / stored.height : ℚ) ∧
      data.width * data.scale < stored.width ∧ data.height * data.scale < stored.height ∧
      onSizePrepared data stored = ⟨⌈stored.width * scale⌉₊, ⌈stored.height * scale⌉₊⟩) ∨
    (stored.width ≤ data.width * data.scale ∨ stored.height ≤ data.height * data.scale) ∧
      onSizePrepared data stored = stored := by
  have hwq : (0 : ℚ) < stored.width := Nat.cast_pos.mpr hw
  have hhq : (0 : ℚ) < stored.height := Nat.cast_pos.mpr hh
  have hlt : max (data.width * data.scale / stored.width : ℚ)
        (data.height * data.scale / stored.height) < 1 ↔
      data.width * data.scale < stored.width ∧ data.height * data.scale < stored.height := by
    rw [max_lt_iff, div_lt_one hwq, div_lt_one hhq]
    norm_cast
  rw [onSizePrepared]
  simp only [hlt]
  split
  · next h => exact Or.inl ⟨_, by push_cast; rfl, h.1, h.2, rfl⟩
  · next h => exact Or.inr ⟨by omega, rfl⟩

/-- Without a quarter turn the decoded image fills the preview if the stored one does. -/
lemma filledBy_onSizePrepared (hw : 0 < stored.width) (hh : 0 < stored.height)
    (h : data.FilledBy stored) : data.FilledBy (onSizePrepared data stored) := by
  obtain ⟨scale, hscale, -, -, heq⟩ | ⟨-, heq⟩ := onSizePrepared_cases data hw hh
  · rw [heq]
    exact ⟨le_ceil_scaled hw (hscale ▸ le_max_left ..),
      le_ceil_scaled hh (hscale ▸ le_max_right ..)⟩
  · rwa [heq]

/-- With a quarter turn the sides of the reduced image are exchanged. -/
lemma filledBy_turned_iff (hw : 0 < stored.width) (hh : 0 < stored.height)
    (h : data.FilledBy ⟨stored.height, stored.width⟩) :
    data.FilledBy ⟨(onSizePrepared data stored).height, (onSizePrepared data stored).width⟩ ↔
      stored.width ≤ data.width * data.scale ∨ stored.height ≤ data.height * data.scale ∨
      SurvivesTurn (data.width * data.scale) (data.height * data.scale) stored := by
  obtain ⟨scale, hscale, hwidth, hheight, heq⟩ | ⟨hlarge, heq⟩ := onSizePrepared_cases data hw hh
  · have hturned : data.width * data.scale ≤ ⌈stored.height * scale⌉₊ ↔
        data.width * data.scale ≤ data.height * data.scale ∨
        data.width * data.scale * stored.width <
          data.width * data.scale * stored.height + stored.width := by
      rw [hscale, le_ceil_scaled_iff hw hh]
    have hturned' : data.height * data.scale ≤ ⌈stored.width * scale⌉₊ ↔
        data.height * data.scale ≤ data.width * data.scale ∨
        data.height * data.scale * stored.height <
          data.height * data.scale * stored.width + stored.height := by
      rw [hscale, max_comm, le_ceil_scaled_iff hh hw]
    rw [heq, PreviewData.FilledBy, hturned, hturned', SurvivesTurn]
    have hnot : ¬ stored.width ≤ data.width * data.scale ∧
        ¬ stored.height ≤ data.height * data.scale := by omega
    simp only [hnot.1, hnot.2, false_or]
  · rw [heq]
    exact ⟨fun _ => hlarge.elim Or.inl fun hlarge => Or.inr (Or.inl hlarge), fun _ => h⟩

/-- **When the decoded image fills the preview**, given that the whole image does. -/
lemma filledBy_decodePreview_iff (hw : 0 < stored.width) (hh : 0 < stored.height)
    (h : data.FilledBy (applyEmbeddedOrientation o stored)) :
    data.FilledBy (decodePreview data stored o) ↔ Suffices data stored o := by
  rw [decodePreview, Suffices]
  rw [applyEmbeddedOrientation] at h ⊢
  cases hturn : o.quarterTurn with
  | false =>
    rw [hturn] at h
    exact ⟨fun _ => Or.inl rfl, fun _ => filledBy_onSizePrepared hw hh h⟩
  | true =>
    rw [hturn] at h
    rw [if_pos rfl, filledBy_turned_iff hw hh h]
    simp

/-- An image that fills the preview is not enlarged when it is drawn. -/
lemma drawScale_le (hscale : 0 < data.scale) {image : Size} (h : data.FilledBy image) :
    drawScale data.toSize image ≤ 1 / data.scale := by
  have hsq : (0 : ℚ) < data.scale := Nat.cast_pos.mpr hscale
  have hside : ∀ a n : ℕ, a * data.scale ≤ n → (a / n : ℚ) ≤ 1 / data.scale := by
    intro a n hle
    have hleq : (a * data.scale : ℚ) ≤ n := by exact_mod_cast hle
    refine div_le_of_le_mul₀ n.cast_nonneg (by positivity) ?_
    rw [one_div_mul_eq_div, le_div_iff₀ hsq]
    exact hleq
  exact max_le (hside _ _ h.1) (hside _ _ h.2)

end Decoded

lemma scale_measurePreview_pos (display : GdkDisplay) : 0 < (measurePreview display).scale := by
  have hfold : ∀ (monitors : List GdkMonitor) (scale : ℕ), 0 < scale →
      0 < monitors.foldl (fun scale monitor => max scale monitor.scaleFactor) scale := by
    intro monitors
    induction monitors with
    | nil => exact fun _ h => h
    | cons monitor monitors ih => exact fun scale h => ih _ (lt_max_of_lt_left h)
  rw [measurePreview]
  split
  · exact hfold _ _ Nat.one_pos
  · exact hfold _ _ Nat.one_pos

/-- **The preview is drawn from enough pixels, and not enlarged, exactly if the image is not turned
by a quarter, or is not reduced, or has enough pixels also after the turn.** -/
theorem preview_sharp_iff {display : GdkDisplay} {stored : Size} {o : Orientation}
    (hw : 0 < stored.width) (hh : 0 < stored.height)
    (h : (measurePreview display).FilledBy (applyEmbeddedOrientation o stored)) :
    ((measurePreview display).FilledBy (decodePreview (measurePreview display) stored o) ∧
      drawScale (measurePreview display).toSize (decodePreview (measurePreview display) stored o) ≤
        1 / (measurePreview display).scale) ↔
    Suffices (measurePreview display) stored o := by
  rw [← filledBy_decodePreview_iff hw hh h]
  exact ⟨And.left,
    fun hfilled => ⟨hfilled, drawScale_le (scale_measurePreview_pos display) hfilled⟩⟩

/-- A turned photograph on a monitor with scale factor 2. -/
theorem preview_sharp_photograph :
    (measurePreview ⟨none, [⟨⟨⟨1920, 1080⟩, by decide, by decide⟩, 2⟩]⟩).FilledBy
      (decodePreview (measurePreview ⟨none, [⟨⟨⟨1920, 1080⟩, by decide, by decide⟩, 2⟩]⟩)
        ⟨3000, 4000⟩ .rotated90) ∧
    drawScale (measurePreview ⟨none, [⟨⟨⟨1920, 1080⟩, by decide, by decide⟩, 2⟩]⟩).toSize
      (decodePreview (measurePreview ⟨none, [⟨⟨⟨1920, 1080⟩, by decide, by decide⟩, 2⟩]⟩)
        ⟨3000, 4000⟩ .rotated90) ≤
      1 / (measurePreview ⟨none, [⟨⟨⟨1920, 1080⟩, by decide, by decide⟩, 2⟩]⟩).scale :=
  (preview_sharp_iff (by decide) (by decide) (by decide)).mpr (by decide)

/-- A turned panorama is decoded too small. -/
theorem not_preview_sharp : ¬ ∀ (display : GdkDisplay) (stored : Size) (o : Orientation),
    0 < stored.width → 0 < stored.height →
    (measurePreview display).FilledBy (applyEmbeddedOrientation o stored) →
    (measurePreview display).FilledBy (decodePreview (measurePreview display) stored o) ∧
      drawScale (measurePreview display).toSize
        (decodePreview (measurePreview display) stored o) ≤ 1 / (measurePreview display).scale := by
  intro h
  have hlarge : (measurePreview ⟨none, []⟩).FilledBy
      (applyEmbeddedOrientation .rotated90 ⟨4000, 1000⟩) := by decide
  have hfilled := (h ⟨none, []⟩ ⟨4000, 1000⟩ .rotated90 (by decide) (by decide) hlarge).1
  rw [filledBy_decodePreview_iff (by decide) (by decide) hlarge] at hfilled
  exact absurd hfilled (by decide)

end XappPortal.Wallpaper
