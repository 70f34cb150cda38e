/-
# The desktop mode

The macros of `utils.h` that tell for which desktop the portal has been started.
-/
import Mathlib.Tactic.Common

namespace XappPortal

/-- `CINNAMON_MODE`. -/
def cinnamonMode (mode : String) : Bool := mode == "cinnamon"

/-- `MATE_MODE`. -/
def mateMode (mode : String) : Bool := mode == "mate"

/-- `XFCE_MODE`. -/
def xfceMode (mode : String) : Bool := mode == "xfce"

end XappPortal
