/-!
# Rounding

Every step from a measured quantity to an integer goes through the exact rational it stands for.

## Main definitions

- `roundHalfEven`: the nearest integer of a rational, an exact half going to the even neighbour.
- `truncate`: the integer part of a rational, toward zero.
-/

namespace Lamella

/-- The integer nearest to `q`; of two equally near, the even one. -/
def roundHalfEven (q : Rat) : Int :=
  let low := q.floor
  let excess := q - (low : Rat)
  if excess < 1 / 2 then low
  else if 1 / 2 < excess then low + 1
  else if low % 2 = 0 then low
  else low + 1

/-- The integer part of `q`, toward zero. -/
def truncate (q : Rat) : Int := if q < 0 then q.ceil else q.floor

end Lamella
