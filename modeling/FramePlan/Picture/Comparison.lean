import FramePlan.Number.Single

/-!
# Comparing pictures

A rendered picture is compared with a reference channel by channel. Rendered values are moved into
the unit interval first, since a reference of eight bits cannot hold others.

`Picture.compare` is the verifier's `compare_images`, and `Comparison` its `CompareResult`.
-/

namespace FramePlan

/-- Red, green, blue and alpha of a pixel. -/
abbrev Pixel := Vector Single 4

/-- A rectangle of pixels, row by row. -/
structure Picture where
  width : Nat
  height : Nat
  pixels : List Pixel
  length_pixels : pixels.length = width * height
deriving DecidableEq, Repr

/-- The verdict of a comparison. -/
inductive Comparison where
  | same
  | sizes (rendered reference : Nat × Nat)
  /-- Some channels differ by more than allowed. -/
  | pixels (matched : Vector Bool 4) (greatest : Single)
deriving DecidableEq, Repr

namespace Picture

/-- The picture with the given channels, pixel by pixel. The channels of all pixels have to be countable
and there; further ones are left over. -/
def ofChannels? (width height : Nat) (channels : List Single) : Option Picture :=
  if henough : 4 * (width * height) < UInt64.size ∧ 4 * (width * height) ≤ channels.length then
    some {
      width, height
      pixels := List.ofFn fun place : Fin (width * height) =>
        Vector.ofFn fun channel : Fin 4 => channels[4 * place.val + channel.val]
      length_pixels := List.length_ofFn }
  else none

/-- How far a rendered pixel is from the reference, per channel. -/
def difference (rendered reference : Pixel) : Pixel :=
  Vector.zipWith (fun value wanted => ((value.clamp .zero .one).sub wanted).abs) rendered reference

/-- The differences of two pictures, pixel by pixel. -/
def differences (rendered reference : Picture) : List Pixel :=
  List.zipWith difference rendered.pixels reference.pixels

/-- For every channel whether no difference in it is above the tolerance. -/
def matched (tolerance : Single) (differences : List Pixel) : Vector Bool 4 :=
  Vector.ofFn fun channel => differences.all fun pixel => !tolerance.lt pixel[channel]

/-- The greatest difference in any channel; what is no number does not count. -/
def greatest (differences : List Pixel) : Single :=
  (differences.flatMap Vector.toList).foldl Single.max .zero

def compare (rendered reference : Picture) (tolerance : Single) : Comparison :=
  if (rendered.width, rendered.height) ≠ (reference.width, reference.height) then
    .sizes (rendered.width, rendered.height) (reference.width, reference.height)
  else
    let differences := differences rendered reference
    let matched := matched tolerance differences
    if matched.all id then .same else .pixels matched (greatest differences)

end Picture

end FramePlan
