import FramePlan.Image
import FramePlan.Value
import FramePlan.Picture.Comparison

/-!
# Reading a picture back

A device copies the rows of an image to places that are multiples of 256 bytes apart. Reading an
image back takes the padding off again.

`Readback.read?` is the verifier's `read_image` from the copy on, with `padded_bytes_per_row` and
`unpad_rows` as `rowBytes` and `unpad?`.
-/

namespace FramePlan.Readback

inductive Fault where
  | unsupportedFormat (format : ImageFormat)
  /-- What is left without the padding does not make a picture. -/
  | sizeMismatch (floats : Nat)
deriving DecidableEq, Repr

def Fault.message : Fault → String
  | .unsupportedFormat format => s!"image format {format.name} cannot be read back as color"
  | .sizeMismatch floats => s!"readback produced {floats} floats, which does not fit the image size"

/-- Only color images can be read back. -/
def check (format : ImageFormat) : Except Fault Unit :=
  if format = .color then .ok () else .error (.unsupportedFormat format)

/-- The distance between rows that copies need. -/
def rowAlignment : Nat := 256

/-- The bytes from one row to the next, padding included. -/
def rowBytes (width pixelBytes : Nat) : Nat := roundUp rowAlignment (width * pixelBytes)

/-- Cuts a list into pieces of a positive length; the last one may be shorter. -/
def pieces {α : Type} (length : Nat) (hpos : 0 < length) (items : List α) : List (List α) :=
  match items with
  | [] => []
  | first :: rest =>
    (first :: rest).take length :: pieces length hpos ((first :: rest).drop length)
termination_by items.length
decreasing_by
  simp only [List.length_drop, List.length_cons]
  omega

/-- The rows of an image without their padding: of each piece of the data the floats of `width`
pixels. Fails if the pieces have no length or one of those rows is too short. -/
def unpad? (data : List Single) (width height rowFloats : Nat) : Option (List Single) :=
  if hpos : 0 < rowFloats then
    let rows := (pieces rowFloats hpos data).take height
    if rows.all fun row => 4 * width ≤ row.length then some (rows.flatMap (·.take (4 * width)))
    else none
  else none

/-- The bytes of a pixel that is read back: four floats. -/
def pixelBytes : Nat := 16

/-- Reads an image back, given the floats that a device copies for it: the rows of the image, each with
its padding. Nothing comes of it if the padding cannot be taken off. -/
def read? (format : ImageFormat) (width height : UInt32) (copied : List Single) :
    Option (Except Fault Picture) :=
  match check format with
  | .error fault => some (.error fault)
  | .ok () =>
    (unpad? copied width.toNat height.toNat (rowBytes width.toNat pixelBytes / 4)).map fun kept =>
      match Picture.ofChannels? width.toNat height.toNat kept with
      | some picture => .ok picture
      | none => .error (.sizeMismatch kept.length)

end FramePlan.Readback
